import SqlLint.Lexer.CutLemmas

/-!
# Lexed lines

A line is scanned from left to right: the first rule that applies cuts off its piece, and the scan
goes on with the rest until the text is used up or no rule applies. What is left then is kept
as the unlexed remainder of the line. `lexLine` gives the tokens of a line and the state behind
it, and a `LexSession` carries the state from line to line.
-/

set_option autoImplicit false

namespace SqlLint

structure ScanStep where
  rule : Rule
  cut : Cut
  tokens : List Token

/-- The steps of a scan, the state behind them and the text that they leave. -/
structure Scan where
  steps : List ScanStep
  state : LexState
  rest : List Char

/-- The last significant token of a list, or `previous` if there is none. -/
def lastSignificant (previous : Option Token) (tokens : List Token) : Option Token :=
  (tokens.reverse.find? (·.category.isSignificant)).or previous

/-- Scans a text; `previous` is the last significant token before it on the line. -/
def RuleTable.scan (table : RuleTable) (previous : Option Token) (state : LexState)
    (text : List Char) : Scan :=
  match _applied : table.firstCut? state text with
  | none => ⟨[], state, text⟩
  | some (rule, cut) =>
      let tokens := rule.tokens (table.starIsKeyword state previous) cut
      let later := table.scan (lastSignificant previous tokens) (rule.nextState cut state) cut.rest
      ⟨⟨rule, cut, tokens⟩ :: later.steps, later.state, later.rest⟩
termination_by text.length
decreasing_by exact RuleTable.rest_length_lt _applied

def Scan.tokens (scan : Scan) : List Token :=
  scan.steps.flatMap (·.tokens)

/-- The remainder of a line to which no rule applies. -/
structure Unlexed where
  /-- Where the remainder starts, in bytes. -/
  offset : Nat
  text : String
deriving DecidableEq

/-- What lexing makes of a line. -/
structure LexedLine where
  tokens : List Token
  entryState : LexState
  /-- The state behind the last rule that applied. -/
  exitState : LexState
  unlexed : Option Unlexed
deriving DecidableEq

namespace LexedLine

def isComplete (line : LexedLine) : Bool :=
  line.unlexed.isNone

def text (line : LexedLine) : String :=
  String.join (line.tokens.map (·.text))

/-- The tokens that are not white space. -/
def significant (line : LexedLine) : List Token :=
  line.tokens.filter (!·.isWhitespace)

end LexedLine

/-- The text of a token with keywords in a style. -/
def Token.render (style : KeywordStyle) (token : Token) : String :=
  if token.category = .keyword then style.format token.text else token.text

/-- The text of a line with its keywords in a style; a remainder stays as it is. -/
def LexedLine.render (style : KeywordStyle) (line : LexedLine) : String :=
  String.join (line.tokens.map (·.render style)) ++ (line.unlexed.map (·.text)).getD ""

/-- The remainder of a line that a scan leaves. -/
def Unlexed.ofRest? (line : String) (rest : List Char) : Option Unlexed :=
  if rest.isEmpty then none
  else
    let text := String.ofList rest
    some ⟨line.utf8ByteSize - text.utf8ByteSize, text⟩

namespace RuleTable

def lexLine (table : RuleTable) (state : LexState) (line : String) : LexedLine :=
  let scan := table.scan none state line.toList
  ⟨scan.tokens, state, scan.state, Unlexed.ofRest? line scan.rest⟩

end RuleTable

/-- A lexer in use: its rules and the state before the next line. -/
structure LexSession where
  table : RuleTable
  state : LexState := {}

namespace LexSession

def reset (session : LexSession) : LexSession :=
  { session with state := {} }

def lexLine (session : LexSession) (line : String) : LexedLine × LexSession :=
  let lexed := session.table.lexLine session.state line
  (lexed, { session with state := lexed.exitState })

def lexLines (session : LexSession) : List String → List LexedLine × LexSession
  | [] => ([], session)
  | line :: lines =>
      let (lexed, next) := session.lexLine line
      let (others, last) := next.lexLines lines
      (lexed :: others, last)

end LexSession

end SqlLint
