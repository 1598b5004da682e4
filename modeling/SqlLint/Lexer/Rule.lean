import SqlLint.Settings.Choice
import SqlLint.Lexer.Cut
import SqlLint.Lexer.State

/-!
# Lexical rules

The rules are tried in order of priority and the first that recognises the front of the text wins;
how much a rule takes does not matter. So the marks of comments stand before operators, and
literals before identifiers. Inside a block comment two rules of their own apply.

A rule turns its cut into tokens and moves the state. Blanks before and behind a body become
tokens of their own, so that the tokens of a cut together are the text that it takes.
-/

set_option autoImplicit false

namespace SqlLint

inductive Rule
  | commentEnd
  | commentRest
  | commentBegin
  | commentLine
  | comma
  | bracketLeft
  | bracketRight
  | keyword
  | quoted
  | operator
  | identifier
  | whitespace
deriving DecidableEq

namespace Rule

/-- The name of a rule in listings and log records. -/
def name : Rule → String
  | commentEnd => "comment_end"
  | commentRest => "comment_rest"
  | commentBegin => "comment_begin"
  | commentLine => "comment_line"
  | comma => "comma"
  | bracketLeft => "bracket_left"
  | bracketRight => "bracket_right"
  | keyword => "keyword"
  | quoted => "quoted"
  | operator => "operator"
  | identifier => "identifier"
  | whitespace => "whitespace"

/-- What a rule recognises, as a regular expression with one group for each token. -/
def pattern : Rule → String
  | commentEnd => "^(.*?)(\\*/)"
  | commentRest => "(?s)^(.+)"
  | commentBegin => "^(\\s*)(/\\*)"
  | commentLine => "^(\\s*)(#.*|--.*)"
  | comma => "^(\\s*)(,)(\\s*)"
  | bracketLeft => "^(\\s*)(\\()(\\s*)"
  | bracketRight => "^(\\s*)(\\))(\\s*)"
  | keyword => "^(\\s*)([A-Za-z0-9_]+)(\\(|\\s+|$)"
  | quoted => "^(\\s*)(\".+\"|\x27.+\x27|\x60.+\x60)(\\s*)"
  | operator => "^(\\s*)([=<>!\\+\\-\\*/\\&\\|]+)(\\s*)"
  | identifier => "^(\\s*)([^,()\x7b\x7d#\\s]+)(\\s*)"
  | whitespace => "^(\\s+)"

/-- The rules inside a block comment, in order of priority. -/
def inComment : List Rule :=
  [commentEnd, commentRest]

/-- The rules outside comments, in order of priority. -/
def inCode : List Rule :=
  [commentBegin, commentLine, comma, bracketLeft, bracketRight, keyword, quoted, operator,
    identifier, whitespace]

/-- The cut that a rule makes at the front of a text. -/
def cut? (keywords : KeywordSet) (text : List Char) : Rule → Option Cut
  | commentEnd => Cut.commentEnd? text
  | commentRest => Cut.everything? text
  | commentBegin => Cut.padded? Cut.takeCommentMark false text
  | commentLine => Cut.padded? Cut.takeLineComment false text
  | comma => Cut.padded? (Cut.takeChar ',') true text
  | bracketLeft => Cut.padded? (Cut.takeChar '(') true text
  | bracketRight => Cut.padded? (Cut.takeChar ')') true text
  | keyword => Cut.keyword? keywords text
  | quoted => Cut.padded? Cut.takeQuoted true text
  | operator => Cut.padded? (Cut.takeRun Cut.isOperatorChar) true text
  | identifier => Cut.padded? (Cut.takeRun Cut.isIdentifierChar) true text
  | whitespace => Cut.blanks? text

def leadCategory : Rule → TokenCategory
  | commentEnd => .comment
  | _ => .whitespace

/-- The category of the body; a lone asterisk is a keyword where it stands for columns. -/
def bodyCategory (starIsKeyword : Bool) (body : List Char) : Rule → TokenCategory
  | commentEnd | commentRest | commentBegin | commentLine => .comment
  | comma => .comma
  | bracketLeft | bracketRight => .bracket
  | keyword => .keyword
  | quoted | identifier => .identifier
  | operator => if body = ['*'] && starIsKeyword then .keyword else .operator
  | whitespace => .whitespace

def trailCategory (trail : List Char) : TokenCategory :=
  if trail = ['('] then .bracket else .whitespace

/-- The tokens of a cut: one for each group that is not empty. -/
def tokens (starIsKeyword : Bool) (cut : Cut) (rule : Rule) : List Token :=
  [Token.span? rule.leadCategory cut.lead,
    Token.span? (rule.bodyCategory starIsKeyword cut.body) cut.body,
    Token.span? (trailCategory cut.trail) cut.trail].filterMap id

def nextState (cut : Cut) (state : LexState) : Rule → LexState
  | commentEnd => { state with inComment := false }
  | commentBegin => { state with inComment := true }
  | keyword => state.afterKeyword (String.ofList cut.body)
  | _ => state

end Rule

/-- What the rules depend on besides the text: the keywords and the policy for asterisks. -/
structure RuleTable where
  keywords : KeywordSet
  starExpansion : StarExpansion

namespace RuleTable

/-- The rules that apply in a state, in order of priority. -/
def rules (state : LexState) : List Rule :=
  if state.inComment then Rule.inComment else Rule.inCode

/-- The first rule that recognises the front of the text, with its cut. -/
def firstCut? (table : RuleTable) (state : LexState) (text : List Char) : Option (Rule × Cut) :=
  (rules state).findSome? fun rule => (rule.cut? table.keywords text).map (rule, ·)

/-- Behind this token, or at the start of a line, a column is expected. -/
def expectsColumn : Option Token → Bool
  | none => true
  | some token =>
      token.category == .comma || token.isKeyword "SELECT" || token.isKeyword "DISTINCT" ||
        token.isKeyword "ALL"

/-- A lone asterisk is a keyword here; `previous` is the last significant token of the line. -/
def starIsKeyword (table : RuleTable) (state : LexState) (previous : Option Token) : Bool :=
  state.inSelectList &&
    match table.starExpansion with
    | .anywhere => true
    | .selectTarget => expectsColumn previous

end RuleTable

end SqlLint
