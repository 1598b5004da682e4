import SqlLint.Lexer.Line
import SqlLint.Markup.Extract
import SqlLint.Text.Quoted

/-!
# Reports

The report on a document has one entry for each line: the literal text, how it was written in the
markup, what the lexer makes of it, and a diagnostic for everything that could not be read.
-/

set_option autoImplicit false

namespace SqlLint

/-- What could not be read. -/
inductive DiagnosticKind
  | bareWrapper
  | unmatchedMarkup
  | noRuleMatch
deriving DecidableEq

/-- How a diagnostic names its kind. -/
def DiagnosticKind.display : DiagnosticKind → String
  | bareWrapper => "bare wrapper"
  | unmatchedMarkup => "unmatched markup"
  | noRuleMatch => "no rule match"

/-- A place in a line from which on it was not read. -/
structure Diagnostic where
  line : Nat
  kind : DiagnosticKind
  /-- The place in bytes, in the markup or in the literal text. -/
  offset : Nat
  text : String
deriving DecidableEq

/-- The text under which a diagnostic is shown. -/
def Diagnostic.display (diagnostic : Diagnostic) : String :=
  s!"line {diagnostic.line}: " ++ diagnostic.kind.display ++ s!" at offset {diagnostic.offset}: " ++
    Text.quote diagnostic.text

def Diagnostic.ofHalt (line : Nat) (halt : Markup.Halt) : Diagnostic :=
  let kind := match halt.kind with
    | .bareWrapper => .bareWrapper
    | .unmatched => .unmatchedMarkup
  ⟨line, kind, halt.offset, halt.remainder⟩

def Diagnostic.ofUnlexed (line : Nat) (unlexed : Unlexed) : Diagnostic :=
  ⟨line, .noRuleMatch, unlexed.offset, unlexed.text⟩

structure LineReport where
  index : Nat
  /-- The text that was lexed. -/
  literal : String
  /-- How the text was written; empty for plain text. -/
  rawTokens : List Markup.RawToken
  lexed : LexedLine
  diagnostics : List Diagnostic
deriving DecidableEq

namespace LineReport

def tokens (line : LineReport) : List Token :=
  line.lexed.tokens

def isComplete (line : LineReport) : Bool :=
  line.diagnostics.isEmpty

end LineReport

structure DocumentReport where
  lines : List LineReport
  /-- The state behind the last line. -/
  finalState : LexState
deriving DecidableEq

namespace DocumentReport

def isComplete (report : DocumentReport) : Bool :=
  report.lines.all (·.isComplete)

/-- The diagnostics of all lines in order. -/
def diagnostics (report : DocumentReport) : List Diagnostic :=
  report.lines.flatMap (·.diagnostics)

end DocumentReport

end SqlLint
