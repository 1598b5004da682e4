import SqlLint.Document.Run
import SqlLint.Style.Checker

/-!
# Log records

Processing a document leaves a trail of records. All of them can be read off the report: which
rules applied to a line follows from its literal and its entry state.
-/

set_option autoImplicit false

namespace SqlLint

/-- The levels at which records are made. -/
inductive LogLevel
  | warn
  | debug
  | trace
deriving DecidableEq

def LogLevel.name : LogLevel → String
  | warn => "WARN"
  | debug => "DEBUG"
  | trace => "TRACE"

structure LogRecord where
  level : LogLevel
  message : String
deriving DecidableEq

/-- How a state is shown in a record. -/
def LexState.display (state : LexState) : String :=
  "LexState \x7b in_comment: " ++ toString state.inComment ++ ", in_select_list: " ++
    toString state.inSelectList ++ " \x7d"

namespace LogRecord

def ofStep (step : ScanStep) : LogRecord :=
  ⟨.trace, "rule " ++ step.rule.name ++ " matched " ++ Text.quote (String.ofList step.cut.taken)⟩

def ofBareWrapper? (diagnostic : Diagnostic) : Option LogRecord :=
  if diagnostic.kind = .bareWrapper then
    some ⟨.debug, s!"bare wrapper at offset {diagnostic.offset}: " ++ Text.quote diagnostic.text⟩
  else none

def ofDiagnostic (diagnostic : Diagnostic) : LogRecord :=
  ⟨.warn, diagnostic.display⟩

def ofLexed (line : LineReport) : LogRecord :=
  ⟨.debug, s!"line {line.index}: {line.tokens.length} tokens, exit state " ++
    line.lexed.exitState.display⟩

end LogRecord

def LineReport.log (table : RuleTable) (line : LineReport) : List LogRecord :=
  line.diagnostics.filterMap LogRecord.ofBareWrapper? ++
    (table.scan none line.lexed.entryState line.literal.toList).steps.map LogRecord.ofStep ++
    line.diagnostics.map LogRecord.ofDiagnostic ++ [LogRecord.ofLexed line]

def DocumentReport.log (table : RuleTable) (report : DocumentReport) : List LogRecord :=
  report.lines.flatMap (·.log table)

namespace Style

/-- The record that the check of a line leaves, if it found something. -/
def lineLog (settings : LintSettings) (line : LineReport) :
    Except CheckFault (List LogRecord) := do
  if isBlankLine line.tokens then
    return []
  let violations ← checkLine settings line.index line.tokens
  if violations.isEmpty then
    return []
  return [⟨.trace, s!"line {line.index}: {violations.length} violations"⟩]

/-- The records that the check of a document leaves. -/
def log (settings : LintSettings) (report : DocumentReport) :
    Except CheckFault (List LogRecord) := do
  let violations ← check settings report
  let lines ← report.lines.mapM (lineLog settings)
  return lines.flatten ++
    [⟨.debug, s!"checked {report.lines.length} lines, {violations.length} violations"⟩]

end Style

end SqlLint
