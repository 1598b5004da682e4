import SqlLint.Document.Report
import SqlLint.Settings
import SqlLint.Text.Lines

/-!
# Reading documents

A document comes as lines of markup, as literal lines, or as one SQL text that is cut into lines.
Its lines are lexed in order, each from the state behind the line before it; documents do not
influence each other.
-/

set_option autoImplicit false

namespace SqlLint

def RuleTable.ofSettings (settings : LexerSettings) : RuleTable :=
  ⟨KeywordSet.withExtra settings.extraKeywords, settings.starExpansion⟩

/-- A literal line, taken as it is. -/
def Markup.ExtractedLine.ofLiteral (text : String) : Markup.ExtractedLine :=
  ⟨text, [], none⟩

/-- Lexes an extracted line and collects what could not be read. -/
def LineReport.ofExtracted (table : RuleTable) (index : Nat) (state : LexState)
    (extracted : Markup.ExtractedLine) : LineReport :=
  let lexed := table.lexLine state extracted.text
  { index
    literal := extracted.text
    rawTokens := extracted.rawTokens
    lexed
    diagnostics :=
      (extracted.halt.map (Diagnostic.ofHalt index)).toList ++
        (lexed.unlexed.map (Diagnostic.ofUnlexed index)).toList }

namespace DocumentReport

/-- Reports on the lines from `index` on, and the state behind the last one. -/
def readFrom (table : RuleTable) (index : Nat) (state : LexState) :
    List Markup.ExtractedLine → List LineReport × LexState
  | [] => ([], state)
  | line :: lines =>
      let report := LineReport.ofExtracted table index state line
      let (others, final) := readFrom table (index + 1) report.lexed.exitState lines
      (report :: others, final)

def ofExtracted (table : RuleTable) (lines : List Markup.ExtractedLine) : DocumentReport :=
  let (reports, final) := readFrom table 0 {} lines
  ⟨reports, final⟩

def ofMarkup (table : RuleTable) (fragments : List String) : DocumentReport :=
  ofExtracted table (fragments.map Markup.extractLine)

def ofLines (table : RuleTable) (lines : List String) : DocumentReport :=
  ofExtracted table (lines.map Markup.ExtractedLine.ofLiteral)

def ofText (table : RuleTable) (text : String) : DocumentReport :=
  ofLines table (Text.splitLines text)

/-- The report on a file of markup, which holds one fragment per line. -/
def ofMarkupFile (table : RuleTable) (source : String) : DocumentReport :=
  ofMarkup table (Text.fileLines source)

/-- The reports on several documents of markup. -/
def ofDocuments (table : RuleTable) (documents : List (List String)) : List DocumentReport :=
  documents.map (ofMarkup table)

end DocumentReport

end SqlLint
