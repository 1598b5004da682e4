import SqlLint.Document.Json
import SqlLint.Json.Printer
import SqlLint.Style.Json

/-!
# Printed reports

A report is printed as text or as JSON. The text has for each line its number, its literal with
keywords in a style, its tokens, and its diagnostics. Violations are printed one per line or as a
JSON array.
-/

set_option autoImplicit false

namespace SqlLint

inductive OutputFormat
  | text
  | json
deriving DecidableEq

/-- A number, right-aligned in a column of some width. -/
def alignRight (width n : Nat) : String :=
  String.ofList (List.leftpad width ' ' (Text.digits n))

def endLine (text : String) : String :=
  text ++ "\n"

/-- The printed lines for one line of a document. -/
def LineReport.print (style : KeywordStyle) (line : LineReport) : List String :=
  [alignRight 4 line.index ++ ": " ++ line.lexed.render style] ++
    (if line.tokens.isEmpty then []
      else ["      " ++ " ".intercalate (line.tokens.map (·.display))]) ++
    line.diagnostics.map fun diagnostic => "      ! " ++ diagnostic.display

def DocumentReport.print (format : OutputFormat) (style : KeywordStyle)
    (report : DocumentReport) : String :=
  match format with
  | .json => Json.print report.toJson
  | .text => String.join ((report.lines.flatMap (·.print style)).map endLine)

/-- Reads a report that was printed as JSON. -/
def DocumentReport.parseJson : String → Except Fault DocumentReport :=
  Json.parseAs DocumentReport.ofJson?

def Violation.printAll (format : OutputFormat) (violations : List Violation) : String :=
  match format with
  | .json => Json.print (Json.ofList Violation.toJson violations)
  | .text => String.join (violations.map fun violation => endLine violation.display)

/-- Reads violations that were printed as JSON. -/
def Violation.parseAllJson : String → Except Fault (List Violation) :=
  Json.parseAs (Json.list? Violation.ofJson?)

end SqlLint
