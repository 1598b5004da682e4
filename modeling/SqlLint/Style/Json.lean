import SqlLint.Json.Record
import SqlLint.Settings.Json
import SqlLint.Style.Violation

/-!
# Violations in JSON

A violation is written as a record and can be read back. Its kind is a choice: a name alone, or a
name with what the kind carries.
-/

set_option autoImplicit false

namespace SqlLint

open Json.Field

namespace ViolationKind

/-- The kinds that carry nothing, under their names. -/
def plain : List (String × ViolationKind) :=
  [("DuplicatedSpaces", duplicatedSpaces), ("WhitespaceAfterComma", whitespaceAfterComma),
    ("WhitespaceBeforeComma", whitespaceBeforeComma),
    ("WhitespaceAfterBracket", whitespaceAfterBracket),
    ("WhitespaceBeforeBracket", whitespaceBeforeBracket), ("JoinTable", joinTable)]

def toJson : ViolationKind → Json
  | indentSteps steps width =>
      Json.tagged "IndentSteps" [("steps", .natural steps), ("width", .natural width)]
  | duplicatedSpaces => .string "DuplicatedSpaces"
  | keywordCase style found expected =>
      Json.tagged "KeywordCase"
        [("style", .string style.name), ("found", .string found), ("expected", .string expected)]
  | commaPosition expected =>
      Json.tagged "CommaPosition" [("expected", .string expected.name)]
  | whitespaceAfterComma => .string "WhitespaceAfterComma"
  | whitespaceBeforeComma => .string "WhitespaceBeforeComma"
  | whitespaceAfterBracket => .string "WhitespaceAfterBracket"
  | whitespaceBeforeBracket => .string "WhitespaceBeforeBracket"
  | whitespaceAfterOperator text =>
      Json.tagged "WhitespaceAfterOperator" [("text", .string text)]
  | whitespaceBeforeOperator text =>
      Json.tagged "WhitespaceBeforeOperator" [("text", .string text)]
  | joinTable => .string "JoinTable"
  | joinContext context => Json.tagged "JoinContext" [("context", .string context)]
  | breakLine word => Json.tagged "BreakLine" [("word", .string word)]
  | tooManyBlankLines count => Json.tagged "TooManyBlankLines" [("count", .natural count)]

/-- A kind that carries one value under a key. -/
def single? {Value : Type} (key : String) (read : Json → Option Value)
    (make : Value → ViolationKind) (carried : Json) : Option ViolationKind :=
  match carried.fields? [required key] with
  | some [value] => (read value).map make
  | _ => none

/-- Reads what a kind with a given name carries. -/
def ofCarried? (carried : Json) : String → Option ViolationKind
  | "IndentSteps" =>
      match carried.fields? [required "steps", required "width"] with
      | some [steps, width] => do
          return indentSteps (← steps.word?) (← width.word?)
      | _ => none
  | "KeywordCase" =>
      match carried.fields? [required "style", required "found", required "expected"] with
      | some [style, found, expected] => do
          return keywordCase (← KeywordStyle.ofJson? style) (← found.text?) (← expected.text?)
      | _ => none
  | "CommaPosition" => single? "expected" CommaPosition.ofJson? commaPosition carried
  | "WhitespaceAfterOperator" => single? "text" Json.text? whitespaceAfterOperator carried
  | "WhitespaceBeforeOperator" => single? "text" Json.text? whitespaceBeforeOperator carried
  | "JoinContext" => single? "context" Json.text? joinContext carried
  | "BreakLine" => single? "word" Json.text? breakLine carried
  | "TooManyBlankLines" => single? "count" Json.word? tooManyBlankLines carried
  | _ => none

def ofJson? (json : Json) : Option ViolationKind :=
  match json.alternative? with
  | some (name, carried) =>
      match plain.lookup name with
      | some kind => if Json.carriesNothing carried then some kind else none
      | none => carried.bind fun value => ofCarried? value name
  | none => none

end ViolationKind

namespace Violation

def toJson (violation : Violation) : Json :=
  .object
    [("line", .natural violation.line), ("position", .natural violation.position),
      ("kind", violation.kind.toJson)]

def ofJson? (json : Json) : Option Violation :=
  match json.fields? [required "line", required "position", required "kind"] with
  | some [line, position, kind] => do
      return ⟨← line.word?, ← position.word?, ← ViolationKind.ofJson? kind⟩
  | _ => none

end Violation

end SqlLint
