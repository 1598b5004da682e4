import SqlLint.Settings.Choice

/-!
# Violations of style

What the style check can object to, and how each objection is worded.
-/

set_option autoImplicit false

namespace SqlLint

inductive ViolationKind
  /-- An indentation is no multiple of the step. -/
  | indentSteps (steps width : Nat)
  /-- Several blanks in a row inside a line. -/
  | duplicatedSpaces
  | keywordCase (style : KeywordStyle) (found expected : String)
  /-- A comma outside brackets in the wrong place. -/
  | commaPosition (expected : CommaPosition)
  | whitespaceAfterComma
  | whitespaceBeforeComma
  | whitespaceAfterBracket
  | whitespaceBeforeBracket
  | whitespaceAfterOperator (text : String)
  | whitespaceBeforeOperator (text : String)
  /-- No table on the line of a join. -/
  | joinTable
  | joinContext (context : String)
  /-- A conjunction that does not start its line. -/
  | breakLine (word : String)
  | tooManyBlankLines (count : Nat)
deriving DecidableEq

namespace ViolationKind

/-- What a keyword style asks for. -/
def caseRule : KeywordStyle → String
  | .upper => "reserved keywords must be upper case"
  | .lower => "reserved keywords must be lower case"
  | .preserve | .capitalize => "reserved keywords must start with an upper case letter"

def message : ViolationKind → String
  | indentSteps steps width => s!"indent steps must be multiples of {steps} ({width})"
  | duplicatedSpaces => "too many spaces"
  | keywordCase style found expected => caseRule style ++ ": " ++ found ++ " -> " ++ expected
  | commaPosition .atEnd => "comma must be end of line"
  | commaPosition .atHead => "comma must be head of line"
  | whitespaceAfterComma => "whitespace must be after comma: ,"
  | whitespaceBeforeComma => "whitespace must not be before comma: ,"
  | whitespaceAfterBracket => "whitespace must not be after bracket: ("
  | whitespaceBeforeBracket => "whitespace must not be before bracket: )"
  | whitespaceAfterOperator text => "whitespace must be after binary operator: " ++ text
  | whitespaceBeforeOperator text => "whitespace must be before binary operator: " ++ text
  | joinTable => "table name must be on the same line as join context"
  | joinContext context =>
      "join context must be [left outer join], [inner join] or [cross join]: " ++ context
  | breakLine word => "break line at \x27and\x27, \x27or\x27, \x27on\x27: " ++ word
  | tooManyBlankLines count => s!"too many blank lines ({count})"

end ViolationKind

/-- An objection and its place. -/
structure Violation where
  line : Nat
  /-- The place in the line, in bytes. -/
  position : Nat
  kind : ViolationKind
deriving DecidableEq

/-- The text under which a violation is shown. -/
def Violation.display (violation : Violation) : String :=
  s!"line {violation.line}, position {violation.position}: " ++ violation.kind.message

end SqlLint
