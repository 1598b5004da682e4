/-!
# Token categories

A token belongs to one of eight categories. Two of them, white space and comments, carry no
meaning for the statement: the others are significant.
-/

set_option autoImplicit false

namespace SqlLint

/-- What kind of text a token holds. -/
inductive TokenCategory
  | comma
  | bracket
  | keyword
  | operator
  | comment
  | identifier
  | whitespace
  | unknown
deriving DecidableEq

namespace TokenCategory

def all : List TokenCategory :=
  [comma, bracket, keyword, operator, comment, identifier, whitespace, unknown]

def name : TokenCategory → String
  | comma => "Comma"
  | bracket => "Bracket"
  | keyword => "Keyword"
  | operator => "Operator"
  | comment => "Comment"
  | identifier => "Identifier"
  | whitespace => "Whitespace"
  | unknown => "Unknown"

def ofName? (name : String) : Option TokenCategory :=
  all.find? (·.name == name)

theorem ofName?_name (category : TokenCategory) : ofName? category.name = some category := by
  cases category <;> decide

/-- White space and comments carry no meaning. -/
def isSignificant : TokenCategory → Bool
  | whitespace | comment => false
  | _ => true

end TokenCategory

end SqlLint
