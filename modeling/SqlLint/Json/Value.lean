/-!
# JSON values

The values that records are written as. Numbers in records are natural numbers. Any other
well-formed value may stand in a text where no record looks at it; it is kept as `other`.
-/

set_option autoImplicit false

namespace SqlLint

inductive Json
  | null
  | bool (value : Bool)
  | natural (value : Nat)
  | string (text : String)
  | array (elements : List Json)
  | object (members : List (String × Json))
  /-- A value that no record holds: a number that is not natural, or a text or an object's key
  with half a surrogate pair. -/
  | other

end SqlLint
