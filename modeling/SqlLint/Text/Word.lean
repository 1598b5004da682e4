/-!
# Words

A word is a text over the letters, digits and underscore of ASCII. Words are compared without
regard to ASCII letter case: `sameWord` holds of two texts exactly when their upper-case forms are
equal, and letters outside ASCII stand for themselves.
-/

set_option autoImplicit false

namespace SqlLint.Text

/-- A character of `[A-Za-z0-9_]`. -/
def isWordChar (c : Char) : Bool :=
  c.isAlphanum || c == '_'

def upperAscii (text : String) : String :=
  text.map Char.toUpper

/-- Equality of two texts up to the case of ASCII letters. -/
def sameWord (left right : String) : Bool :=
  upperAscii left == upperAscii right

theorem sameWord_iff {left right : String} :
    sameWord left right = true ↔ upperAscii left = upperAscii right := by
  simp [sameWord]

end SqlLint.Text
