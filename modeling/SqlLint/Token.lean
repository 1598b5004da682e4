import SqlLint.Fault
import SqlLint.Text.Word

/-!
# Tokens

A token is a piece of a line's text with its category. Tokens made by hand must have some text;
the lexer makes them with `span?`, which gives no token for an empty piece.
-/

set_option autoImplicit false

namespace SqlLint

/-- A piece of text and what it is. -/
structure Token where
  category : TokenCategory
  text : String
deriving DecidableEq

/-- The category that a name given by hand stands for; no name stands for `unknown`. -/
def TokenCategory.parse (name : String) : Except Fault TokenCategory :=
  if name.isEmpty then .ok .unknown
  else
    match TokenCategory.ofName? name with
    | some category => .ok category
    | none => .error (.unknownCategory name)

namespace Token

/-- A token made by hand. -/
def make (category : TokenCategory) (text : String) : Except Fault Token :=
  if text.isEmpty then .error (.emptyToken category) else .ok ⟨category, text⟩

/-- The token of a piece of a line, unless the piece is empty. -/
def span? (category : TokenCategory) (text : List Char) : Option Token :=
  if text.isEmpty then none else some ⟨category, String.ofList text⟩

def isWhitespace (token : Token) : Bool :=
  token.category == .whitespace

/-- A token of white space or a comment. -/
def isLayout (token : Token) : Bool :=
  !token.category.isSignificant

/-- The text of the token is a given word, whatever its category. -/
def isWord (token : Token) (word : String) : Bool :=
  Text.sameWord token.text word

/-- The token is a given keyword. -/
def isKeyword (token : Token) (word : String) : Bool :=
  token.category == .keyword && token.isWord word

def width (token : Token) : Nat :=
  token.text.length

def byteLength (token : Token) : Nat :=
  token.text.utf8ByteSize

def totalBytes : List Token → Nat
  | [] => 0
  | token :: tokens => token.byteLength + totalBytes tokens

/-- The text under which a token is shown. -/
def display (token : Token) : String :=
  "<\"" ++ token.category.name ++ "\", \"" ++ token.text ++ "\">"

end Token

end SqlLint
