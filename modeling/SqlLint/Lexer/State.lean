import SqlLint.Token

/-!
# The state between lines

What a line needs to know of the lines before it is whether a block comment is open and whether a
select list is open. The state can be read off the tokens: `replay` says how each token moves it.
-/

set_option autoImplicit false

namespace SqlLint

/-- What is open at a point between two tokens. -/
structure LexState where
  inComment : Bool := false
  /-- After `SELECT` and before the next `FROM`. -/
  inSelectList : Bool := false
deriving DecidableEq

namespace LexState

/-- The state after the keyword `word`: `SELECT` opens the select list and `FROM` closes it. -/
def afterKeyword (state : LexState) (word : String) : LexState :=
  if Text.sameWord word "SELECT" then { state with inSelectList := true }
  else if Text.sameWord word "FROM" then { state with inSelectList := false }
  else state

def afterToken (state : LexState) (token : Token) : LexState :=
  match token.category with
  | .keyword => state.afterKeyword token.text
  | .comment =>
      if token.text = "/*" then { state with inComment := true }
      else if token.text = "*/" then { state with inComment := false }
      else state
  | _ => state

def replay (state : LexState) (tokens : List Token) : LexState :=
  tokens.foldl afterToken state

end LexState

end SqlLint
