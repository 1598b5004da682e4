import SqlLint.Token

/-!
# Sites

The style check looks at each token together with the other tokens of its line. A site is a token
with those before it, the nearest first, and those behind it.
-/

set_option autoImplicit false

namespace SqlLint

structure Site where
  /-- The tokens before, the nearest first. -/
  before : List Token
  token : Token
  /-- The tokens behind, the nearest first. -/
  behind : List Token
deriving DecidableEq

namespace Site

/-- The sites of a line behind the tokens `before`, the nearest of which comes first. -/
def allFrom (before : List Token) : List Token → List Site
  | [] => []
  | token :: behind => ⟨before, token, behind⟩ :: allFrom (token :: before) behind

def all (tokens : List Token) : List Site :=
  allFrom [] tokens

/-- The site with a given number of tokens before it. -/
def at? (tokens : List Token) (index : Nat) : Option Site :=
  (all tokens)[index]?

/-- Where the token starts in its line, in bytes. -/
def position (site : Site) : Nat :=
  Token.totalBytes site.before

/-- Only white space and comments stand before the token. -/
def isFirst (site : Site) : Bool :=
  site.before.all (·.isLayout)

/-- Only white space and comments stand behind the token. -/
def isLast (site : Site) : Bool :=
  site.behind.all (·.isLayout)

end Site

/-- A line without tokens other than white space. -/
def isBlankLine (tokens : List Token) : Bool :=
  tokens.all (·.isWhitespace)

end SqlLint
