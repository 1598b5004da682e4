import SqlLint.Json.Value
import SqlLint.Text.Natural

/-!
# Writing JSON

The pretty form of a value: two blanks for each level, one element or member per line, and no
line break inside an empty array or object. In a text a quote, a backslash and the controls below
U+0020 are escaped; every other character stands for itself.
-/

set_option autoImplicit false

namespace SqlLint.Json

def hexDigit (n : Nat) : Char :=
  Nat.digitChar n

def escapeChar (c : Char) : List Char :=
  if c = '"' then ['\\', '"']
  else if c = '\\' then ['\\', '\\']
  else if c = '\x08' then ['\\', 'b']
  else if c = '\t' then ['\\', 't']
  else if c = '\n' then ['\\', 'n']
  else if c = '\x0c' then ['\\', 'f']
  else if c = '\r' then ['\\', 'r']
  else if c.toNat < 0x20 then
    ['\\', 'u', '0', '0', hexDigit (c.toNat / 16), hexDigit (c.toNat % 16)]
  else [c]

def quoteText (text : String) : List Char :=
  '"' :: text.toList.flatMap escapeChar ++ ['"']

/-- The start of a line at some level. -/
def lineStart (level : Nat) : List Char :=
  '\n' :: List.replicate (2 * level) ' '

mutual

/-- The pretty form of a value whose first line stands at some level. -/
def prettyAt (level : Nat) : Json → List Char
  | .null => "null".toList
  | .bool true => "true".toList
  | .bool false => "false".toList
  | .natural value => Text.digits value
  | .string text => quoteText text
  | .array [] => ['[', ']']
  | .array (first :: others) =>
      '[' :: lineStart (level + 1) ++ prettyAt (level + 1) first ++
        prettyElements (level + 1) others ++ lineStart level ++ [']']
  | .object [] => ['{', '}']
  | .object ((key, first) :: others) =>
      '{' :: lineStart (level + 1) ++ quoteText key ++ [':', ' '] ++ prettyAt (level + 1) first ++
        prettyMembers (level + 1) others ++ lineStart level ++ ['}']
  | .other => ['-', '0']

def prettyElements (level : Nat) : List Json → List Char
  | [] => []
  | element :: others =>
      ',' :: lineStart level ++ prettyAt level element ++ prettyElements level others

def prettyMembers (level : Nat) : List (String × Json) → List Char
  | [] => []
  | (key, value) :: others =>
      ',' :: lineStart level ++ quoteText key ++ [':', ' '] ++ prettyAt level value ++
        prettyMembers level others

end

/-- The pretty form of a value, with a final line break. -/
def print (value : Json) : String :=
  String.ofList (prettyAt 0 value ++ ['\n'])

end SqlLint.Json
