import SqlLint.Text.Natural

/-!
# Writing TOML

A file is written as sections with an empty line between them. A string is written in the first
form that can hold it without an escape: between double quotes, between single quotes, or in the
forms of several lines; if none can, it is written with escapes. A list of several strings takes
one line for each.
-/

set_option autoImplicit false

namespace SqlLint.Toml

/-- A value that is written. -/
inductive Written
  | text (text : String)
  | number (value : Nat)
  | texts (texts : List String)
deriving DecidableEq

/-- A table that is written under a header. -/
structure Section where
  name : String
  entries : List (String × Written)
deriving DecidableEq

/-- A control that cannot be written without an escape; a tabulator and a line feed can. -/
def needsCode (c : Char) : Bool :=
  (c.toNat < 0x20 && c != '\t' && c != '\n') || c.toNat == 0x7F

/-- The length of the longest run of a character, of which `current` have been seen. -/
def longestRun (c : Char) (current : Nat) : List Char → Nat
  | [] => current
  | first :: rest =>
      if first = c then longestRun c (current + 1) rest else max current (longestRun c 0 rest)

def codeEscape (c : Char) : List Char :=
  let digits := (Nat.toDigits 16 c.toNat).map Char.toUpper
  ['\\', 'u'] ++ List.leftpad 4 '0' digits

/-- A character other than a quote or a line feed in a basic string. -/
def escapeChar (c : Char) : List Char :=
  if c = '\\' then ['\\', '\\']
  else if c = '\x08' then ['\\', 'b']
  else if c = '\t' then ['\\', 't']
  else if c = '\x0c' then ['\\', 'f']
  else if c = '\r' then ['\\', 'r']
  else if needsCode c then codeEscape c
  else [c]

def basic (text : List Char) : List Char :=
  let body := text.flatMap fun c =>
    if c = '"' then ['\\', '"'] else if c = '\n' then ['\\', 'n'] else escapeChar c
  '"' :: body ++ ['"']

/-- The body of a basic string of several lines, behind `quotes` quotes: the third quote in a row
is escaped. -/
def longBasicBody (quotes : Nat) : List Char → List Char
  | [] => []
  | c :: rest =>
      if c = '"' then
        if quotes < 2 then '"' :: longBasicBody (quotes + 1) rest
        else '\\' :: '"' :: longBasicBody 0 rest
      else if c = '\n' then '\n' :: longBasicBody 0 rest
      else escapeChar c ++ longBasicBody 0 rest

/-- The line break behind the opening quotes of a string that has a line break. -/
def openingBreak (text : List Char) : List Char :=
  if text.contains '\n' then ['\n'] else []

def longBasic (text : List Char) : List Char :=
  List.replicate 3 '"' ++ openingBreak text ++ longBasicBody 0 text ++ List.replicate 3 '"'

def literal (text : List Char) : List Char :=
  '\x27' :: text ++ ['\x27']

def longLiteral (text : List Char) : List Char :=
  List.replicate 3 '\x27' ++ openingBreak text ++ text ++ List.replicate 3 '\x27'

/-- A string in the form that suits it. -/
def string (text : List Char) : List Char :=
  let coded := text.any needsCode
  let broken := text.contains '\n'
  let escaped := text.contains '\\'
  let doubles := longestRun '"' 0 text
  let singles := longestRun '\x27' 0 text
  if !coded && !escaped && doubles = 0 && !broken then basic text
  else if !coded && singles = 0 && !broken then literal text
  -- Three quotes in a row would end the string.
  else if !coded && !escaped && doubles ≤ 2 then longBasic text
  else if !coded && singles ≤ 2 then longLiteral text
  else if broken then longBasic text
  else basic text

def Written.print : Written → List Char
  | text content => string content.toList
  | number value => Text.digits value
  | texts [] => ['[', ']']
  | texts [only] => '[' :: string only.toList ++ [']']
  | texts many =>
      ['[', '\n'] ++
        many.flatMap (fun text => List.replicate 4 ' ' ++ string text.toList ++ [',', '\n']) ++
        [']']

def printEntry (entry : String × Written) : List Char :=
  entry.1.toList ++ " = ".toList ++ entry.2.print ++ ['\n']

def Section.print (written : Section) : List Char :=
  '[' :: written.name.toList ++ [']', '\n'] ++ written.entries.flatMap printEntry

/-- A file of sections. -/
def print (sections : List Section) : String :=
  String.ofList (['\n'].intercalate (sections.map Section.print))

end SqlLint.Toml
