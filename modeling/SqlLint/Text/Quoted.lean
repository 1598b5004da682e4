import SqlLint.Text.GraphicTable

/-!
# Quoted form

Diagnostics and log records show a text between double quotes in such a way that every character
can be told: a quote and a backslash are escaped, the common controls have short escapes, and any
other character that does not show as itself is given by its code point in hexadecimal.
-/

set_option autoImplicit false

namespace SqlLint.Text

/-- A character that the quoted form shows as itself, short escapes apart. -/
def isGraphic (c : Char) : Bool :=
  if c.toNat < 0x80 then 0x20 ≤ c.toNat && c.toNat < 0x7F
  else !CodeRun.anyContains GraphicTable.hidden c

def quoteChar (c : Char) : List Char :=
  if c == '\x00' then ['\\', '0']
  else if c == '\t' then ['\\', 't']
  else if c == '\n' then ['\\', 'n']
  else if c == '\r' then ['\\', 'r']
  else if c == '"' || c == '\\' then ['\\', c]
  else if isGraphic c then [c]
  else ['\\', 'u', '{'] ++ Nat.toDigits 16 c.toNat ++ ['}']

def quote (text : String) : String :=
  String.ofList ('"' :: text.toList.flatMap quoteChar ++ ['"'])

end SqlLint.Text
