import SqlLint.Text.CaseTable

/-!
# Letter case

The language-independent case mappings of Unicode. Upper case maps each character on its own.
Lower case does too, except for a capital sigma: at the end of a word it becomes the final form.
`capitalize` puts the first character into upper case and every other one into lower case, each on
its own, so that a sigma has no final form there.
-/

set_option autoImplicit false

namespace SqlLint.Text

/-- The code points below U+0080, whose case rules need no table. -/
def isAscii (c : Char) : Bool :=
  c.toNat < 0x80

/-- The image of a character: several characters if the full mapping lists them. -/
def caseForm (full : List (Nat × List Nat)) (simple : List CodeShift) (c : Char) : List Char :=
  match full.lookup c.toNat with
  | some codes => codes.map Char.ofNat
  | none => [CodeShift.firstImage simple c]

/-- The upper-case form of one character. -/
def upperForm (c : Char) : List Char :=
  if isAscii c then [c.toUpper] else caseForm CaseTable.fullUpper CaseTable.simpleUpper c

/-- The lower-case form of one character, whatever stands around it. -/
def lowerForm (c : Char) : List Char :=
  if isAscii c then [c.toLower] else caseForm CaseTable.fullLower CaseTable.simpleLower c

def isLowercase (c : Char) : Bool :=
  if isAscii c then c.isLower else CodeRun.anyContains CaseTable.lowercase c

def isCased (c : Char) : Bool :=
  if isAscii c then c.isAlpha else CodeRun.anyContains CaseTable.cased c

/-- A character with the property `Case_Ignorable`: an apostrophe, a full stop, a colon, a
circumflex, a grave accent, or one of the table. -/
def isCaseIgnorable (c : Char) : Bool :=
  if isAscii c then ['\x27', '.', ':', '^', '\x60'].contains c
  else CodeRun.anyContains CaseTable.caseIgnorable c

/-- The first character that case does not ignore is cased. -/
def startsCased (text : List Char) : Bool :=
  (text.dropWhile isCaseIgnorable).head?.any isCased

/-- Lower case of a text that stands after `before`, whose characters come nearest first. -/
def lowerAfter (before : List Char) : List Char → List Char
  | [] => []
  | c :: rest =>
      let form :=
        if c == 'Σ' then
          if startsCased before && !startsCased rest then ['ς'] else ['σ']
        else
          lowerForm c
      form ++ lowerAfter (c :: before) rest

def upper (text : String) : String :=
  String.ofList (text.toList.flatMap upperForm)

def lower (text : String) : String :=
  String.ofList (lowerAfter [] text.toList)

/-- The text with its first character in upper case and the others in lower case. -/
def capitalize (text : String) : String :=
  match text.toList with
  | [] => ""
  | first :: rest => String.ofList (upperForm first ++ rest.flatMap lowerForm)

end SqlLint.Text
