import SqlLint.Style.Site
import SqlLint.Style.Violation

/-!
# Checks

Each check looks at one site and gives the objections that it has there. A check cannot fail,
except that a zero step of indentation has no multiples to compare an indentation with.
-/

set_option autoImplicit false

namespace SqlLint

/-- Why a line cannot be checked. -/
inductive CheckFault
  | zeroIndentSteps
deriving DecidableEq

namespace Check

/-- White space at the start of a line is a multiple of the step of indentation. -/
def indentSteps (steps : Nat) (site : Site) : Except CheckFault (Option ViolationKind) :=
  if site.before.isEmpty && site.token.isWhitespace then
    if steps = 0 then .error .zeroIndentSteps
    else if site.token.width % steps = 0 then .ok none
    else .ok (some (.indentSteps steps site.token.width))
  else .ok none

/-- White space inside a line is one blank, unless it aligns a comment. -/
def duplicatedSpaces (site : Site) : Option ViolationKind :=
  let alignsComment := site.behind.head?.any (·.category == .comment)
  if !site.before.isEmpty && site.token.isWhitespace && !alignsComment && 2 ≤ site.token.width then
    some .duplicatedSpaces
  else none

/-- The word is not in the style. For `capitalize` only the first letter counts. -/
def breaksCase (style : KeywordStyle) (word : String) : Bool :=
  match style with
  | .preserve => false
  | .upper => word != Text.upper word
  | .lower => word != Text.lower word
  | .capitalize => word.toList.head?.any Text.isLowercase

def keywordCase (style : KeywordStyle) (token : Token) : Option ViolationKind :=
  if token.category == .keyword && breaksCase style token.text then
    some (.keywordCase style token.text (style.format token.text))
  else none

/-- Commas stand at the end or at the head of a line. -/
def commaPosition (expected : CommaPosition) (site : Site) : Option ViolationKind :=
  let inPlace := match expected with
    | .atHead => site.isFirst
    | .atEnd => site.isLast
  if site.token.category == .comma && !inPlace then some (.commaPosition expected) else none

def blankBehind (site : Site) : Bool :=
  site.behind.head?.any (·.isWhitespace)

/-- White space that is no indentation stands directly before the token. -/
def blankBefore (site : Site) : Bool :=
  2 ≤ site.before.length && site.before.head?.any (·.isWhitespace)

/-- White space follows a comma and does not precede it. An indentation may precede it. -/
def whitespaceAroundComma (site : Site) : List ViolationKind :=
  if site.token.category == .comma then
    (if !site.behind.isEmpty && !blankBehind site then [.whitespaceAfterComma] else []) ++
      (if blankBefore site then [.whitespaceBeforeComma] else [])
  else []

/-- No white space follows an opening bracket or precedes a closing one. White space at the end of
a line and an indentation are allowed. -/
def whitespaceInsideBrackets (site : Site) : Option ViolationKind :=
  if site.token.category == .bracket then
    if site.token.text == "(" && 2 ≤ site.behind.length && blankBehind site then
      some .whitespaceAfterBracket
    else if site.token.text == ")" && blankBefore site then
      some .whitespaceBeforeBracket
    else none
  else none

/-- The objection to an operator whose right neighbour touches it. -/
def operatorBehind? (site : Site) : Option ViolationKind :=
  match site.behind with
  | [] => none
  | next :: _ =>
      if next.isLayout || next.text == ")" then none
      else some (.whitespaceAfterOperator (site.token.text ++ next.text))

/-- The objection to an operator whose left neighbour touches it. -/
def operatorBefore? (site : Site) : Option ViolationKind :=
  match site.before with
  | [] => none
  | previous :: _ =>
      if previous.isWhitespace || previous.text == "(" ||
          previous.text.toList.getLast? == some '.' then none
      else some (.whitespaceBeforeOperator (previous.text ++ site.token.text))

/-- White space surrounds an operator. An opening bracket or a full stop may precede it directly,
a comment or a closing bracket may follow directly. -/
def whitespaceAroundOperator (site : Site) : List ViolationKind :=
  if site.token.category == .operator then
    (operatorBehind? site).toList ++ (operatorBefore? site).toList
  else []

/-- The table of a join is on its line. -/
def joinTable (site : Site) : Option ViolationKind :=
  if site.token.isWord "JOIN" && !site.behind.any (·.category == .identifier) then
    some .joinTable
  else none

/-- The words that can precede a join. -/
def joinModifiers : List String :=
  ["INNER", "OUTER", "LEFT", "RIGHT", "CROSS"]

/-- The forms of join that are allowed. -/
def joinForms : List (List String) :=
  [["LEFT", "OUTER", "JOIN"], ["INNER", "JOIN"], ["CROSS", "JOIN"]]

/-- The words of a join from the first modifier to the join itself. -/
def joinWords (site : Site) : List String :=
  -- Comments stay in the list, so that a modifier before one does not count.
  let modifiers := (site.before.filter (!·.isWhitespace)).takeWhile fun token =>
    joinModifiers.any token.isWord
  (modifiers.map (·.text)).reverse ++ [site.token.text]

def joinContext (site : Site) : Option ViolationKind :=
  let words := joinWords site
  if site.token.isWord "JOIN" && !joinForms.contains (words.map Text.upperAscii) then
    some (.joinContext (" ".intercalate words))
  else none

def conjunctions : List String :=
  ["AND", "OR", "ON"]

/-- The token is the conjunction inside `BETWEEN a AND b`: of the words before it that are one of
the two, the nearest is `BETWEEN`. -/
def belongsToBetween (site : Site) : Bool :=
  site.token.isWord "AND" &&
    (site.before.find? fun token => token.isWord "AND" || token.isWord "BETWEEN").any
      (·.isWord "BETWEEN")

/-- A conjunction starts its line. -/
def breakLine (site : Site) : Option ViolationKind :=
  if conjunctions.any site.token.isWord && !site.isFirst && !belongsToBetween site then
    some (.breakLine site.token.text)
  else none

end Check

end SqlLint
