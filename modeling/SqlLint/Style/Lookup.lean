import SqlLint.Style.Checker

/-!
# The style check by token numbers

The tokens of a line can also be checked through their numbers in it, without taking the line
apart.  Each check then asks for the tokens and the parts of the line that it needs, behind tests of
its own that they are there; a request for anything else fails, and so does a count of open brackets
that does not fit into 32 bits.
-/

set_option autoImplicit false

namespace SqlLint

/-- Why a check by numbers stops. -/
inductive LookupFault
  /-- The line has no such token or no such part. -/
  | outOfRange
  /-- The brackets that are open leave the numbers of 32 bits. -/
  | depthOverflow
  | zeroIndentSteps
deriving DecidableEq

def LookupFault.ofCheck : CheckFault → LookupFault
  | .zeroIndentSteps => .zeroIndentSteps

namespace Lookup

/-- The part of a line before a number. -/
def before (tokens : List Token) (index : Nat) : Except LookupFault (List Token) :=
  if index ≤ tokens.length then .ok (tokens.take index) else .error .outOfRange

/-- The part of a line from a number on. -/
def startingAt (tokens : List Token) (index : Nat) : Except LookupFault (List Token) :=
  if index ≤ tokens.length then .ok (tokens.drop index) else .error .outOfRange

def token (tokens : List Token) (index : Nat) : Except LookupFault Token :=
  match tokens[index]? with
  | some token => .ok token
  | none => .error .outOfRange

/-- The token before a number. The first number has none before it. -/
def previous (tokens : List Token) : Nat → Except LookupFault Token
  | 0 => .error .outOfRange
  | index + 1 => token tokens index

def isFirst (tokens : List Token) (index : Nat) : Except LookupFault Bool := do
  return (← before tokens index).all (·.isLayout)

def indentSteps (steps : Nat) (tokens : List Token) (index : Nat) :
    Except LookupFault (Option ViolationKind) := do
  let token ← token tokens index
  if index ≠ 0 || !token.isWhitespace then return none
  else if steps = 0 then .error .zeroIndentSteps
  else if token.width % steps ≠ 0 then return some (.indentSteps steps token.width)
  else return none

def duplicatedSpaces (tokens : List Token) (index : Nat) :
    Except LookupFault (Option ViolationKind) := do
  let token ← token tokens index
  if index = 0 || !token.isWhitespace then return none
  else if tokens[index + 1]?.any (·.category == .comment) then return none
  else if 2 ≤ token.width then return some .duplicatedSpaces
  else return none

def commaPosition (expected : CommaPosition) (tokens : List Token) (index : Nat) :
    Except LookupFault (Option ViolationKind) := do
  let token ← token tokens index
  if token.category == .comma then
    let inPlace ← match expected with
      | .atHead => isFirst tokens index
      | .atEnd => do pure ((← startingAt tokens (index + 1)).all (·.isLayout))
    return if inPlace then none else some (.commaPosition expected)
  else return none

/-- White space behind the indentation stands directly before the number. -/
def blankBefore (tokens : List Token) (index : Nat) : Except LookupFault Bool :=
  if 2 ≤ index then do return (← previous tokens index).isWhitespace
  else return false

/-- White space that does not end the line stands directly behind the number. -/
def blankInsideBehind (tokens : List Token) (index : Nat) : Except LookupFault Bool :=
  if index + 2 < tokens.length then do return (← token tokens (index + 1)).isWhitespace
  else return false

def whitespaceAroundComma (tokens : List Token) (index : Nat) :
    Except LookupFault (List ViolationKind) := do
  let token ← token tokens index
  if token.category == .comma then
    let touched := tokens[index + 1]?.any (!·.isWhitespace)
    let blank ← blankBefore tokens index
    return (if touched then [.whitespaceAfterComma] else []) ++
      (if blank then [.whitespaceBeforeComma] else [])
  else return []

def whitespaceInsideBrackets (tokens : List Token) (index : Nat) :
    Except LookupFault (Option ViolationKind) := do
  let token ← token tokens index
  if token.category == .bracket then
    if token.text == "(" then
      return if ← blankInsideBehind tokens index then some .whitespaceAfterBracket else none
    else if token.text == ")" then
      return if ← blankBefore tokens index then some .whitespaceBeforeBracket else none
    else return none
  else return none

/-- The token before a number, if the number is not the first one. -/
def previous? (tokens : List Token) (index : Nat) : Except LookupFault (Option Token) :=
  if index = 0 then .ok none else do return some (← previous tokens index)

def whitespaceAroundOperator (tokens : List Token) (index : Nat) :
    Except LookupFault (List ViolationKind) := do
  let token ← token tokens index
  if token.category == .operator then
    let touching := tokens[index + 1]?.filter fun next => !(next.isLayout || next.text == ")")
    let previous ← previous? tokens index
    let touched := previous.filter fun previous => !(previous.isWhitespace ||
      previous.text == "(" || previous.text.toList.getLast? == some '.')
    return (touching.map fun next => .whitespaceAfterOperator (token.text ++ next.text)).toList ++
      (touched.map fun previous =>
        .whitespaceBeforeOperator (previous.text ++ token.text)).toList
  else return []

def joinTable (tokens : List Token) (index : Nat) :
    Except LookupFault (Option ViolationKind) := do
  let token ← token tokens index
  if token.isWord "JOIN" then
    let behind ← startingAt tokens (index + 1)
    return if behind.any (·.category == .identifier) then none else some .joinTable
  else return none

/-- Puts the modifiers of a join in front of some words, from the nearest token before them on. -/
def gatherModifiers (words : List String) : List Token → List String
  | [] => words
  | token :: tokens =>
      if token.isWhitespace then gatherModifiers words tokens
      else if Check.joinModifiers.any token.isWord then
        gatherModifiers (token.text :: words) tokens
      else words

def joinContext (tokens : List Token) (index : Nat) :
    Except LookupFault (Option ViolationKind) := do
  let token ← token tokens index
  if token.isWord "JOIN" then
    let words := gatherModifiers [token.text] (← before tokens index).reverse
    return if Check.joinForms.contains (words.map Text.upperAscii) then none
      else some (.joinContext (" ".intercalate words))
  else return none

/-- Of the words `AND` and `BETWEEN`, the one that comes first is `BETWEEN`. -/
def reachesBetween : List Token → Bool
  | [] => false
  | token :: tokens =>
      if token.isWord "AND" then false
      else if token.isWord "BETWEEN" then true
      else reachesBetween tokens

def breakLine (tokens : List Token) (index : Nat) :
    Except LookupFault (Option ViolationKind) := do
  let token ← token tokens index
  if Check.conjunctions.any token.isWord then
    if ← isFirst tokens index then return none
    else if token.isWord "AND" then
      if reachesBetween (← before tokens index).reverse then return none
      else return some (.breakLine token.text)
    else return some (.breakLine token.text)
  else return none

/-- A check that applies outside brackets. -/
def outsideBrackets (depth : Int) (check : Except LookupFault (Option ViolationKind)) :
    Except LookupFault (Option ViolationKind) :=
  if depth = 0 then check else .ok none

/-- The objections to a token with a given number, behind which `depth` brackets are open. -/
def objections (settings : LintSettings) (tokens : List Token) (index : Nat) (depth : Int)
    (token : Token) : Except LookupFault (List ViolationKind) := do
  let indent ← indentSteps settings.indentSteps tokens index
  let spaces ← duplicatedSpaces tokens index
  let comma ← outsideBrackets depth (commaPosition settings.commaPosition tokens index)
  let aroundComma ← whitespaceAroundComma tokens index
  let insideBrackets ← whitespaceInsideBrackets tokens index
  let aroundOperator ← whitespaceAroundOperator tokens index
  let table ← joinTable tokens index
  let context ← joinContext tokens index
  let conjunction ← outsideBrackets depth (breakLine tokens index)
  return indent.toList ++ spaces.toList ++
    (Check.keywordCase settings.keywordStyle token).toList ++ comma.toList ++ aroundComma ++
    insideBrackets.toList ++ aroundOperator ++ table.toList ++ context.toList ++
    conjunction.toList

/-- The brackets that are open behind a token, if their number fits into 32 bits with a sign. -/
def depthAfter (depth : Int) (token : Token) : Except LookupFault Int :=
  let moved := Style.depthAfter depth token
  if -0x80000000 ≤ moved ∧ moved < 0x80000000 then .ok moved else .error .depthOverflow

/-- The violations of the tokens of a line from a number on, which are `rest`. -/
def checkRest (settings : LintSettings) (line : Nat) (tokens : List Token) (index position : Nat)
    (depth : Int) : List Token → Except LookupFault (List Violation)
  | [] => .ok []
  | token :: rest =>
      if token.category == .comment then
        checkRest settings line tokens (index + 1) (position + token.byteLength) depth rest
      else do
        let depth ← depthAfter depth token
        let found ← objections settings tokens index depth token
        let later ←
          checkRest settings line tokens (index + 1) (position + token.byteLength) depth rest
        return found.map (fun kind => ⟨line, position, kind⟩) ++ later

def checkLine (settings : LintSettings) (line : Nat) (tokens : List Token) :
    Except LookupFault (List Violation) :=
  checkRest settings line tokens 0 0 0 tokens

/-- The violations of some lines behind a run of blank lines. -/
def checkFrom (settings : LintSettings) (run : Option Style.BlankRun) :
    List LineReport → Except LookupFault (List Violation)
  | [] => .ok (Style.BlankRun.violations run)
  | line :: lines =>
      if isBlankLine line.tokens then
        checkFrom settings (some (Style.BlankRun.extend run line.index)) lines
      else do
        let here ← checkLine settings line.index line.tokens
        let later ← checkFrom settings none lines
        return Style.BlankRun.violations run ++ here ++ later

def check (settings : LintSettings) (report : DocumentReport) :
    Except LookupFault (List Violation) :=
  checkFrom settings none report.lines

end Lookup

end SqlLint
