import SqlLint.Document.Report
import SqlLint.Settings
import SqlLint.Style.Checks

/-!
# The style check

A line is checked token by token. Brackets are counted anew on every line, and the checks of
commas and conjunctions apply outside brackets only; comments are not checked. Blank lines are
checked as runs: a run of several is one violation, at its first line.
-/

set_option autoImplicit false

namespace SqlLint

namespace Style

/-- The brackets that are open behind a token; a line may close more than it opens. -/
def depthAfter (depth : Int) (token : Token) : Int :=
  if token.category == .bracket && token.text == "(" then depth + 1
  else if token.category == .bracket && token.text == ")" then depth - 1
  else depth

/-- The brackets that are open behind the token of a site. -/
def depthAt (site : Site) : Int :=
  (site.token :: site.before).foldr (fun token depth => depthAfter depth token) 0

def objections (settings : LintSettings) (site : Site) :
    Except CheckFault (List ViolationKind) := do
  if site.token.category == .comment then
    return []
  let outside := depthAt site == 0
  let indent ← Check.indentSteps settings.indentSteps site
  return indent.toList ++
    (Check.duplicatedSpaces site).toList ++
    (Check.keywordCase settings.keywordStyle site.token).toList ++
    (if outside then (Check.commaPosition settings.commaPosition site).toList else []) ++
    Check.whitespaceAroundComma site ++
    (Check.whitespaceInsideBrackets site).toList ++
    Check.whitespaceAroundOperator site ++
    (Check.joinTable site).toList ++
    (Check.joinContext site).toList ++
    (if outside then (Check.breakLine site).toList else [])

def siteViolations (settings : LintSettings) (line : Nat) (site : Site) :
    Except CheckFault (List Violation) :=
  (objections settings site).map (·.map fun kind => ⟨line, site.position, kind⟩)

/-- The violations of a line, in the order of its tokens. -/
def checkLine (settings : LintSettings) (line : Nat) (tokens : List Token) :
    Except CheckFault (List Violation) :=
  ((Site.all tokens).mapM (siteViolations settings line)).map List.flatten

/-- A run of blank lines: the index of the first one and how many there are. -/
structure BlankRun where
  first : Nat
  count : Nat
deriving DecidableEq

namespace BlankRun

/-- A run, perhaps empty, with one more line. -/
def extend (run : Option BlankRun) (index : Nat) : BlankRun :=
  match run with
  | none => ⟨index, 1⟩
  | some run => { run with count := run.count + 1 }

/-- How many blank lines may follow each other. -/
def allowed : Nat := 1

/-- The violation of a run that is too long. -/
def violation? (run : BlankRun) : Option Violation :=
  if allowed < run.count then some ⟨run.first, 0, .tooManyBlankLines run.count⟩ else none

def violations (run : Option BlankRun) : List Violation :=
  (run.bind violation?).toList

end BlankRun

/-- The violations of some lines behind a run of blank lines. -/
def checkFrom (settings : LintSettings) (run : Option BlankRun) :
    List LineReport → Except CheckFault (List Violation)
  | [] => .ok (BlankRun.violations run)
  | line :: lines =>
      if isBlankLine line.tokens then
        checkFrom settings (some (BlankRun.extend run line.index)) lines
      else do
        -- The run ends here, and its violation comes before those of the line that ends it.
        let here ← checkLine settings line.index line.tokens
        let later ← checkFrom settings none lines
        return BlankRun.violations run ++ here ++ later

/-- The violations of a document, by lines and places. -/
def check (settings : LintSettings) (report : DocumentReport) :
    Except CheckFault (List Violation) :=
  checkFrom settings none report.lines

end Style

end SqlLint
