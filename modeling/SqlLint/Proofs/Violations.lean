import SqlLint.Style.Checker

/-!
# The style check as a function

The check fails only where a zero step leaves nothing to compare an indentation with, at the first
such indentation (`Style.checkLine_eq`, `Style.checkFrom_eq`).  Under a positive step it is a
function: each site has its objections (`Style.kinds`), a line has those of its sites, and a document
those of its lines and of the runs of blank lines between them (`Style.check_eq_ok`).  It reads the
number and the tokens of a line and nothing else.
-/

set_option autoImplicit false

namespace SqlLint

/-- The line starts with white space. -/
def isIndented (tokens : List Token) : Bool :=
  tokens.head?.any (·.isWhitespace)

/-- The line is not blank and starts with white space. -/
def LineReport.isIndentedCode (line : LineReport) : Bool :=
  !isBlankLine line.tokens && isIndented line.tokens

/-- The token is the white space at the start of its line. -/
def Site.isIndent (site : Site) : Bool :=
  site.before.isEmpty && site.token.isWhitespace

/-- The objection to an indentation that is no multiple of a positive step. -/
def Check.unevenIndent (steps : Nat) (site : Site) : Option ViolationKind :=
  if site.before.isEmpty && site.token.isWhitespace && site.token.width % steps != 0 then
    some (.indentSteps steps site.token.width)
  else none

theorem Check.indentSteps_eq (steps : Nat) (site : Site) :
    Check.indentSteps steps site =
      if steps = 0 ∧ site.isIndent = true then .error .zeroIndentSteps
      else .ok (Check.unevenIndent steps site) := by
  rw [Check.indentSteps, Check.unevenIndent, ← Site.isIndent]
  cases site.isIndent with
  | false => simp
  | true =>
      by_cases zero : steps = 0
      · simp [zero]
      · by_cases even : site.token.width % steps = 0
        · simp [zero, even]
        · simp [zero, even]

theorem Check.indentSteps_eq_ok {steps : Nat} (positive : 0 < steps) (site : Site) :
    Check.indentSteps steps site = .ok (Check.unevenIndent steps site) := by
  rw [Check.indentSteps_eq, if_neg fun zero => Nat.ne_of_gt positive zero.1]

namespace Style

/-- The objections to the token of a site, under a positive step of indentation. -/
def kinds (settings : LintSettings) (site : Site) : List ViolationKind :=
  if site.token.category == .comment then []
  else
    (Check.unevenIndent settings.indentSteps site).toList ++
      (Check.duplicatedSpaces site).toList ++
      (Check.keywordCase settings.keywordStyle site.token).toList ++
      (if depthAt site == 0 then
        (Check.commaPosition settings.commaPosition site).toList else []) ++
      Check.whitespaceAroundComma site ++
      (Check.whitespaceInsideBrackets site).toList ++
      Check.whitespaceAroundOperator site ++
      (Check.joinTable site).toList ++
      (Check.joinContext site).toList ++
      (if depthAt site == 0 then (Check.breakLine site).toList else [])

/-- The objections to a token of code other than to its place as a conjunction. -/
def layoutKinds (settings : LintSettings) (site : Site) : List ViolationKind :=
  (Check.unevenIndent settings.indentSteps site).toList ++
    (Check.duplicatedSpaces site).toList ++
    (Check.keywordCase settings.keywordStyle site.token).toList ++
    (if depthAt site == 0 then
      (Check.commaPosition settings.commaPosition site).toList else []) ++
    Check.whitespaceAroundComma site ++
    (Check.whitespaceInsideBrackets site).toList ++
    Check.whitespaceAroundOperator site ++
    (Check.joinTable site).toList ++
    (Check.joinContext site).toList

theorem kinds_of_comment {settings : LintSettings} {site : Site}
    (comment : site.token.category = .comment) : kinds settings site = [] := by
  rw [kinds, comment]
  rfl

theorem kinds_of_code {settings : LintSettings} {site : Site}
    (code : site.token.category ≠ .comment) :
    kinds settings site =
      layoutKinds settings site ++
        (if depthAt site == 0 then (Check.breakLine site).toList else []) := by
  rw [kinds, beq_eq_false_iff_ne.2 code]
  rfl

/-- The violations of a line with a given number. -/
def lineViolations (settings : LintSettings) (line : Nat) (tokens : List Token) :
    List Violation :=
  (Site.all tokens).flatMap fun site =>
    (kinds settings site).map fun kind => ⟨line, site.position, kind⟩

/-- The violations of numbered lines behind a run of blank lines. -/
def violationsFrom (settings : LintSettings) (run : Option BlankRun) :
    List (Nat × List Token) → List Violation
  | [] => BlankRun.violations run
  | (index, tokens) :: lines =>
      if isBlankLine tokens then
        violationsFrom settings (some (BlankRun.extend run index)) lines
      else
        BlankRun.violations run ++ lineViolations settings index tokens ++
          violationsFrom settings none lines

end Style

/-- The number and the tokens of each line. -/
def DocumentReport.numbered (report : DocumentReport) : List (Nat × List Token) :=
  report.lines.map fun line => (line.index, line.tokens)

namespace Style

/-- The violations of a document. -/
def violations (settings : LintSettings) (report : DocumentReport) : List Violation :=
  violationsFrom settings none report.numbered

variable {settings : LintSettings}

/-! ## Members -/

theorem of_mem_lineViolations {line : Nat} {tokens : List Token} {violation : Violation}
    (listed : violation ∈ lineViolations settings line tokens) :
    ∃ site ∈ Site.all tokens, ∃ kind ∈ kinds settings site,
      violation = ⟨line, site.position, kind⟩ := by
  obtain ⟨site, inLine, found⟩ := List.mem_flatMap.1 listed
  obtain ⟨kind, inKinds, rfl⟩ := List.mem_map.1 found
  exact ⟨site, inLine, kind, inKinds, rfl⟩

theorem of_mem_blankRun {run : Option BlankRun} {violation : Violation}
    (listed : violation ∈ BlankRun.violations run) :
    ∃ blanks, run = some blanks ∧
      violation = ⟨blanks.first, 0, .tooManyBlankLines blanks.count⟩ := by
  obtain ⟨blanks, same, found⟩ := Option.bind_eq_some_iff.1 (Option.mem_toList.1 listed)
  rw [BlankRun.violation?] at found
  split at found
  · exact ⟨blanks, same, (Option.some.inj found).symm⟩
  · contradiction

/-- A violation of numbered lines behind a run of blank ones is one of a line that is not blank, or
of a run that starts where the given one does or at a blank line. -/
theorem of_mem_violationsFrom {run : Option BlankRun} {lines : List (Nat × List Token)}
    {violation : Violation} (listed : violation ∈ violationsFrom settings run lines) :
    (∃ line ∈ lines, isBlankLine line.2 = false ∧
      violation ∈ lineViolations settings line.1 line.2) ∨
    ∃ first count, violation = ⟨first, 0, .tooManyBlankLines count⟩ ∧
      (first ∈ run.map (·.first) ∨
        ∃ line ∈ lines, isBlankLine line.2 = true ∧ line.1 = first) := by
  have ofRun : ∀ {run : Option BlankRun}, violation ∈ BlankRun.violations run →
      ∃ first count, violation = ⟨first, 0, .tooManyBlankLines count⟩ ∧
        first ∈ run.map (·.first) := by
    intro run found
    obtain ⟨blanks, rfl, same⟩ := of_mem_blankRun found
    exact ⟨blanks.first, blanks.count, same, rfl⟩
  induction lines generalizing run with
  | nil =>
      obtain ⟨first, count, same, starts⟩ := ofRun listed
      exact Or.inr ⟨first, count, same, Or.inl starts⟩
  | cons line lines ih =>
      obtain ⟨index, tokens⟩ := line
      rw [violationsFrom] at listed
      split at listed
      · next blank =>
          rcases ih listed with ⟨other, inLines, found⟩ | ⟨first, count, same, starts⟩
          · exact Or.inl ⟨other, List.mem_cons_of_mem _ inLines, found⟩
          · refine Or.inr ⟨first, count, same, ?_⟩
            rcases starts with atRun | ⟨other, inLines, found⟩
            · -- The run is the given one with a line more, or a new one.
              cases run with
              | none =>
                  cases atRun
                  exact Or.inr ⟨_, List.mem_cons_self, blank, rfl⟩
              | some blanks => exact Or.inl atRun
            · exact Or.inr ⟨other, List.mem_cons_of_mem _ inLines, found⟩
      · next notBlank =>
          rcases List.mem_append.1 listed with found | later
          · rcases List.mem_append.1 found with found | here
            · obtain ⟨first, count, same, starts⟩ := ofRun found
              exact Or.inr ⟨first, count, same, Or.inl starts⟩
            · exact Or.inl ⟨_, List.mem_cons_self, Bool.eq_false_iff.2 notBlank, here⟩
          · rcases ih later with ⟨other, inLines, found⟩ | ⟨first, count, same, starts⟩
            · exact Or.inl ⟨other, List.mem_cons_of_mem _ inLines, found⟩
            · rcases starts with atRun | ⟨other, inLines, found⟩
              · contradiction
              · exact Or.inr
                  ⟨first, count, same, Or.inr ⟨other, List.mem_cons_of_mem _ inLines, found⟩⟩

/-! ## The check -/

theorem objections_eq (settings : LintSettings) (site : Site) :
    objections settings site =
      if settings.indentSteps = 0 ∧ site.isIndent = true then .error .zeroIndentSteps
      else .ok (kinds settings site) := by
  by_cases comment : site.token.category = .comment
  · have noIndent : site.isIndent = false := by
      rw [Site.isIndent, Token.isWhitespace, comment]
      exact Bool.and_false _
    rw [noIndent, if_neg fun zero => Bool.noConfusion zero.2, kinds_of_comment comment, objections,
      comment]
    rfl
  · have code : (site.token.category == .comment) = false := beq_eq_false_iff_ne.2 comment
    rw [objections, kinds, code, Check.indentSteps_eq]
    by_cases stops : settings.indentSteps = 0 ∧ site.isIndent = true
    · rw [if_pos stops, if_pos stops]
      rfl
    · rw [if_neg stops, if_neg stops]
      rfl

theorem siteViolations_eq (settings : LintSettings) (line : Nat) (site : Site) :
    siteViolations settings line site =
      if settings.indentSteps = 0 ∧ site.isIndent = true then .error .zeroIndentSteps
      else .ok ((kinds settings site).map fun kind => ⟨line, site.position, kind⟩) := by
  rw [siteViolations, objections_eq]
  split <;> rfl

/-- Only the first token of a line can be its indentation. -/
theorem mapM_siteViolations_eq_ok (settings : LintSettings) (line : Nat) {before : List Token}
    (behindSome : before ≠ []) (tokens : List Token) :
    (Site.allFrom before tokens).mapM (siteViolations settings line) =
      .ok ((Site.allFrom before tokens).map fun site =>
        (kinds settings site).map fun kind => ⟨line, site.position, kind⟩) := by
  induction tokens generalizing before with
  | nil => rfl
  | cons token tokens ih =>
      have noIndent : (⟨before, token, tokens⟩ : Site).isIndent = false := by
        rw [Site.isIndent, List.isEmpty_eq_false_iff.2 behindSome, Bool.false_and]
      rw [Site.allFrom, List.mapM_cons, siteViolations_eq, noIndent,
        if_neg fun zero => Bool.noConfusion zero.2, ih (List.cons_ne_nil token before)]
      rfl

theorem checkLine_eq (settings : LintSettings) (line : Nat) (tokens : List Token) :
    checkLine settings line tokens =
      if settings.indentSteps = 0 ∧ isIndented tokens = true then .error .zeroIndentSteps
      else .ok (lineViolations settings line tokens) := by
  cases tokens with
  | nil =>
      rw [if_neg fun zero => Bool.noConfusion zero.2]
      rfl
  | cons token tokens =>
      rw [checkLine, lineViolations, Site.all, Site.allFrom, List.mapM_cons, siteViolations_eq,
        mapM_siteViolations_eq_ok settings line (List.cons_ne_nil token []), List.flatMap_def]
      -- The first token is the indentation if it is white space.
      change Except.map _ (Except.bind (if settings.indentSteps = 0 ∧ token.isWhitespace = true
        then _ else _) _) = if settings.indentSteps = 0 ∧ token.isWhitespace = true then _ else _
      split <;> rfl

theorem checkLine_eq_ok (positive : 0 < settings.indentSteps) (line : Nat)
    (tokens : List Token) :
    checkLine settings line tokens = .ok (lineViolations settings line tokens) := by
  rw [checkLine_eq, if_neg fun zero => Nat.ne_of_gt positive zero.1]

/-- Without a step the check of some lines stops at the first one of code that is indented. -/
theorem checkFrom_eq (settings : LintSettings) (run : Option BlankRun)
    (lines : List LineReport) :
    checkFrom settings run lines =
      if settings.indentSteps = 0 ∧ lines.any (·.isIndentedCode) = true then
        .error .zeroIndentSteps
      else
        .ok (violationsFrom settings run (lines.map fun line => (line.index, line.tokens))) := by
  induction lines generalizing run with
  | nil =>
      rw [if_neg fun zero => Bool.noConfusion zero.2]
      rfl
  | cons line lines ih =>
      rw [checkFrom, List.map_cons, violationsFrom, ih, ih, checkLine_eq, List.any_cons,
        LineReport.isIndentedCode]
      cases isBlankLine line.tokens with
      | true => rfl
      | false =>
          rw [Bool.not_false, Bool.true_and]
          by_cases zero : settings.indentSteps = 0
          · -- The line itself may stop the check, and one of those behind it may.
            cases isIndented line.tokens <;> cases lines.any (·.isIndentedCode) <;>
              simp [zero, bind, Except.bind, pure, Except.pure]
          · simp [zero, bind, Except.bind, pure, Except.pure]

/-- Under a positive step the check of a document gives its violations. -/
theorem check_eq_ok (settings : LintSettings) (positive : 0 < settings.indentSteps)
    (report : DocumentReport) : check settings report = .ok (violations settings report) := by
  rw [check, checkFrom_eq, if_neg fun zero => Nat.ne_of_gt positive zero.1]
  rfl

end Style

end SqlLint
