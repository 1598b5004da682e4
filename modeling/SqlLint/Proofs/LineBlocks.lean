import Mathlib.Logic.ExistsUnique
import SqlLint.Proofs.Violations

/-!
# Documents as lines and runs of blank lines

The lines of a document divide in one way into lines that are not blank and runs of blank lines that
are as long as possible (`existsUnique_divides`).  The check carries the run that it is in from line
to line and gives its violation when the run ends.  A run is counted to its end
(`checkFrom_blanks`), and what is found behind it does not depend on it (`checkFrom_flush`).  So a
document is checked block by block (`checkFrom_of_divides`), and in two parts if no run goes on from
one part into the other.
-/

set_option autoImplicit false

namespace SqlLint

/-- The line has no tokens but white space. -/
def LineReport.IsBlank (line : LineReport) : Prop :=
  ∀ token ∈ line.tokens, token.category = .whitespace

theorem LineReport.isBlankLine_iff {line : LineReport} :
    isBlankLine line.tokens = true ↔ line.IsBlank := by
  simp [isBlankLine, IsBlank, Token.isWhitespace]

namespace Style

/-- A line that is not blank, or a run of blank lines. -/
inductive Block
  | single (line : LineReport)
  | run (first : LineReport) (others : List LineReport)

/-- The lines divide into these blocks: lines that are not blank, and runs of blank lines, none of
which is followed by a blank line. -/
inductive Divides (blank : LineReport → Prop) : List LineReport → List Block → Prop
  | nil : Divides blank [] []
  | single {line : LineReport} {lines : List LineReport} {blocks : List Block}
      (notBlank : ¬ blank line) (later : Divides blank lines blocks) :
      Divides blank (line :: lines) (.single line :: blocks)
  | run {first : LineReport} {others lines : List LineReport} {blocks : List Block}
      (allBlank : ∀ line ∈ first :: others, blank line)
      (maximal : ∀ next, lines.head? = some next → ¬ blank next)
      (later : Divides blank lines blocks) :
      Divides blank (first :: others ++ lines) (.run first others :: blocks)

/-- The violations of a block: those of its line, or one for a run of several lines. -/
def Block.check (settings : LintSettings) : Block → Except CheckFault (List Violation)
  | .single line => checkLine settings line.index line.tokens
  | .run first others =>
      let count := others.length + 1
      .ok (if 2 ≤ count then [⟨first.index, 0, .tooManyBlankLines count⟩] else [])

/-- The violations of blocks in their order. -/
def checkBlocks (settings : LintSettings) (blocks : List Block) :
    Except CheckFault (List Violation) :=
  (blocks.mapM (Block.check settings)).map List.flatten

/-- No run of blank lines goes on from the first lines into the second. -/
def Apart (blank : LineReport → Prop) (front back : List LineReport) : Prop :=
  ∀ last first, front.getLast? = some last → back.head? = some first → blank last → ¬ blank first

/-! ## Divisions -/

namespace Divides

variable {blank : LineReport → Prop} {lines : List LineReport} {blocks : List Block}

theorem exists_blocks (blank : LineReport → Prop) (lines : List LineReport) :
    ∃ blocks, Divides blank lines blocks := by
  induction lines with
  | nil => exact ⟨[], .nil⟩
  | cons line lines ih =>
      obtain ⟨blocks, later⟩ := ih
      by_cases isBlank : blank line
      · have alone : ∀ other ∈ [line], blank other := List.forall_mem_singleton.2 isBlank
        cases later with
        | nil => exact ⟨[.run line []], .run alone (by simp) .nil⟩
        | @single next lines blocks notBlank later =>
            refine ⟨.run line [] :: .single next :: blocks, .run alone ?_ (.single notBlank later)⟩
            intro other same
            cases same
            exact notBlank
        | @run first others lines blocks allBlank maximal later =>
            exact ⟨.run line (first :: others) :: blocks,
              .run (List.forall_mem_cons.2 ⟨isBlank, allBlank⟩) maximal later⟩
      · exact ⟨.single line :: blocks, .single isBlank later⟩

/-- A run is found by its lines: those before the next line that is not blank. -/
theorem run_unique {run other lines others : List LineReport} (allBlank : ∀ line ∈ run, blank line)
    (otherBlank : ∀ line ∈ other, blank line)
    (maximal : ∀ next, lines.head? = some next → ¬ blank next)
    (otherMaximal : ∀ next, others.head? = some next → ¬ blank next)
    (same : run ++ lines = other ++ others) : run = other ∧ lines = others := by
  rcases List.append_eq_append_iff.1 same with ⟨between, rfl, rfl⟩ | ⟨between, rfl, rfl⟩
  · cases between with
    | nil => simp
    | cons next between => exact absurd (otherBlank next (by simp)) (maximal next rfl)
  · cases between with
    | nil => simp
    | cons next between => exact absurd (allBlank next (by simp)) (otherMaximal next rfl)

theorem unique {again : List Block} (divides : Divides blank lines blocks)
    (second : Divides blank lines again) : again = blocks := by
  induction divides generalizing again with
  | nil =>
      cases second with
      | nil => rfl
  | single notBlank later ih =>
      cases second with
      | single _ laterAgain => rw [ih laterAgain]
      | run allBlank _ _ => exact absurd (allBlank _ List.mem_cons_self) notBlank
  | @run first others lines blocks allBlank maximal later ih =>
      generalize whole : first :: others ++ lines = all at second
      cases second with
      | nil => simp at whole
      | single notBlank laterAgain =>
          cases whole
          exact absurd (allBlank _ List.mem_cons_self) notBlank
      | run otherBlank otherMaximal laterAgain =>
          obtain ⟨sameRun, rfl⟩ := run_unique allBlank otherBlank maximal otherMaximal whole
          cases sameRun
          rw [ih laterAgain]

theorem congr {other : LineReport → Prop} (divides : Divides blank lines blocks)
    (same : ∀ line ∈ lines, (blank line ↔ other line)) : Divides other lines blocks := by
  induction divides with
  | nil => exact .nil
  | single notBlank later ih =>
      obtain ⟨here, others⟩ := List.forall_mem_cons.1 same
      exact .single (mt here.2 notBlank) (ih others)
  | run allBlank maximal later ih =>
      obtain ⟨inRun, behind⟩ := List.forall_mem_append.1 same
      refine .run (fun line listed => (inRun line listed).1 (allBlank line listed)) ?_ (ih behind)
      intro next first
      exact mt (behind next (List.mem_of_mem_head? first)).2 (maximal next first)

theorem append {back : List LineReport} {more : List Block} (divides : Divides blank lines blocks)
    (second : Divides blank back more) (apart : Apart blank lines back) :
    Divides blank (lines ++ back) (blocks ++ more) := by
  induction divides with
  | nil => exact second
  | @single line lines blocks notBlank later ih =>
      refine .single notBlank (ih ?_)
      intro last first atEnd
      exact apart last first (by rw [List.getLast?_cons, atEnd]; rfl)
  | @run first others lines blocks allBlank maximal later ih =>
      rw [List.append_assoc]
      refine .run allBlank ?_ (ih ?_)
      · -- Behind the run comes the next line of the first lines, or else the first of the second.
        intro next starts
        cases lines with
        | nil =>
            have filled : first :: others ≠ [] := List.cons_ne_nil _ _
            have last : (first :: others ++ []).getLast? =
                some ((first :: others).getLast filled) := by
              rw [List.append_nil, List.getLast?_eq_some_getLast filled]
            exact apart _ next last starts (allBlank _ (List.getLast_mem filled))
        | cons line lines => exact maximal next starts
      · intro last next atEnd
        exact apart last next (by rw [List.getLast?_append, atEnd]; rfl)

end Divides

/-! ## The check of blocks -/

variable {settings : LintSettings}

theorem checkBlocks_cons (block : Block) (blocks : List Block) :
    checkBlocks settings (block :: blocks) = do
      let here ← block.check settings
      let later ← checkBlocks settings blocks
      return here ++ later := by
  rw [checkBlocks, List.mapM_cons, checkBlocks]
  cases block.check settings with
  | error fault => rfl
  | ok here =>
      cases blocks.mapM (Block.check settings) with
      | error fault => rfl
      | ok later => rfl

theorem checkBlocks_append (front back : List Block) :
    checkBlocks settings (front ++ back) = do
      let here ← checkBlocks settings front
      let later ← checkBlocks settings back
      return here ++ later := by
  rw [checkBlocks, List.mapM_append, checkBlocks, checkBlocks]
  cases front.mapM (Block.check settings) with
  | error fault => rfl
  | ok here =>
      cases back.mapM (Block.check settings) with
      | error fault => rfl
      | ok later => exact congrArg Except.ok List.flatten_append

/-- Blank lines do no more than go on with the run that they are in. -/
theorem checkFrom_blanks {others : List LineReport} (allBlank : ∀ line ∈ others, line.IsBlank)
    (run : BlankRun) (lines : List LineReport) :
    checkFrom settings (some run) (others ++ lines) =
      checkFrom settings (some ⟨run.first, run.count + others.length⟩) lines := by
  induction others generalizing run with
  | nil => rfl
  | cons line others ih =>
      obtain ⟨here, later⟩ := List.forall_mem_cons.1 allBlank
      rw [List.cons_append, checkFrom, if_pos (LineReport.isBlankLine_iff.2 here), ih later,
        List.length_cons, BlankRun.extend, Nat.add_assoc, Nat.add_comm 1]

/-- A run that has ended gives its violation, and then the lines behind it are checked as if there
had been none. -/
theorem checkFrom_flush {lines : List LineReport}
    (ends : ∀ next, lines.head? = some next → ¬ next.IsBlank) (run : BlankRun) :
    checkFrom settings (some run) lines =
      (checkFrom settings none lines).map (BlankRun.violations (some run) ++ ·) := by
  cases lines with
  | nil => exact congrArg Except.ok (List.append_nil _).symm
  | cons line lines =>
      have notBlank := mt LineReport.isBlankLine_iff.1 (ends line rfl)
      rw [checkFrom, if_neg notBlank, checkFrom, if_neg notBlank]
      cases checkLine settings line.index line.tokens with
      | error fault => rfl
      | ok here =>
          cases checkFrom settings none lines with
          | error fault => rfl
          | ok later => exact congrArg Except.ok (List.append_assoc _ _ _)

theorem checkFrom_of_divides {lines : List LineReport} {blocks : List Block}
    (divides : Divides LineReport.IsBlank lines blocks) :
    checkFrom settings none lines = checkBlocks settings blocks := by
  induction divides with
  | nil => rfl
  | @single line lines blocks notBlank later ih =>
      rw [checkFrom, if_neg (mt LineReport.isBlankLine_iff.1 notBlank), ih, checkBlocks_cons,
        Block.check]
      rfl
  | @run first others lines blocks allBlank maximal later ih =>
      obtain ⟨firstBlank, othersBlank⟩ := List.forall_mem_cons.1 allBlank
      rw [List.cons_append, checkFrom, if_pos (LineReport.isBlankLine_iff.2 firstBlank),
        checkFrom_blanks othersBlank, checkFrom_flush maximal, ih, checkBlocks_cons]
      have counted : Block.check settings (.run first others) =
          .ok (BlankRun.violations (some ⟨first.index, 1 + others.length⟩)) := by
        rw [Block.check, BlankRun.violations, Option.bind_some, BlankRun.violation?,
          apply_ite Option.toList, Nat.add_comm 1]
        rfl
      rw [counted]
      cases checkBlocks settings blocks with
      | error fault => rfl
      | ok later => rfl

/-- Parts between which no run of blank lines goes on are checked one after the other. -/
theorem checkFrom_append {front back : List LineReport}
    (apart : Apart LineReport.IsBlank front back) :
    checkFrom settings none (front ++ back) = do
      let here ← checkFrom settings none front
      let later ← checkFrom settings none back
      return here ++ later := by
  obtain ⟨blocks, first⟩ := Divides.exists_blocks LineReport.IsBlank front
  obtain ⟨more, second⟩ := Divides.exists_blocks LineReport.IsBlank back
  rw [checkFrom_of_divides (first.append second apart), checkBlocks_append,
    checkFrom_of_divides first, checkFrom_of_divides second]

theorem existsUnique_divides (blank : LineReport → Prop) (lines : List LineReport) :
    ∃! blocks, Divides blank lines blocks := by
  obtain ⟨blocks, divides⟩ := Divides.exists_blocks blank lines
  exact ⟨blocks, divides, fun _ again => divides.unique again⟩

end Style

/-- The lines of a report divide in one way into lines that are not blank and runs of blank lines
that are as long as possible.  The check gives the violations of these blocks in their order: what
a line has by itself, nothing for a single blank line, and one violation for a longer run, wherever
it stands.  Under a positive step it never fails.  A report that is cut where no run goes on is
checked in two parts. -/
theorem documents_are_checked_block_by_block (settings : LintSettings) (report : DocumentReport) :
    (∃! blocks, Style.Divides LineReport.IsBlank report.lines blocks) ∧
      (∀ blocks, Style.Divides LineReport.IsBlank report.lines blocks →
        Style.check settings report = Style.checkBlocks settings blocks) ∧
      (0 < settings.indentSteps → ∃ violations, Style.check settings report = .ok violations) ∧
      ∀ other both : DocumentReport, both.lines = report.lines ++ other.lines →
        Style.Apart LineReport.IsBlank report.lines other.lines →
          Style.check settings both = do
            let here ← Style.check settings report
            let later ← Style.check settings other
            return here ++ later := by
  refine ⟨Style.existsUnique_divides _ _, fun _ => Style.checkFrom_of_divides, ?_, ?_⟩
  · intro positive
    exact ⟨_, Style.check_eq_ok settings positive report⟩
  · intro other both whole apart
    rw [Style.check, whole]
    exact Style.checkFrom_append apart

theorem documents_are_checked_block_by_block_with_runs_all_over :
    let line (index : Nat) (tokens : List Token) : LineReport :=
      ⟨index, String.join (tokens.map (·.text)), [], ⟨tokens, {}, {}, none⟩, []⟩
    let blank (index : Nat) : LineReport := line index [⟨.whitespace, " "⟩]
    let list : LineReport := line 4 [⟨.identifier, "a"⟩, ⟨.comma, ","⟩, ⟨.identifier, "b"⟩]
    let name : LineReport := line 4 [⟨.identifier, "c"⟩]
    let report : DocumentReport := ⟨[line 9 [], blank 2, list, blank 5, name], {}⟩
    let other : DocumentReport := ⟨[line 0 [], blank 1, line 3 []], {}⟩
    let blocks : List Style.Block :=
      [.run (line 9 []) [blank 2], .single list, .run (blank 5) [], .single name]
    let violations : List Violation :=
      [⟨9, 0, .tooManyBlankLines 2⟩, ⟨4, 1, .commaPosition .atEnd⟩, ⟨4, 1, .whitespaceAfterComma⟩]
    Style.Divides LineReport.IsBlank report.lines blocks ∧
      Style.checkBlocks {} blocks = .ok violations ∧
      Style.Apart LineReport.IsBlank report.lines other.lines ∧
      Style.check {} ⟨report.lines ++ other.lines, {}⟩ =
        .ok (violations ++ [⟨0, 0, .tooManyBlankLines 3⟩]) := by
  intro line blank list name report other blocks violations
  have listed : ¬ list.IsBlank := fun all => nomatch all _ List.mem_cons_self
  have named : ¬ name.IsBlank := fun all => nomatch all _ List.mem_cons_self
  have divides : Style.Divides LineReport.IsBlank
      (line 9 [] :: [blank 2] ++ list :: (blank 5 :: [] ++ [name])) blocks := by
    refine .run ?_ ?_ (.single listed (.run ?_ ?_ (.single named .nil)))
    · simp [LineReport.IsBlank, LineReport.tokens, line, blank]
    · rintro _ ⟨⟩
      exact listed
    · simp [LineReport.IsBlank, LineReport.tokens, line, blank]
    · rintro _ ⟨⟩
      exact named
  have apart : Style.Apart LineReport.IsBlank report.lines other.lines := by
    rintro _ _ ⟨⟩ _ isBlank
    exact absurd isBlank named
  have here : Style.check {} report = .ok violations :=
    (Style.check_eq_ok {} (by decide) report).trans
      (congrArg Except.ok (by decide +kernel +zetaReduce))
  have later : Style.check {} other = .ok [⟨0, 0, .tooManyBlankLines 3⟩] :=
    (Style.check_eq_ok {} (by decide) other).trans
      (congrArg Except.ok (by decide +kernel +zetaReduce))
  obtain ⟨_, byBlocks, _, inParts⟩ := documents_are_checked_block_by_block {} report
  refine ⟨divides, (byBlocks _ divides).symm.trans here, apart, ?_⟩
  rw [inParts other _ rfl apart, here, later]
  rfl

end SqlLint
