import SqlLint.Proofs.DocumentLines
import SqlLint.Proofs.Lossless
import SqlLint.Proofs.Sites
import SqlLint.Proofs.Violations

/-!
# Where violations are

The check goes through the lines, through the sites of a line and through the kinds of objections
at a site in one order, and no step is made twice.  So the violations of a document come in the
order of their places, each once (`Style.pairwise_violationsFrom`).  A violation stands at the
first byte of a token that is no comment, except that a run of blank lines is one violation at the
start of its first line (`Violation.PlacedIn`).
-/

set_option autoImplicit false

namespace SqlLint

namespace ViolationKind

/-- The place of a kind in the order in which a site is checked. -/
def rank : ViolationKind → Nat
  | indentSteps _ _ => 0
  | duplicatedSpaces => 1
  | keywordCase _ _ _ => 2
  | commaPosition _ => 3
  | whitespaceAfterComma => 4
  | whitespaceBeforeComma => 5
  | whitespaceAfterBracket => 6
  | whitespaceBeforeBracket => 7
  | whitespaceAfterOperator _ => 8
  | whitespaceBeforeOperator _ => 9
  | joinTable => 10
  | joinContext _ => 11
  | breakLine _ => 12
  | tooManyBlankLines _ => 13

def isBlankRun : ViolationKind → Bool
  | tooManyBlankLines _ => true
  | _ => false

/-- The kinds that are objected to outside brackets only. -/
def asksOutside : ViolationKind → Bool
  | commaPosition _ | breakLine _ => true
  | _ => false

end ViolationKind

namespace Violation

/-- The first violation comes before the second, by lines, positions and kinds. -/
def Precedes (first second : Violation) : Prop :=
  first.line < second.line ∨ first.line = second.line ∧
    (first.position < second.position ∨
      first.position = second.position ∧ first.kind.rank < second.kind.rank)

/-- A violation is in its place: on a token of a line that is not blank, or at the start of a blank
line. -/
inductive PlacedIn (report : DocumentReport) : Violation → Prop
  | onToken {line : LineReport} {before behind : List Token} {token : Token} {rest : String}
      {kind : ViolationKind}
      (numbered : report.lines[line.index]? = some line)
      (notBlank : ∃ other ∈ line.tokens, other.category ≠ .whitespace)
      (ofToken : kind.isBlankRun = false)
      (split : line.tokens = before ++ token :: behind)
      (noComment : token.category ≠ .comment)
      (written : String.join (before.map (·.text)) ++ token.text ++ rest = line.literal)
      (outside : kind.asksOutside = true →
        (before ++ [token]).count ⟨.bracket, "("⟩ = (before ++ [token]).count ⟨.bracket, ")"⟩) :
      PlacedIn report
        ⟨line.index, (String.join (before.map (·.text))).utf8ByteSize, kind⟩
  | onBlankLine {line : LineReport} {count : Nat}
      (numbered : report.lines[line.index]? = some line)
      (blank : ∀ token ∈ line.tokens, token.category = .whitespace) :
      PlacedIn report ⟨line.index, 0, .tooManyBlankLines count⟩

end Violation

/-! ## Kinds at a site -/

namespace Check

open ViolationKind

theorem ranks_ite {condition : Prop} [Decidable condition] (kind : ViolationKind) :
    ((if condition then some kind else none).toList.map rank).Sublist [kind.rank] := by
  split
  · exact List.Sublist.refl _
  · exact List.nil_sublist _

theorem ranks_ite_singleton {condition : Prop} [Decidable condition] (kind : ViolationKind) :
    ((if condition then [kind] else []).map rank).Sublist [kind.rank] := by
  split
  · exact List.Sublist.refl _
  · exact List.nil_sublist _

theorem ranks_whitespaceAroundComma (site : Site) :
    ((whitespaceAroundComma site).map rank).Sublist ([4] ++ [5]) := by
  rw [whitespaceAroundComma]
  split
  · rw [List.map_append]
    exact (ranks_ite_singleton .whitespaceAfterComma).append
      (ranks_ite_singleton .whitespaceBeforeComma)
  · exact List.nil_sublist _

theorem ranks_whitespaceInsideBrackets (site : Site) :
    ((whitespaceInsideBrackets site).toList.map rank).Sublist [6, 7] := by
  rw [whitespaceInsideBrackets]
  split
  · split
    · exact List.sublist_append_left [6] [7]
    · exact (ranks_ite .whitespaceBeforeBracket).trans (List.sublist_append_right [6] [7])
  · exact List.nil_sublist _

theorem ranks_operatorBehind? (site : Site) :
    ((operatorBehind? site).toList.map rank).Sublist [8] := by
  rw [operatorBehind?]
  split
  · exact List.nil_sublist _
  · split
    · exact List.nil_sublist _
    · exact List.Sublist.refl _

theorem ranks_operatorBefore? (site : Site) :
    ((operatorBefore? site).toList.map rank).Sublist [9] := by
  rw [operatorBefore?]
  split
  · exact List.nil_sublist _
  · split
    · exact List.nil_sublist _
    · exact List.Sublist.refl _

theorem ranks_whitespaceAroundOperator (site : Site) :
    ((whitespaceAroundOperator site).map rank).Sublist ([8] ++ [9]) := by
  rw [whitespaceAroundOperator]
  split
  · rw [List.map_append]
    exact (ranks_operatorBehind? site).append (ranks_operatorBefore? site)
  · exact List.nil_sublist _

end Check

namespace Style

/-- The ranks of the kinds that a site is checked for, outside brackets or inside. -/
def ranksAsked (outside : Bool) : List Nat :=
  [0] ++ [1] ++ [2] ++ (if outside then [3] else []) ++ ([4] ++ [5]) ++ [6, 7] ++ ([8] ++ [9]) ++
    [10] ++ [11] ++ (if outside then [12] else [])

/-- These ranks without that of conjunctions. -/
def layoutRanks (outside : Bool) : List Nat :=
  [0] ++ [1] ++ [2] ++ (if outside then [3] else []) ++ ([4] ++ [5]) ++ [6, 7] ++ ([8] ++ [9]) ++
    [10] ++ [11]

theorem ranks_layoutKinds (settings : LintSettings) (site : Site) :
    ((layoutKinds settings site).map ViolationKind.rank).Sublist
      (layoutRanks (depthAt site == 0)) := by
  rw [layoutKinds, layoutRanks]
  simp only [List.map_append]
  refine .append (.append (.append (.append (.append (.append (.append (.append ?_ ?_) ?_) ?_)
    ?_) ?_) ?_) ?_) ?_
  · exact Check.ranks_ite _
  · exact Check.ranks_ite _
  · exact Check.ranks_ite _
  · split
    · exact Check.ranks_ite _
    · exact List.nil_sublist _
  · exact Check.ranks_whitespaceAroundComma site
  · exact Check.ranks_whitespaceInsideBrackets site
  · exact Check.ranks_whitespaceAroundOperator site
  · exact Check.ranks_ite _
  · exact Check.ranks_ite _

/-- A site is checked for each kind at most once, in the order of their ranks. -/
theorem ranks_kinds (settings : LintSettings) (site : Site) :
    ((kinds settings site).map ViolationKind.rank).Sublist (ranksAsked (depthAt site == 0)) := by
  by_cases comment : site.token.category = .comment
  · rw [kinds_of_comment comment]
    exact List.nil_sublist _
  · rw [kinds_of_code comment, List.map_append]
    refine (ranks_layoutKinds settings site).append ?_
    split
    · exact Check.ranks_ite _
    · exact List.nil_sublist _

variable {settings : LintSettings}

theorem pairwise_kinds (site : Site) :
    (kinds settings site).Pairwise fun first second => first.rank < second.rank := by
  have increasing : ∀ outside, (ranksAsked outside).Pairwise (· < ·) := by decide
  exact List.pairwise_map.1 ((increasing _).sublist (ranks_kinds settings site))

theorem isBlankRun_of_mem_kinds {site : Site} {kind : ViolationKind}
    (listed : kind ∈ kinds settings site) : kind.isBlankRun = false := by
  have absent : ∀ outside, 13 ∉ ranksAsked outside := by decide
  have asked := (ranks_kinds settings site).subset (List.mem_map_of_mem listed)
  cases kind with
  | tooManyBlankLines count => exact absurd asked (absent _)
  | _ => rfl

theorem depthAt_of_mem_kinds {site : Site} {kind : ViolationKind}
    (listed : kind ∈ kinds settings site) (asks : kind.asksOutside = true) :
    depthAt site = 0 := by
  have asked := (ranks_kinds settings site).subset (List.mem_map_of_mem listed)
  cases outside : depthAt site == 0 with
  | true => exact beq_iff_eq.1 outside
  | false =>
      have absent : 3 ∉ ranksAsked false ∧ 12 ∉ ranksAsked false := by decide
      rw [outside] at asked
      cases kind with
      | commaPosition expected => exact absurd asked absent.1
      | breakLine word => exact absurd asked absent.2
      | _ => contradiction

theorem noComment_of_mem_kinds {site : Site} {kind : ViolationKind}
    (listed : kind ∈ kinds settings site) : site.token.category ≠ .comment := by
  intro comment
  rw [kinds, comment] at listed
  contradiction

/-! ## Order -/

theorem pairwise_lineViolations (line : Nat) {tokens : List Token}
    (nonempty : ∀ token ∈ tokens, token.text ≠ "") :
    (lineViolations settings line tokens).Pairwise Violation.Precedes := by
  rw [lineViolations, List.pairwise_flatMap]
  constructor
  · intro site _
    rw [List.pairwise_map]
    exact (pairwise_kinds site).imp fun less => Or.inr ⟨rfl, Or.inr ⟨rfl, less⟩⟩
  · refine (Site.pairwise_position nonempty).imp ?_
    intro first second less violation listed other otherListed
    obtain ⟨kind, _, rfl⟩ := List.mem_map.1 listed
    obtain ⟨otherKind, _, rfl⟩ := List.mem_map.1 otherListed
    exact Or.inr ⟨rfl, Or.inl less⟩

theorem pairwise_violations_run (run : Option BlankRun) :
    (BlankRun.violations run).Pairwise Violation.Precedes := by
  rw [BlankRun.violations]
  cases run.bind BlankRun.violation? with
  | none => exact List.Pairwise.nil
  | some violation => exact List.pairwise_singleton _ _

/-- A violation of some lines is on one of them, or on the first line of the run before them. -/
theorem line_of_mem_violationsFrom {run : Option BlankRun} {lines : List (Nat × List Token)}
    {violation : Violation} (listed : violation ∈ violationsFrom settings run lines) :
    violation.line ∈ run.map (·.first) ∨ ∃ line ∈ lines, line.1 = violation.line := by
  rcases of_mem_violationsFrom listed with ⟨line, inLines, _, found⟩ | ⟨first, count, rfl, starts⟩
  · obtain ⟨site, _, kind, _, rfl⟩ := of_mem_lineViolations found
    exact Or.inr ⟨line, inLines, rfl⟩
  · exact starts.imp_right fun ⟨line, inLines, _, same⟩ => ⟨line, inLines, same⟩

/-- The violations of lines in order, behind a run that starts before them, are in order. -/
theorem pairwise_violationsFrom {run : Option BlankRun} {lines : List (Nat × List Token)}
    (nonempty : ∀ line ∈ lines, ∀ token ∈ line.2, token.text ≠ "")
    (ordered : lines.Pairwise fun first second => first.1 < second.1)
    (behind : ∀ first ∈ run.map (·.first), ∀ line ∈ lines, first < line.1) :
    (violationsFrom settings run lines).Pairwise Violation.Precedes := by
  -- On the lines: the run that is carried along starts before all lines that are left.
  induction lines generalizing run with
  | nil => exact pairwise_violations_run run
  | cons line lines ih =>
      obtain ⟨index, tokens⟩ := line
      obtain ⟨beforeOthers, orderedOthers⟩ := List.pairwise_cons.1 ordered
      have nonemptyOthers : ∀ line ∈ lines, ∀ token ∈ line.2, token.text ≠ "" :=
        fun other inside => nonempty other (List.mem_cons_of_mem _ inside)
      rw [violationsFrom]
      split
      · apply ih nonemptyOthers orderedOthers
        intro first starts other inside
        cases run with
        | none =>
            cases starts
            exact beforeOthers other inside
        | some blanks => exact behind first starts other (List.mem_cons_of_mem _ inside)
      · have later : (violationsFrom settings none lines).Pairwise Violation.Precedes :=
          ih nonemptyOthers orderedOthers (fun _ none => absurd none (by simp))
        have here : (lineViolations settings index tokens).Pairwise Violation.Precedes :=
          pairwise_lineViolations index (nonempty _ List.mem_cons_self)
        have onLine : ∀ violation ∈ lineViolations settings index tokens,
            violation.line = index := by
          intro violation listed
          obtain ⟨site, _, kind, _, rfl⟩ := of_mem_lineViolations listed
          rfl
        have onOthers : ∀ violation ∈ violationsFrom settings none lines,
            index < violation.line := by
          intro violation listed
          rcases line_of_mem_violationsFrom listed with none | ⟨other, inside, same⟩
          · contradiction
          · rw [← same]
            exact beforeOthers other inside
        have onRun : ∀ violation ∈ BlankRun.violations run, violation.line < index := by
          intro violation listed
          obtain ⟨blanks, rfl, rfl⟩ := of_mem_blankRun listed
          exact behind blanks.first rfl _ List.mem_cons_self
        rw [List.pairwise_append, List.pairwise_append]
        refine ⟨⟨pairwise_violations_run run, here, ?_⟩, later, ?_⟩
        · intro first inRun second inLine
          have less := onRun first inRun
          rw [← onLine second inLine] at less
          exact Or.inl less
        · intro first inFront second inLater
          have bound := onOthers second inLater
          rcases List.mem_append.1 inFront with inRun | inLine
          · exact Or.inl (Nat.lt_trans (onRun first inRun) bound)
          · rw [← onLine first inLine] at bound
            exact Or.inl bound

end Style

/-! ## Documents -/

namespace DocumentReport

theorem indices_readFrom (table : RuleTable) (index : Nat) (state : LexState)
    (lines : List Markup.ExtractedLine) :
    (readFrom table index state lines).1.map (·.index) = List.range' index lines.length := by
  induction lines generalizing index state with
  | nil => rfl
  | cons line lines ih =>
      simp only [readFrom, List.map_cons, ih, List.length_cons, List.range'_succ]
      rfl

/-- A line of a report stands where its number says, and its tokens come from lexing it. -/
theorem of_mem_ofExtracted {table : RuleTable} {lines : List Markup.ExtractedLine}
    {line : LineReport} (listed : line ∈ (ofExtracted table lines).lines) :
    (ofExtracted table lines).lines[line.index]? = some line ∧
      ∃ state, line.lexed.Lossless state line.literal := by
  obtain ⟨position, found⟩ := List.mem_iff_getElem?.1 listed
  have reported := found
  rw [ofExtracted, getElem?_readFrom] at reported
  obtain ⟨extracted, _, rfl⟩ := Option.map_eq_some_iff.1 reported
  refine ⟨?_, _, table.lossless_lexLine _ extracted.text⟩
  have number : (LineReport.ofExtracted table (0 + position)
      (readFrom table 0 {} (lines.take position)).2 extracted).index = position :=
    Nat.zero_add position
  rw [number]
  exact found

theorem pairwise_violations (settings : LintSettings) (table : RuleTable)
    (lines : List Markup.ExtractedLine) :
    (Style.violations settings (ofExtracted table lines)).Pairwise Violation.Precedes := by
  apply Style.pairwise_violationsFrom
  · intro numbered listed token inLine
    obtain ⟨line, inReport, rfl⟩ := List.mem_map.1 listed
    obtain ⟨_, state, lossless⟩ := of_mem_ofExtracted inReport
    exact lossless.text_ne_empty token inLine
  · rw [numbered, List.pairwise_map]
    have ordered : (List.range' 0 lines.length).Pairwise (· < ·) := List.pairwise_lt_range' 1
    rw [← indices_readFrom table 0 {} lines, List.pairwise_map] at ordered
    exact ordered
  · intro first none
    contradiction

theorem placedIn_of_mem_violations {settings : LintSettings} {table : RuleTable}
    {lines : List Markup.ExtractedLine} {violation : Violation}
    (listed : violation ∈ Style.violations settings (ofExtracted table lines)) :
    violation.PlacedIn (ofExtracted table lines) := by
  rcases Style.of_mem_violationsFrom listed with
    ⟨numbered, inNumbered, notBlank, found⟩ | ⟨first, count, rfl, starts⟩
  · obtain ⟨line, inReport, rfl⟩ := List.mem_map.1 inNumbered
    obtain ⟨numbered, state, lossless⟩ := of_mem_ofExtracted inReport
    obtain ⟨site, inLine, kind, inKinds, rfl⟩ := Style.of_mem_lineViolations found
    have split : line.tokens = site.before.reverse ++ site.token :: site.behind :=
      Site.split_of_mem inLine
    have position : site.position =
        (String.join (site.before.reverse.map (·.text))).utf8ByteSize :=
      Site.totalBytes_eq site.before
    have written : String.join (site.before.reverse.map (·.text)) ++ site.token.text ++
        (String.join (site.behind.map (·.text)) ++
          (line.lexed.unlexed.map (·.text)).getD "") = line.literal := by
      have texts : line.lexed.tokens = site.before.reverse ++ site.token :: site.behind := split
      rw [← lossless.append_unlexed, LexedLine.text, texts, List.map_append, List.map_cons,
        String.join_append, String.join_cons]
      simp only [String.append_assoc]
    rw [position]
    refine .onToken numbered ?_ (Style.isBlankRun_of_mem_kinds inKinds) split
      (Style.noComment_of_mem_kinds inKinds) written ?_
    · simpa [isBlankLine, Token.isWhitespace] using notBlank
    · intro asks
      exact Style.depthAt_eq_zero_iff.1 (Style.depthAt_of_mem_kinds inKinds asks)
  · rcases starts with none | ⟨numbered, inNumbered, blank, rfl⟩
    · contradiction
    · obtain ⟨line, inReport, rfl⟩ := List.mem_map.1 inNumbered
      refine .onBlankLine (of_mem_ofExtracted inReport).1 ?_
      simpa [isBlankLine, Token.isWhitespace] using blank

end DocumentReport

/-- Under a positive step the check of a report gives violations in the order of their lines and
positions, no two of them equal, each of them in its place. -/
theorem violations_ordered_and_placed (settings : LexerSettings) (lint : LintSettings)
    (positive : 0 < lint.indentSteps) {report : DocumentReport}
    (produced : DocumentReport.Produced (RuleTable.ofSettings settings) report) :
    ∃ violations, Style.check lint report = .ok violations ∧
      violations.Pairwise (fun first second => first.line < second.line ∨
        first.line = second.line ∧ first.position ≤ second.position) ∧
      violations.Nodup ∧ ∀ violation ∈ violations, violation.PlacedIn report := by
  obtain ⟨lines, rfl⟩ := produced.exists_ofExtracted
  have ordered := DocumentReport.pairwise_violations lint (RuleTable.ofSettings settings) lines
  refine ⟨_, Style.check_eq_ok lint positive _, ordered.imp ?_, ordered.imp ?_, ?_⟩
  · rintro first second (less | ⟨sameLine, less | ⟨samePosition, _⟩⟩)
    · exact Or.inl less
    · exact Or.inr ⟨sameLine, Nat.le_of_lt less⟩
    · exact Or.inr ⟨sameLine, Nat.le_of_eq samePosition⟩
  · rintro first second precedes rfl
    rcases precedes with less | ⟨_, less | ⟨_, less⟩⟩
    · exact Nat.lt_irrefl _ less
    · exact Nat.lt_irrefl _ less
    · exact Nat.lt_irrefl _ less
  · intro violation listed
    exact DocumentReport.placedIn_of_mem_violations listed

theorem violations_ordered_and_placed_of_two_blank_lines :
    0 < ({} : LintSettings).indentSteps ∧
      DocumentReport.Produced (RuleTable.ofSettings {})
        (DocumentReport.ofText (RuleTable.ofSettings {}) "\n \nSelect a ,b") ∧
      ∃ violations,
        Style.check {} (DocumentReport.ofText (RuleTable.ofSettings {}) "\n \nSelect a ,b") =
          .ok violations ∧
        violations.Pairwise (fun first second => first.line < second.line ∨
          first.line = second.line ∧ first.position ≤ second.position) ∧
        violations.Nodup ∧
        ∀ violation ∈ violations, violation.PlacedIn
          (DocumentReport.ofText (RuleTable.ofSettings {}) "\n \nSelect a ,b") :=
  ⟨by decide, .text _, violations_ordered_and_placed {} {} (by decide) (.text _)⟩

end SqlLint
