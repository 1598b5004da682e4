import Mathlib.Data.List.Nodup
import SqlLint.Proofs.BlankRuns
import SqlLint.Proofs.CommentTexts
import SqlLint.Proofs.LetterCase
import SqlLint.Proofs.ViolationPlaces

/-!
# The conjunction of a `BETWEEN`

A `BETWEEN` and the next `AND` outside brackets are one clause, whatever the operand between them
holds, and that `AND` does not have to start a line.  The check finds the `BETWEEN` by going
backwards to the nearest word that is one of the two, and it counts the words of comments and of
brackets as well.  So it frees the `AND` of a clause exactly if the operand does not say `AND`, or
says `BETWEEN` behind the last place where it does (`break_at_and_of_between_iff`).
-/

set_option autoImplicit false

namespace SqlLint

namespace Token

/-- A token of code behind the tokens `before` of its line, up to which as many brackets are closed
as are opened. -/
structure Outside (before : List Token) (token : Token) : Prop where
  code : token.category ≠ .comment
  closed : (before ++ [token]).count ⟨.bracket, "("⟩ = (before ++ [token]).count ⟨.bracket, ")"⟩

instance (before : List Token) (token : Token) : Decidable (token.Outside before) :=
  decidable_of_iff
    (token.category ≠ .comment ∧
      (before ++ [token]).count ⟨.bracket, "("⟩ = (before ++ [token]).count ⟨.bracket, ")"⟩)
    ⟨fun ⟨code, closed⟩ => ⟨code, closed⟩, fun outside => ⟨outside.code, outside.closed⟩⟩

/-- A `BETWEEN` behind the tokens `front`, its operand, and the first `AND` behind it that is
outside brackets too. -/
structure IsBetweenClause (front : List Token) (between : Token) (operand : List Token)
    (conjunction : Token) : Prop where
  isBetween : between.isWord "BETWEEN" = true
  outside : between.Outside front
  isAnd : conjunction.isWord "AND" = true
  conjunctionOutside : conjunction.Outside (front ++ between :: operand)
  first : ∀ other ∈ Site.all operand, other.token.isWord "AND" = true →
    ¬ other.token.Outside (front ++ between :: other.before.reverse)

instance (front : List Token) (between : Token) (operand : List Token) (conjunction : Token) :
    Decidable (IsBetweenClause front between operand conjunction) :=
  decidable_of_iff
    (between.isWord "BETWEEN" = true ∧ between.Outside front ∧ conjunction.isWord "AND" = true ∧
      conjunction.Outside (front ++ between :: operand) ∧
      ∀ other ∈ Site.all operand, other.token.isWord "AND" = true →
        ¬ other.token.Outside (front ++ between :: other.before.reverse))
    ⟨fun ⟨isBetween, outside, isAnd, conjunctionOutside, first⟩ =>
        ⟨isBetween, outside, isAnd, conjunctionOutside, first⟩,
      fun clause => ⟨clause.isBetween, clause.outside, clause.isAnd, clause.conjunctionOutside,
        clause.first⟩⟩

/-- Some tokens, comments and tokens in brackets included, say `AND` and no `BETWEEN` behind it. -/
def EndWithAnd (tokens : List Token) : Prop :=
  ∃ other ∈ Site.all tokens, other.token.isWord "AND" = true ∧
    ∀ token ∈ other.behind, token.isWord "BETWEEN" = false

instance (tokens : List Token) : Decidable (EndWithAnd tokens) :=
  inferInstanceAs (Decidable (∃ other ∈ Site.all tokens, other.token.isWord "AND" = true ∧
    ∀ token ∈ other.behind, token.isWord "BETWEEN" = false))

theorem isWord_between_of_isWord_and {token : Token} (isAnd : token.isWord "AND" = true) :
    token.isWord "BETWEEN" = false := by
  rw [isWord, Text.sameWord_iff_toList] at isAnd
  rw [isWord, Text.sameWord_eq_false_iff, isAnd]
  decide

theorem isLayout_eq_false {token : Token} (noBlank : token.isWhitespace = false)
    (code : token.category ≠ .comment) : token.isLayout = false := by
  obtain ⟨category, text⟩ := token
  cases category with
  | whitespace => contradiction
  | comment => contradiction
  | _ => rfl

end Token

namespace ViolationKind

def isBreakLine : ViolationKind → Bool
  | breakLine _ => true
  | _ => false

end ViolationKind

/-! ## Sites of a longer list -/

namespace Site

theorem allFrom_concat (before tokens : List Token) (last : Token) :
    allFrom before (tokens ++ [last]) =
      (allFrom before tokens).map (fun site => ⟨site.before, site.token, site.behind ++ [last]⟩) ++
        [⟨tokens.reverse ++ before, last, []⟩] := by
  induction tokens generalizing before with
  | nil => rfl
  | cons token tokens ih => simp [allFrom, ih]

theorem mem_allFrom_of_split (front before behind : List Token) (token : Token) :
    ⟨before.reverse ++ front, token, behind⟩ ∈ allFrom front (before ++ token :: behind) := by
  induction before generalizing front with
  | nil => exact List.mem_cons_self
  | cons first before ih =>
      rw [List.reverse_cons, List.append_assoc]
      exact List.mem_cons_of_mem _ (ih (first :: front))

/-- In a line whose tokens have some text, sites at one position are one site. -/
theorem eq_of_position_eq {tokens : List Token} (nonempty : ∀ token ∈ tokens, token.text ≠ "")
    {first second : Site} (listed : first ∈ all tokens) (listedAgain : second ∈ all tokens)
    (same : first.position = second.position) : first = second := by
  have apart : ((all tokens).map position).Nodup :=
    List.pairwise_map.2 ((pairwise_position nonempty).imp Nat.ne_of_lt)
  exact List.inj_on_of_nodup_map apart listed listedAgain same

end Site

/-! ## The search for the `BETWEEN` -/

namespace Token

theorem not_endWithAnd_nil : ¬ EndWithAnd [] := by
  rintro ⟨_, none, _⟩
  contradiction

theorem endWithAnd_concat_iff {tokens : List Token} {last : Token} :
    EndWithAnd (tokens ++ [last]) ↔
      last.isWord "AND" = true ∨ last.isWord "BETWEEN" = false ∧ EndWithAnd tokens := by
  simp only [EndWithAnd, Site.all, Site.allFrom_concat, List.mem_append, List.mem_map,
    List.mem_singleton]
  constructor
  · rintro ⟨_, ⟨other, listed, rfl⟩ | rfl, isAnd, noBetween⟩
    · refine Or.inr ⟨noBetween last (by simp), other, listed, isAnd, ?_⟩
      exact fun token behind => noBetween token (List.mem_append_left _ behind)
    · exact Or.inl isAnd
  · rintro (isAnd | ⟨noBetween, other, listed, isAnd, noneBehind⟩)
    · exact ⟨_, Or.inr rfl, isAnd, by simp⟩
    · refine ⟨_, Or.inl ⟨other, listed, rfl⟩, isAnd, ?_⟩
      intro token behind
      rcases List.mem_append.1 behind with inside | isLast
      · exact noneBehind token inside
      · rw [List.mem_singleton.1 isLast]
        exact noBetween

/-- Backwards from the end of an operand, the nearest of the two words is the `BETWEEN` before the
operand or inside it, unless the operand ends with an `AND`. -/
theorem any_find?_between_iff {between : Token} (isBetween : between.isWord "BETWEEN" = true)
    (operand front : List Token) :
    ((operand.reverse ++ between :: front).find? fun token =>
        token.isWord "AND" || token.isWord "BETWEEN").any (·.isWord "BETWEEN") = true ↔
      ¬ EndWithAnd operand := by
  induction operand using List.reverseRecOn with
  | nil => simp [isBetween, not_endWithAnd_nil]
  | append_singleton operand last ih =>
      rw [List.reverse_concat, List.cons_append, List.find?_cons, endWithAnd_concat_iff]
      cases isAnd : last.isWord "AND" with
      | true => simp [isWord_between_of_isWord_and isAnd]
      | false =>
          cases lastBetween : last.isWord "BETWEEN" with
          | true => simp [lastBetween]
          | false => simpa using ih

end Token

namespace Style

variable {settings : LintSettings}

theorem breakLine_mem_kinds_iff {site : Site} {word : String} :
    .breakLine word ∈ kinds settings site ↔
      site.token.category ≠ .comment ∧ depthAt site = 0 ∧
        Check.breakLine site = some (.breakLine word) := by
  have noLayout : .breakLine word ∉ layoutKinds settings site := by
    intro listed
    have absent : ∀ outside, 12 ∉ layoutRanks outside := by decide
    exact absent _ ((ranks_layoutKinds settings site).subset (List.mem_map_of_mem listed))
  by_cases comment : site.token.category = .comment
  · simp [kinds_of_comment comment, comment]
  · by_cases outside : depthAt site = 0
    · simp [kinds_of_code comment, noLayout, comment, outside]
    · simp [kinds_of_code comment, noLayout, comment, outside]

/-- A violation at the position of a site is one of the objections there. -/
theorem exists_violation_at_iff (settings : LintSettings) (line : Nat) (holds : ViolationKind → Bool)
    {tokens : List Token} (nonempty : ∀ token ∈ tokens, token.text ≠ "") {site : Site}
    (listed : site ∈ Site.all tokens) :
    (∃ violation ∈ lineViolations settings line tokens,
        violation.position = site.position ∧ holds violation.kind = true) ↔
      ∃ kind ∈ kinds settings site, holds kind = true := by
  constructor
  · rintro ⟨violation, inLine, here, asked⟩
    obtain ⟨other, otherListed, kind, inKinds, rfl⟩ := of_mem_lineViolations inLine
    have same : other = site := Site.eq_of_position_eq nonempty otherListed listed here
    exact ⟨kind, same ▸ inKinds, asked⟩
  · rintro ⟨kind, inKinds, asked⟩
    refine ⟨⟨line, site.position, kind⟩, List.mem_flatMap.2 ⟨site, listed, ?_⟩, rfl, asked⟩
    exact List.mem_map_of_mem inKinds

/-- The check asks the `AND` of a clause to start a line exactly if the operand ends with an
`AND`. -/
theorem exists_break_at_conjunction_iff {site : Site} {front operand : List Token}
    {between : Token} (before : site.before = operand.reverse ++ between :: front.reverse)
    (clause : Token.IsBetweenClause front between operand site.token)
    (significant : between.isLayout = false) :
    (∃ kind ∈ kinds settings site, kind.isBreakLine = true) ↔ Token.EndWithAnd operand := by
  have outside : depthAt site = 0 := by
    have inOrder : site.before.reverse = front ++ between :: operand := by simp [before]
    rw [depthAt_eq_zero_iff, inOrder]
    exact clause.conjunctionOutside.closed
  have notFirst : site.isFirst = false := by
    simp [Site.isFirst, before, significant]
  have isConjunction : Check.conjunctions.any site.token.isWord = true :=
    List.any_eq_true.2 ⟨"AND", List.mem_cons_self, clause.isAnd⟩
  have belongs : Check.belongsToBetween site = true ↔ ¬ Token.EndWithAnd operand := by
    rw [Check.belongsToBetween, clause.isAnd, Bool.true_and, before]
    exact Token.any_find?_between_iff clause.isBetween operand front.reverse
  constructor
  · rintro ⟨kind, inKinds, isBreak⟩
    cases kind with
    | breakLine word =>
        obtain ⟨_, _, objected⟩ := breakLine_mem_kinds_iff.1 inKinds
        by_contra noAnd
        simp [Check.breakLine, belongs.2 noAnd] at objected
    | _ => contradiction
  · intro endsWithAnd
    have notFreed : Check.belongsToBetween site = false := by
      rw [← Bool.not_eq_true, belongs, not_not]
      exact endsWithAnd
    refine ⟨.breakLine site.token.text, breakLine_mem_kinds_iff.2 ?_, rfl⟩
    refine ⟨clause.conjunctionOutside.code, outside, ?_⟩
    rw [Check.breakLine, isConjunction, notFirst, notFreed]
    rfl

end Style

/-- A word that is read as a token is no white space. -/
theorem RuleTable.isWhitespace_of_isWord {table : RuleTable} {previous : Option Token}
    {state : LexState} {text after : List Char} {token : Token} {word : String}
    (found : table.nextToken? previous state text = some (token, after))
    (isWord : token.isWord word = true) (noBlanks : word.toList.any Text.isBlank = false) :
    token.isWhitespace = false := by
  rw [Token.isWhitespace, beq_eq_false_iff_ne]
  intro whitespace
  obtain ⟨_, nonempty⟩ := append_of_nextToken? found
  obtain ⟨c, others, chars⟩ := List.exists_cons_of_ne_nil (mt String.toList_eq_nil_iff.1 nonempty)
  have blank : Text.isBlank c = true := isBlank_of_whitespace found whitespace c (by simp [chars])
  have inUpper : c.toUpper ∈ word.toList.map Char.toUpper := by
    rw [← Text.sameWord_iff_toList.1 isWord, chars]
    exact List.mem_cons_self
  obtain ⟨letter, inWord, same⟩ := List.mem_map.1 inUpper
  rw [← Text.isBlank_toUpper, ← same, Text.isBlank_toUpper] at blank
  exact List.any_eq_false.1 noBlanks letter inWord blank

/-- Under any settings and from any state, the `AND` of a clause is asked to start a line exactly
if the operand of its `BETWEEN` ends with an `AND` of its own, in brackets or in a comment.  No
violation of this kind stands at the `AND` if the operand does not say `AND` at all. -/
theorem break_at_and_of_between_iff (settings : LexerSettings) (lint : LintSettings)
    (positive : 0 < lint.indentSteps) (number : Nat) (state : LexState) (line : String)
    {front operand behind : List Token} {between conjunction : Token}
    (split : ((RuleTable.ofSettings settings).lexLine state line).tokens =
      front ++ between :: operand ++ conjunction :: behind)
    (clause : Token.IsBetweenClause front between operand conjunction) :
    ∃ violations,
      Style.checkLine lint number ((RuleTable.ofSettings settings).lexLine state line).tokens =
        .ok violations ∧
      ((∃ violation ∈ violations,
          violation.position =
            (String.join ((front ++ between :: operand).map (·.text))).utf8ByteSize ∧
          violation.kind.isBreakLine = true) ↔ Token.EndWithAnd operand) ∧
      ((∀ token ∈ operand, token.isWord "AND" = false) →
        ∀ violation ∈ violations,
          violation.position =
            (String.join ((front ++ between :: operand).map (·.text))).utf8ByteSize →
          violation.kind.isBreakLine = false) := by
  have lossless := (RuleTable.ofSettings settings).lossless_lexLine state line
  have inLine : ⟨(front ++ between :: operand).reverse, conjunction, behind⟩ ∈
      Site.all ((RuleTable.ofSettings settings).lexLine state line).tokens := by
    have listed := Site.mem_allFrom_of_split [] (front ++ between :: operand) behind conjunction
    rw [List.append_nil] at listed
    rw [split]
    exact listed
  have position : Site.position ⟨(front ++ between :: operand).reverse, conjunction, behind⟩ =
      (String.join ((front ++ between :: operand).map (·.text))).utf8ByteSize := by
    rw [Site.position, Site.totalBytes_eq, List.reverse_reverse]
  have significant : between.isLayout = false := by
    rw [List.append_assoc, List.cons_append] at split
    obtain ⟨_, _, found⟩ := RuleTable.nextToken?_of_split_lexLine split
    have noBlank := RuleTable.isWhitespace_of_isWord found clause.isBetween (by decide)
    exact Token.isLayout_eq_false noBlank clause.outside.code
  have reported := Style.exists_violation_at_iff lint number ViolationKind.isBreakLine
    lossless.text_ne_empty inLine
  rw [Style.exists_break_at_conjunction_iff (by simp) clause significant, position] at reported
  refine ⟨_, Style.checkLine_eq_ok positive number _, reported, ?_⟩
  intro noAnd violation listed here
  rw [Bool.eq_false_iff]
  intro isBreak
  obtain ⟨other, inOperand, isAnd, _⟩ := reported.1 ⟨violation, listed, here, isBreak⟩
  rw [noAnd _ (Site.token_mem inOperand)] at isAnd
  contradiction

theorem break_at_and_of_between_iff_over_inner_between :
    0 < ({} : LintSettings).indentSteps ∧
      ((RuleTable.ofSettings {}).lexLine {} "a Between (b and c between d) And e").tokens =
        [⟨.identifier, "a"⟩, ⟨.whitespace, " "⟩] ++ ⟨.keyword, "Between"⟩ ::
          [⟨.whitespace, " "⟩, ⟨.bracket, "("⟩, ⟨.identifier, "b"⟩, ⟨.whitespace, " "⟩,
            ⟨.keyword, "and"⟩, ⟨.whitespace, " "⟩, ⟨.identifier, "c"⟩, ⟨.whitespace, " "⟩,
            ⟨.keyword, "between"⟩, ⟨.whitespace, " "⟩, ⟨.identifier, "d"⟩, ⟨.bracket, ")"⟩,
            ⟨.whitespace, " "⟩] ++
          ⟨.keyword, "And"⟩ :: [⟨.whitespace, " "⟩, ⟨.identifier, "e"⟩] ∧
      ∃ violations,
        Style.checkLine {} 0
            ((RuleTable.ofSettings {}).lexLine {} "a Between (b and c between d) And e").tokens =
          .ok violations ∧
        ∀ violation ∈ violations, violation.position = 30 → violation.kind.isBreakLine = false := by
  have split : ((RuleTable.ofSettings {}).lexLine {} "a Between (b and c between d) And e").tokens =
      [⟨.identifier, "a"⟩, ⟨.whitespace, " "⟩] ++ ⟨.keyword, "Between"⟩ ::
        [⟨.whitespace, " "⟩, ⟨.bracket, "("⟩, ⟨.identifier, "b"⟩, ⟨.whitespace, " "⟩,
          ⟨.keyword, "and"⟩, ⟨.whitespace, " "⟩, ⟨.identifier, "c"⟩, ⟨.whitespace, " "⟩,
          ⟨.keyword, "between"⟩, ⟨.whitespace, " "⟩, ⟨.identifier, "d"⟩, ⟨.bracket, ")"⟩,
          ⟨.whitespace, " "⟩] ++
        ⟨.keyword, "And"⟩ :: [⟨.whitespace, " "⟩, ⟨.identifier, "e"⟩] := by
    decide +kernel
  obtain ⟨violations, checked, reported, _⟩ :=
    break_at_and_of_between_iff {} {} (by decide) 0 {} "a Between (b and c between d) And e" split
      { isBetween := Text.sameWord_iff_toList.2 (by decide)
        outside := by decide +kernel
        isAnd := Text.sameWord_iff_toList.2 (by decide)
        conjunctionOutside := by decide +kernel
        first := by
          rw [Token.isWord_eq_decide]
          decide +kernel }
  refine ⟨by decide, split, violations, checked, ?_⟩
  intro violation listed here
  rw [Bool.eq_false_iff]
  intro isBreak
  have endsWithAnd := reported.1 ⟨violation, listed, here.trans (by decide +kernel), isBreak⟩
  rw [Token.EndWithAnd, Token.isWord_eq_decide] at endsWithAnd
  revert endsWithAnd
  decide +kernel

/-- An `AND` in brackets keeps the search from the `BETWEEN` of the `AND` behind them. -/
theorem and_in_brackets_hides_between :
    ((RuleTable.ofSettings {}).lexLine {} "a between (b and c) and d").tokens =
        [⟨.identifier, "a"⟩, ⟨.whitespace, " "⟩] ++ ⟨.keyword, "between"⟩ ::
          [⟨.whitespace, " "⟩, ⟨.bracket, "("⟩, ⟨.identifier, "b"⟩, ⟨.whitespace, " "⟩,
            ⟨.keyword, "and"⟩, ⟨.whitespace, " "⟩, ⟨.identifier, "c"⟩, ⟨.bracket, ")"⟩,
            ⟨.whitespace, " "⟩] ++
          ⟨.keyword, "and"⟩ :: [⟨.whitespace, " "⟩, ⟨.identifier, "d"⟩] ∧
      Token.IsBetweenClause [⟨.identifier, "a"⟩, ⟨.whitespace, " "⟩] ⟨.keyword, "between"⟩
        [⟨.whitespace, " "⟩, ⟨.bracket, "("⟩, ⟨.identifier, "b"⟩, ⟨.whitespace, " "⟩,
          ⟨.keyword, "and"⟩, ⟨.whitespace, " "⟩, ⟨.identifier, "c"⟩, ⟨.bracket, ")"⟩,
          ⟨.whitespace, " "⟩]
        ⟨.keyword, "and"⟩ ∧
      Style.checkLine {} 0
          ((RuleTable.ofSettings {}).lexLine {} "a between (b and c) and d").tokens =
        .ok [⟨0, 20, .breakLine "and"⟩] := by
  have tokens : ((RuleTable.ofSettings {}).lexLine {} "a between (b and c) and d").tokens =
      [⟨.identifier, "a"⟩, ⟨.whitespace, " "⟩] ++ ⟨.keyword, "between"⟩ ::
        [⟨.whitespace, " "⟩, ⟨.bracket, "("⟩, ⟨.identifier, "b"⟩, ⟨.whitespace, " "⟩,
          ⟨.keyword, "and"⟩, ⟨.whitespace, " "⟩, ⟨.identifier, "c"⟩, ⟨.bracket, ")"⟩,
          ⟨.whitespace, " "⟩] ++
        ⟨.keyword, "and"⟩ :: [⟨.whitespace, " "⟩, ⟨.identifier, "d"⟩] := by
    decide +kernel
  refine ⟨tokens, ?_, ?_⟩
  · exact
      { isBetween := Text.sameWord_iff_toList.2 (by decide)
        outside := by decide +kernel
        isAnd := Text.sameWord_iff_toList.2 (by decide)
        conjunctionOutside := by decide +kernel
        first := by
          rw [Token.isWord_eq_decide]
          decide +kernel }
  · rw [tokens]
    -- Texts in upper case are slow to compare as strings, so the checks are run on their letters.
    unfold Style.checkLine Style.siteViolations Style.objections Check.joinTable Check.joinContext
      Check.joinWords Check.breakLine Check.belongsToBetween
    rw [Token.isWord_eq_decide]
    decide +kernel

end SqlLint
