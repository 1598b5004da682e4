import Mathlib.Data.List.Forall2
import SqlLint.Document.Run
import SqlLint.Proofs.CommentEnds
import SqlLint.Proofs.Violations

/-!
# The style check and what comments say

Two lines whose tokens agree apart from the texts of comments have the same violations, with one
exception: in the search for the `BETWEEN` of an `AND` a comment counts as a word, so a comment
that says one of the two can decide whether the `AND` has to start a line
(`comments_sway_conjunctions_only`).  The other checks ask for the category of a neighbour, or meet
a comment only where it ends (`Site.isChain_endsBefore`) and says nothing but its mark.
-/

set_option autoImplicit false

namespace SqlLint

namespace Token

/-- Two tokens that differ at most in what they say as comments. -/
structure SameButComment (first second : Token) : Prop where
  category_eq : first.category = second.category
  byteLength_eq : first.byteLength = second.byteLength
  text_eq : first.category ≠ .comment → first.text = second.text

instance (first second : Token) : Decidable (first.SameButComment second) :=
  decidable_of_iff
    (first.category = second.category ∧ first.byteLength = second.byteLength ∧
      (first.category ≠ .comment → first.text = second.text))
    ⟨fun ⟨category, bytes, text⟩ => ⟨category, bytes, text⟩,
      fun same => ⟨same.category_eq, same.byteLength_eq, same.text_eq⟩⟩

/-- Two tokens that count alike in the search for a `BETWEEN`. -/
def SameConjunction (first second : Token) : Prop :=
  first.isWord "AND" = second.isWord "AND" ∧ first.isWord "BETWEEN" = second.isWord "BETWEEN"

theorem SameButComment.eq {first second : Token} (same : first.SameButComment second)
    (noComment : first.category ≠ .comment) : first = second := by
  obtain ⟨category, text⟩ := first
  obtain ⟨otherCategory, otherText⟩ := second
  obtain rfl : category = otherCategory := same.category_eq
  obtain rfl : text = otherText := same.text_eq noComment
  rfl

theorem map_category_eq {tokens others : List Token}
    (same : List.Forall₂ SameButComment tokens others) :
    tokens.map category = others.map category := by
  induction same with
  | nil => rfl
  | cons head _ ih => rw [List.map_cons, List.map_cons, head.category_eq, ih]

theorem totalBytes_eq_of_forall₂ {tokens others : List Token}
    (same : List.Forall₂ SameButComment tokens others) :
    totalBytes tokens = totalBytes others := by
  induction same with
  | nil => rfl
  | cons head _ ih => rw [totalBytes, totalBytes, head.byteLength_eq, ih]

/-! ### What depends on the categories of the other tokens -/

theorem all_layout_eq {tokens others : List Token}
    (same : List.Forall₂ SameButComment tokens others) :
    tokens.all (·.isLayout) = others.all (·.isLayout) := by
  have byCategory : ∀ list : List Token,
      list.all (·.isLayout) = (list.map (·.category)).all (!·.isSignificant) := by
    intro list
    rw [List.all_map]
    rfl
  rw [byCategory, byCategory, map_category_eq same]

theorem any_category_eq {tokens others : List Token} (category : TokenCategory)
    (same : List.Forall₂ SameButComment tokens others) :
    tokens.any (·.category == category) = others.any (·.category == category) := by
  have byCategory : ∀ list : List Token,
      list.any (·.category == category) = (list.map (·.category)).any (· == category) := by
    intro list
    rw [List.any_map]
    rfl
  rw [byCategory, byCategory, map_category_eq same]

theorem head?_category_eq {tokens others : List Token} (category : TokenCategory)
    (same : List.Forall₂ SameButComment tokens others) :
    tokens.head?.any (·.category == category) = others.head?.any (·.category == category) := by
  cases same with
  | nil => rfl
  | cons head _ => simp only [List.head?_cons, Option.any_some, head.category_eq]

theorem isEmpty_eq {tokens others : List Token}
    (same : List.Forall₂ SameButComment tokens others) :
    tokens.isEmpty = others.isEmpty := by
  cases same <;> rfl

/-! ### A comment that is over is no word -/

theorem isWord_eq_decide : isWord = fun token word =>
    decide (token.text.toList.map Char.toUpper = word.toList.map Char.toUpper) := by
  funext token word
  rw [Bool.eq_iff_iff, decide_eq_true_iff]
  exact Text.sameWord_iff_toList

theorem isWord_eq_false_of_head? {token : Token} {word : String} {c : Char}
    (starts : token.text.toList.head? = some c)
    (other : word.toList.head?.map Char.toUpper ≠ some c.toUpper) :
    token.isWord word = false := by
  rw [isWord, Text.sameWord_eq_false_iff]
  intro same
  have heads := congrArg List.head? same
  rw [List.head?_map, List.head?_map, starts] at heads
  exact other heads.symm

theorem isJoinModifier_of_endsBefore {comment next : Token} (ends : comment.EndsBefore next)
    (inComment : comment.category = .comment) (noComment : next.category ≠ .comment) :
    Check.joinModifiers.any comment.isWord = false := by
  have first : ∃ c, comment.text.toList.head? = some c ∧ ∀ word ∈ Check.joinModifiers,
      word.toList.head?.map Char.toUpper ≠ some c.toUpper := by
    rcases ends inComment noComment with closing | ⟨_, hash | dashes⟩
    · exact ⟨'*', by rw [closing]; rfl, by decide⟩
    · obtain ⟨rest, text⟩ := hash
      exact ⟨'#', by rw [← text]; rfl, by decide⟩
    · obtain ⟨rest, text⟩ := dashes
      exact ⟨'-', by rw [← text]; rfl, by decide⟩
  obtain ⟨c, starts, noLetter⟩ := first
  rw [List.any_eq_false]
  intro word listed
  rw [isWord_eq_false_of_head? starts (noLetter word listed)]
  exact Bool.false_ne_true

end Token

namespace Site

/-- Two sites that differ at most in what comments say, in lines where each comment is over before
the code behind it. -/
structure SameButComments (first second : Site) : Prop where
  token_same : first.token.SameButComment second.token
  before_same : List.Forall₂ Token.SameButComment first.before second.before
  behind_same : List.Forall₂ Token.SameButComment first.behind second.behind
  first_ends : (first.token :: first.before).IsChain fun next comment => comment.EndsBefore next
  second_ends : (second.token :: second.before).IsChain fun next comment => comment.EndsBefore next

theorem forall₂_allFrom {related : Token → Token → Prop}
    {before others tokens variants : List Token}
    (sameBefore : List.Forall₂ related before others)
    (same : List.Forall₂ related tokens variants) :
    List.Forall₂ (fun first second : Site => related first.token second.token ∧
        List.Forall₂ related first.before second.before ∧
        List.Forall₂ related first.behind second.behind)
      (allFrom before tokens) (allFrom others variants) := by
  induction same generalizing before others with
  | nil => exact .nil
  | cons head later ih => exact .cons ⟨head, sameBefore, later⟩ (ih (.cons head sameBefore))

theorem forall₂_sameButComments {tokens variants : List Token}
    (same : List.Forall₂ Token.SameButComment tokens variants)
    (ends : tokens.IsChain Token.EndsBefore) (variantEnds : variants.IsChain Token.EndsBefore) :
    List.Forall₂ SameButComments (all tokens) (all variants) := by
  have sites := forall₂_allFrom .nil same
  rw [List.forall₂_iff_zip]
  refine ⟨sites.length_eq, ?_⟩
  intro first second listed
  obtain ⟨token, before, behind⟩ := List.forall₂_zip sites listed
  obtain ⟨inLine, inVariant⟩ := List.of_mem_zip listed
  exact ⟨token, before, behind, isChain_endsBefore ends inLine,
    isChain_endsBefore variantEnds inVariant⟩

namespace SameButComments

variable {first second : Site}

theorem position_eq (same : first.SameButComments second) : first.position = second.position :=
  Token.totalBytes_eq_of_forall₂ same.before_same

theorem isFirst_eq (same : first.SameButComments second) : first.isFirst = second.isFirst :=
  Token.all_layout_eq same.before_same

theorem isLast_eq (same : first.SameButComments second) : first.isLast = second.isLast :=
  Token.all_layout_eq same.behind_same

theorem blankBehind_eq (same : first.SameButComments second) :
    Check.blankBehind first = Check.blankBehind second :=
  Token.head?_category_eq .whitespace same.behind_same

theorem blankBefore_eq (same : first.SameButComments second) :
    Check.blankBefore first = Check.blankBefore second := by
  have nearest : first.before.head?.any (·.isWhitespace) =
      second.before.head?.any (·.isWhitespace) := Token.head?_category_eq .whitespace same.before_same
  rw [Check.blankBefore, Check.blankBefore, same.before_same.length_eq, nearest]

end SameButComments

end Site

/-! ## Objections -/

namespace Check

variable {first second : Site}

theorem unevenIndent_eq (steps : Nat) (same : first.SameButComments second)
    (token : first.token = second.token) :
    unevenIndent steps first = unevenIndent steps second := by
  rw [unevenIndent, unevenIndent, Token.isEmpty_eq same.before_same, token]

theorem duplicatedSpaces_eq (same : first.SameButComments second)
    (token : first.token = second.token) : duplicatedSpaces first = duplicatedSpaces second := by
  have aligns := Token.head?_category_eq .comment same.behind_same
  simp only [duplicatedSpaces, Token.isEmpty_eq same.before_same, aligns, token]

theorem commaPosition_eq (expected : CommaPosition) (same : first.SameButComments second)
    (token : first.token = second.token) :
    commaPosition expected first = commaPosition expected second := by
  simp only [commaPosition, same.isFirst_eq, same.isLast_eq, token]

theorem whitespaceAroundComma_eq (same : first.SameButComments second)
    (token : first.token = second.token) :
    whitespaceAroundComma first = whitespaceAroundComma second := by
  simp only [whitespaceAroundComma, Token.isEmpty_eq same.behind_same, same.blankBehind_eq,
    same.blankBefore_eq, token]

theorem whitespaceInsideBrackets_eq (same : first.SameButComments second)
    (token : first.token = second.token) :
    whitespaceInsideBrackets first = whitespaceInsideBrackets second := by
  simp only [whitespaceInsideBrackets, same.behind_same.length_eq, same.blankBehind_eq,
    same.blankBefore_eq, token]

theorem operatorBehind?_eq (same : first.SameButComments second)
    (token : first.token = second.token) : operatorBehind? first = operatorBehind? second := by
  have neighbours := same.behind_same
  rw [operatorBehind?, operatorBehind?, token]
  generalize first.behind = behind at neighbours ⊢
  generalize second.behind = variants at neighbours ⊢
  cases neighbours with
  | nil => rfl
  | @cons next other _ _ head _ =>
      by_cases comment : next.category = .comment
      · have otherComment : other.category = .comment := by rw [← head.category_eq, comment]
        have layout : next.isLayout = true := by rw [Token.isLayout, comment]; rfl
        have otherLayout : other.isLayout = true := by rw [Token.isLayout, otherComment]; rfl
        simp only [layout, otherLayout, Bool.true_or, if_true]
      · rw [head.eq comment]

/-- A comment directly before an operator is the closing mark of a block comment. -/
theorem operatorBefore?_eq (same : first.SameButComments second)
    (token : first.token = second.token) (operator : first.token.category = .operator) :
    operatorBefore? first = operatorBefore? second := by
  have closing : ∀ {comment next : Token}, comment.EndsBefore next → next.category = .operator →
      comment.category = .comment → comment.text = "*/" := by
    intro comment next ends isOperator isComment
    rcases ends isComment (by rw [isOperator]; decide) with mark | ⟨blank, _⟩
    · exact mark
    · rw [isOperator] at blank
      contradiction
  have firstEnds := same.first_ends
  have secondEnds := same.second_ends
  have neighbours := same.before_same
  rw [← token] at secondEnds
  rw [operatorBefore?, operatorBefore?, ← token]
  generalize first.before = before at neighbours firstEnds ⊢
  generalize second.before = others at neighbours secondEnds ⊢
  cases neighbours with
  | nil => rfl
  | @cons previous other before others head later =>
      by_cases comment : previous.category = .comment
      · have mark := closing firstEnds.rel operator comment
        have otherMark := closing secondEnds.rel operator (head.category_eq ▸ comment)
        have blank : previous.isWhitespace = other.isWhitespace := by
          rw [Token.isWhitespace, Token.isWhitespace, head.category_eq]
        simp only [mark, otherMark, blank]
      · rw [head.eq comment]

theorem whitespaceAroundOperator_eq (same : first.SameButComments second)
    (token : first.token = second.token) :
    whitespaceAroundOperator first = whitespaceAroundOperator second := by
  by_cases operator : first.token.category = .operator
  · rw [whitespaceAroundOperator, whitespaceAroundOperator, operatorBehind?_eq same token,
      operatorBefore?_eq same token operator, token]
  · have operatorAgain : second.token.category ≠ .operator := token ▸ operator
    simp only [whitespaceAroundOperator, beq_eq_false_iff_ne.2 operator,
      beq_eq_false_iff_ne.2 operatorAgain, Bool.false_eq_true, if_false]

theorem joinTable_eq (same : first.SameButComments second) (token : first.token = second.token) :
    joinTable first = joinTable second := by
  rw [joinTable, joinTable, Token.any_category_eq .identifier same.behind_same, token]

/-- Backwards from a token of code, the modifiers end at the first comment, which is over there. -/
theorem modifiers_eq {next other : Token} {before others : List Token}
    (same : List.Forall₂ Token.SameButComment before others)
    (code : next.category ≠ .comment) (otherCode : other.category ≠ .comment)
    (ends : (next :: before).IsChain fun next comment => comment.EndsBefore next)
    (otherEnds : (other :: others).IsChain fun next comment => comment.EndsBefore next) :
    (before.filter (!·.isWhitespace)).takeWhile (fun token => joinModifiers.any token.isWord) =
      (others.filter (!·.isWhitespace)).takeWhile
        fun token => joinModifiers.any token.isWord := by
  induction same generalizing next other with
  | nil => rfl
  | @cons token variant before others head later ih =>
      by_cases comment : token.category = .comment
      · have variantComment : variant.category = .comment := head.category_eq ▸ comment
        have noBlank : token.isWhitespace = false := by rw [Token.isWhitespace, comment]; rfl
        have variantNoBlank : variant.isWhitespace = false := by
          rw [Token.isWhitespace, variantComment]; rfl
        have stop := Token.isJoinModifier_of_endsBefore ends.rel comment code
        have variantStop := Token.isJoinModifier_of_endsBefore otherEnds.rel variantComment otherCode
        simp [noBlank, variantNoBlank, stop, variantStop]
      · obtain rfl := head.eq comment
        have modifiers := ih comment comment ends.tail otherEnds.tail
        cases blank : token.isWhitespace with
        | true => simp [blank, modifiers]
        | false => simp [blank, List.takeWhile_cons, modifiers]

theorem joinContext_eq (same : first.SameButComments second) (token : first.token = second.token)
    (code : first.token.category ≠ .comment) : joinContext first = joinContext second := by
  have words : joinWords first = joinWords second := by
    simp only [joinWords, modifiers_eq same.before_same code (token ▸ code) same.first_ends
      same.second_ends, token]
  rw [joinContext, joinContext, words, token]

theorem belongsToBetween_eq (token : first.token = second.token)
    (conjunctions : List.Forall₂ Token.SameConjunction first.before second.before) :
    belongsToBetween first = belongsToBetween second := by
  have nearest : (first.before.find? fun token =>
        token.isWord "AND" || token.isWord "BETWEEN").any (·.isWord "BETWEEN") =
      (second.before.find? fun token =>
        token.isWord "AND" || token.isWord "BETWEEN").any (·.isWord "BETWEEN") := by
    generalize first.before = before at conjunctions ⊢
    generalize second.before = others at conjunctions ⊢
    induction conjunctions with
    | nil => rfl
    | @cons token other _ _ head _ ih =>
        obtain ⟨isAnd, isBetween⟩ := head
        rw [List.find?_cons, List.find?_cons, isAnd, isBetween]
        split
        · exact isBetween
        · exact ih
  rw [belongsToBetween, belongsToBetween, nearest, token]

/-- An `OR` or an `ON` is looked at without the words before it. -/
theorem breakLine_eq (same : first.SameButComments second) (token : first.token = second.token)
    (between : first.token.isWord "AND" = true → belongsToBetween first = belongsToBetween second) :
    breakLine first = breakLine second := by
  have exempt : belongsToBetween first = belongsToBetween second := by
    cases isAnd : first.token.isWord "AND" with
    | true => exact between isAnd
    | false =>
        have isAndAgain : second.token.isWord "AND" = false := token ▸ isAnd
        rw [belongsToBetween, belongsToBetween, isAnd, isAndAgain, Bool.false_and, Bool.false_and]
  rw [breakLine, breakLine, same.isFirst_eq, exempt, token]

end Check

/-- An objection to the place of an `AND`. -/
def ViolationKind.isBreakAtAnd : ViolationKind → Bool
  | breakLine word => Text.sameWord word "AND"
  | _ => false

namespace Style

variable {settings : LintSettings} {first second : Site}

theorem depth_eq_of_forall₂ {tokens others : List Token}
    (same : List.Forall₂ Token.SameButComment tokens others) :
    tokens.foldr (fun token depth => depthAfter depth token) 0 =
      others.foldr (fun token depth => depthAfter depth token) 0 := by
  induction same with
  | nil => rfl
  | @cons token other tokens others head later ih =>
      rw [List.foldr_cons, List.foldr_cons, ih]
      by_cases comment : token.category = .comment
      · have otherComment : other.category = .comment := head.category_eq ▸ comment
        simp [depthAfter, comment, otherComment]
      · rw [head.eq comment]

theorem depthAt_eq (same : first.SameButComments second) : depthAt first = depthAt second :=
  depth_eq_of_forall₂ (.cons same.token_same same.before_same)

theorem layoutKinds_eq (same : first.SameButComments second)
    (token : first.token = second.token) (code : first.token.category ≠ .comment) :
    layoutKinds settings first = layoutKinds settings second := by
  rw [layoutKinds, layoutKinds, Check.unevenIndent_eq _ same token,
    Check.duplicatedSpaces_eq same token, Check.commaPosition_eq _ same token, depthAt_eq same,
    Check.whitespaceAroundComma_eq same token, Check.whitespaceInsideBrackets_eq same token,
    Check.whitespaceAroundOperator_eq same token, Check.joinTable_eq same token,
    Check.joinContext_eq same token code, token]

theorem kinds_eq (same : first.SameButComments second)
    (between : first.token.isWord "AND" = true →
      Check.belongsToBetween first = Check.belongsToBetween second) :
    kinds settings first = kinds settings second := by
  by_cases comment : first.token.category = .comment
  · rw [kinds_of_comment comment, kinds_of_comment (same.token_same.category_eq ▸ comment)]
  · have token := same.token_same.eq comment
    rw [kinds_of_code comment, kinds_of_code (token ▸ comment), depthAt_eq same,
      layoutKinds_eq same token comment, Check.breakLine_eq same token between]

theorem filter_breakLine {site : Site} (isAnd : site.token.isWord "AND" = true) :
    (Check.breakLine site).toList.filter (!·.isBreakAtAnd) = [] := by
  have atAnd : Text.sameWord site.token.text "AND" = true := isAnd
  rw [Check.breakLine]
  split
  · simp [ViolationKind.isBreakAtAnd, atAnd]
  · rfl

/-- Whatever comments say, the objections other than to an `AND` are the same. -/
theorem filter_kinds_eq (same : first.SameButComments second) :
    (kinds settings first).filter (!·.isBreakAtAnd) =
      (kinds settings second).filter (!·.isBreakAtAnd) := by
  by_cases isAnd : first.token.isWord "AND" = true
  · by_cases comment : first.token.category = .comment
    · rw [kinds_of_comment comment, kinds_of_comment (same.token_same.category_eq ▸ comment)]
    · have token := same.token_same.eq comment
      rw [kinds_of_code comment, kinds_of_code (token ▸ comment), List.filter_append,
        List.filter_append, layoutKinds_eq same token comment, depthAt_eq same]
      congr 1
      split
      · rw [filter_breakLine isAnd, filter_breakLine (token ▸ isAnd)]
      · rfl
  · rw [kinds_eq same fun holds => absurd holds isAnd]

/-! ## Lines -/

theorem flatMap_eq_of_zip {sites others : List Site} {found foundAgain : Site → List Violation}
    (length : sites.length = others.length)
    (each : ∀ first second, (first, second) ∈ sites.zip others →
      found first = foundAgain second) :
    sites.flatMap found = others.flatMap foundAgain := by
  have mapped : List.Forall₂ (· = ·) (sites.map found) (others.map foundAgain) := by
    rw [List.forall₂_map_left_iff, List.forall₂_map_right_iff, List.forall₂_iff_zip]
    exact ⟨length, each _ _⟩
  rw [List.forall₂_eq_eq_eq] at mapped
  rw [List.flatMap_def, List.flatMap_def, mapped]

variable {tokens variants : List Token}

theorem filter_lineViolations_eq (line : Nat)
    (same : List.Forall₂ Site.SameButComments (Site.all tokens) (Site.all variants)) :
    (lineViolations settings line tokens).filter (!·.kind.isBreakAtAnd) =
      (lineViolations settings line variants).filter (!·.kind.isBreakAtAnd) := by
  rw [lineViolations, lineViolations, List.filter_flatMap, List.filter_flatMap]
  apply flatMap_eq_of_zip same.length_eq
  intro first second listed
  have alike := List.forall₂_zip same listed
  have kinds : (kinds settings first).filter (!·.isBreakAtAnd) =
      (kinds settings second).filter (!·.isBreakAtAnd) := filter_kinds_eq alike
  rw [List.filter_map, List.filter_map, alike.position_eq]
  exact congrArg (List.map _) kinds

theorem lineViolations_eq (line : Nat)
    (same : List.Forall₂ Site.SameButComments (Site.all tokens) (Site.all variants))
    (conjunctions : List.Forall₂ Token.SameConjunction tokens variants) :
    lineViolations settings line tokens = lineViolations settings line variants := by
  have words := Site.forall₂_allFrom .nil conjunctions
  apply flatMap_eq_of_zip same.length_eq
  intro first second listed
  have alike := List.forall₂_zip same listed
  obtain ⟨_, before, _⟩ := List.forall₂_zip words listed
  by_cases comment : first.token.category = .comment
  · rw [kinds_of_comment comment, kinds_of_comment (alike.token_same.category_eq ▸ comment)]
    rfl
  · have between := Check.belongsToBetween_eq (alike.token_same.eq comment) before
    rw [kinds_eq alike fun _ => between, alike.position_eq]

end Style

theorem RuleTable.isChain_endsBefore (table : RuleTable) (state : LexState) (line : String) :
    (table.lexLine state line).tokens.IsChain Token.EndsBefore :=
  (table.reads_scan none state line.toList).isChain_endsBefore

/-- Two lines whose tokens agree apart from what comments say have the same violations, those of
an `AND` that does not start its line apart.  They have the same violations altogether if each
comment of the one line is the word `AND` or `BETWEEN` where that of the other one is. -/
theorem comments_sway_conjunctions_only (settings : LexerSettings) (lint : LintSettings)
    (positive : 0 < lint.indentSteps) (number : Nat) {state other : LexState}
    {line variant : String}
    (same : List.Forall₂ Token.SameButComment
      ((RuleTable.ofSettings settings).lexLine state line).tokens
      ((RuleTable.ofSettings settings).lexLine other variant).tokens) :
    ∃ first second,
      Style.checkLine lint number ((RuleTable.ofSettings settings).lexLine state line).tokens =
        .ok first ∧
      Style.checkLine lint number ((RuleTable.ofSettings settings).lexLine other variant).tokens =
        .ok second ∧
      first.filter (!·.kind.isBreakAtAnd) = second.filter (!·.kind.isBreakAtAnd) ∧
      (List.Forall₂ Token.SameConjunction
        ((RuleTable.ofSettings settings).lexLine state line).tokens
        ((RuleTable.ofSettings settings).lexLine other variant).tokens → first = second) := by
  have sites := Site.forall₂_sameButComments same
    ((RuleTable.ofSettings settings).isChain_endsBefore state line)
    ((RuleTable.ofSettings settings).isChain_endsBefore other variant)
  exact ⟨_, _, Style.checkLine_eq_ok positive number _, Style.checkLine_eq_ok positive number _,
    Style.filter_lineViolations_eq number sites, Style.lineViolations_eq number sites⟩

theorem comments_sway_conjunctions_only_before_operator :
    0 < ({} : LintSettings).indentSteps ∧
      List.Forall₂ Token.SameButComment
        ((RuleTable.ofSettings {}).lexLine { inComment := true } "left*/+b").tokens
        ((RuleTable.ofSettings {}).lexLine { inComment := true } "and.*/+b").tokens ∧
      ∃ first second,
        Style.checkLine {} 3
            ((RuleTable.ofSettings {}).lexLine { inComment := true } "left*/+b").tokens =
          .ok first ∧
        Style.checkLine {} 3
            ((RuleTable.ofSettings {}).lexLine { inComment := true } "and.*/+b").tokens =
          .ok second ∧
        first.filter (!·.kind.isBreakAtAnd) = second.filter (!·.kind.isBreakAtAnd) := by
  have same : List.Forall₂ Token.SameButComment
      ((RuleTable.ofSettings {}).lexLine { inComment := true } "left*/+b").tokens
      ((RuleTable.ofSettings {}).lexLine { inComment := true } "and.*/+b").tokens := by
    decide +kernel
  obtain ⟨first, second, checked, checkedAgain, others, _⟩ :=
    comments_sway_conjunctions_only {} {} (by decide) 3 same
  exact ⟨by decide, same, first, second, checked, checkedAgain, others⟩

/-- A comment that says `between` frees the `AND` behind it from starting its line. -/
theorem comment_saying_between_frees_and :
    List.Forall₂ Token.SameButComment
        ((RuleTable.ofSettings {}).lexLine {} "a /*between*/and").tokens
        ((RuleTable.ofSettings {}).lexLine {} "a /*comment*/and").tokens ∧
      Style.checkLine {} 0 ((RuleTable.ofSettings {}).lexLine {} "a /*between*/and").tokens =
        .ok [] ∧
      Style.checkLine {} 0 ((RuleTable.ofSettings {}).lexLine {} "a /*comment*/and").tokens =
        .ok [⟨0, 13, .breakLine "and"⟩] := by
  have saying : ((RuleTable.ofSettings {}).lexLine {} "a /*between*/and").tokens =
      [⟨.identifier, "a"⟩, ⟨.whitespace, " "⟩, ⟨.comment, "/*"⟩, ⟨.comment, "between"⟩,
        ⟨.comment, "*/"⟩, ⟨.keyword, "and"⟩] := by decide +kernel
  have silent : ((RuleTable.ofSettings {}).lexLine {} "a /*comment*/and").tokens =
      [⟨.identifier, "a"⟩, ⟨.whitespace, " "⟩, ⟨.comment, "/*"⟩, ⟨.comment, "comment"⟩,
        ⟨.comment, "*/"⟩, ⟨.keyword, "and"⟩] := by decide +kernel
  rw [saying, silent]
  -- Texts in upper case are slow to compare as strings, so the checks are run on their letters.
  unfold Style.checkLine Style.siteViolations Style.objections Check.joinTable Check.joinContext
    Check.joinWords Check.breakLine Check.belongsToBetween
  rw [Token.isWord_eq_decide]
  exact ⟨by decide +kernel, by decide +kernel, by decide +kernel⟩

end SqlLint
