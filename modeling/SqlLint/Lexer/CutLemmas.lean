import SqlLint.Lexer.Rule

/-!
# Cuts lose nothing

Whatever rule makes a cut, the groups and the rest together are the text, and the body has at
least one character. So a rule that applies makes the text shorter, which ends every scan.
-/

set_option autoImplicit false

namespace SqlLint

namespace Cut

/-- A way to take a body that keeps every character and takes at least one. -/
def Faithful (take : Take) : Prop :=
  ∀ text body rest, take text = some (body, rest) → body ++ rest = text ∧ body ≠ []

theorem faithful_takeChar (c : Char) : Faithful (takeChar c) := by
  intro text body rest taken
  cases text with
  | nil => simp [takeChar] at taken
  | cons first others =>
      by_cases same : first = c
      · simp [takeChar, same] at taken
        obtain ⟨rfl, rfl⟩ := taken
        simp [same]
      · simp [takeChar, same] at taken

theorem faithful_takeRun (member : Char → Bool) : Faithful (takeRun member) := by
  intro text body rest taken
  unfold takeRun at taken
  split at taken
  · simp at taken
  · next nonempty =>
      simp only [Option.some.injEq, Prod.mk.injEq] at taken
      obtain ⟨rfl, rfl⟩ := taken
      exact ⟨List.takeWhile_append_dropWhile, nonempty⟩

theorem append_of_splitLast? {quote : Char} {text before after : List Char}
    (found : splitLast? quote text = some (before, after)) :
    before ++ quote :: after = text := by
  induction text generalizing before after with
  | nil => simp [splitLast?] at found
  | cons c rest ih =>
      unfold splitLast? at found
      split at found
      · simp at found
      · split at found
        · next further =>
            simp only [Option.some.injEq, Prod.mk.injEq] at found
            obtain ⟨rfl, rfl⟩ := found
            simp [ih further]
        · split at found
          · next same =>
              simp only [Option.some.injEq, Prod.mk.injEq] at found
              obtain ⟨rfl, rfl⟩ := found
              simp [same]
          · simp at found

theorem faithful_takeQuoted : Faithful takeQuoted := by
  intro text body rest taken
  unfold takeQuoted at taken
  split at taken
  · simp at taken
  · next quote others =>
      split at taken
      · split at taken
        · next c before after found =>
            simp only [Option.some.injEq, Prod.mk.injEq] at taken
            obtain ⟨rfl, rfl⟩ := taken
            have whole := append_of_splitLast? found
            simp only [List.cons_append] at whole
            simp [whole]
        · simp at taken
      · simp at taken

theorem faithful_takeCommentMark : Faithful takeCommentMark := by
  intro text body rest taken
  unfold takeCommentMark at taken
  split at taken
  · simp only [Option.some.injEq, Prod.mk.injEq] at taken
    obtain ⟨rfl, rfl⟩ := taken
    simp
  · simp at taken

theorem faithful_takeLineComment : Faithful takeLineComment := by
  intro text body rest taken
  unfold takeLineComment at taken
  split at taken
  · next starts =>
      simp only [Option.some.injEq, Prod.mk.injEq] at taken
      obtain ⟨rfl, rfl⟩ := taken
      refine ⟨List.takeWhile_append_dropWhile, ?_⟩
      unfold startsLineComment at starts
      split at starts <;> simp_all
  · simp at taken

/-- A cut of a text: nothing is lost, and the body is not empty. -/
def Of (cut : Cut) (text : List Char) : Prop :=
  cut.taken ++ cut.rest = text ∧ cut.body ≠ []

theorem of_padded? {take : Take} (faithful : Faithful take) {trailing : Bool} {text : List Char}
    {cut : Cut} (made : padded? take trailing text = some cut) : cut.Of text := by
  unfold padded? at made
  obtain ⟨⟨body, after⟩, taken, built⟩ := Option.map_eq_some_iff.1 made
  obtain ⟨whole, nonempty⟩ := faithful _ _ _ taken
  have blanks : text.takeWhile Text.isBlank ++ (body ++ after) = text := by
    rw [whole, List.takeWhile_append_dropWhile]
  cases trailing with
  | true =>
      simp only [↓reduceIte] at built
      subst built
      refine ⟨?_, nonempty⟩
      simpa [taken, List.append_assoc, Cut.taken] using blanks
  | false =>
      simp only [Bool.false_eq_true, ↓reduceIte] at built
      subst built
      refine ⟨?_, nonempty⟩
      simpa [Cut.taken] using blanks

theorem append_of_keywordTail? {text trail rest : List Char}
    (found : keywordTail? text = some (trail, rest)) : trail ++ rest = text := by
  unfold keywordTail? at found
  split at found
  · simp only [Option.some.injEq, Prod.mk.injEq] at found
    obtain ⟨rfl, rfl⟩ := found
    rfl
  · split at found
    · simp only [Option.some.injEq, Prod.mk.injEq] at found
      obtain ⟨rfl, rfl⟩ := found
      rfl
    · split at found
      · simp only [Option.some.injEq, Prod.mk.injEq] at found
        obtain ⟨rfl, rfl⟩ := found
        simp
      · simp at found

theorem of_keyword? {keywords : KeywordSet} {text : List Char} {cut : Cut}
    (made : keyword? keywords text = some cut) : cut.Of text := by
  unfold keyword? at made
  split at made
  · simp at made
  · next word after taken =>
      obtain ⟨whole, nonempty⟩ := faithful_takeRun _ _ _ _ taken
      split at made
      · simp at made
      · next trail rest found =>
          split at made
          · simp only [Option.some.injEq] at made
            subst made
            refine ⟨?_, nonempty⟩
            have tail := append_of_keywordTail? found
            simp [Cut.taken, List.append_assoc, tail, whole]
          · simp at made

theorem append_of_splitCommentEnd? {text before after : List Char}
    (found : splitCommentEnd? text = some (before, after)) :
    before ++ '*' :: '/' :: after = text := by
  fun_induction splitCommentEnd? text generalizing before after with
  | case1 => simp at found
  | case2 rest =>
      simp only [Option.some.injEq, Prod.mk.injEq] at found
      obtain ⟨rfl, rfl⟩ := found
      rfl
  | case3 => simp at found
  | case4 c rest _ _ ih =>
      obtain ⟨⟨inner, tail⟩, further, built⟩ := Option.map_eq_some_iff.1 found
      simp only [Prod.mk.injEq] at built
      obtain ⟨rfl, rfl⟩ := built
      simp [ih further]

theorem of_commentEnd? {text : List Char} {cut : Cut} (made : commentEnd? text = some cut) :
    cut.Of text := by
  unfold commentEnd? at made
  obtain ⟨⟨before, after⟩, found, built⟩ := Option.map_eq_some_iff.1 made
  subst built
  have whole := append_of_splitCommentEnd? found
  exact ⟨by simpa [taken] using whole, by simp⟩

theorem of_everything? {text : List Char} {cut : Cut} (made : everything? text = some cut) :
    cut.Of text := by
  unfold everything? at made
  split at made
  · simp at made
  · next nonempty =>
      simp only [Option.some.injEq] at made
      subst made
      exact ⟨by simp [taken], nonempty⟩

theorem of_blanks? {text : List Char} {cut : Cut} (made : blanks? text = some cut) :
    cut.Of text := by
  unfold blanks? at made
  obtain ⟨⟨body, rest⟩, run, built⟩ := Option.map_eq_some_iff.1 made
  obtain ⟨whole, nonempty⟩ := faithful_takeRun _ _ _ _ run
  subst built
  exact ⟨by simpa [taken] using whole, nonempty⟩

end Cut

theorem Rule.of_cut? {keywords : KeywordSet} {text : List Char} {rule : Rule} {cut : Cut}
    (made : rule.cut? keywords text = some cut) : cut.Of text := by
  cases rule with
  | commentEnd => exact Cut.of_commentEnd? made
  | commentRest => exact Cut.of_everything? made
  | commentBegin => exact Cut.of_padded? Cut.faithful_takeCommentMark made
  | commentLine => exact Cut.of_padded? Cut.faithful_takeLineComment made
  | comma => exact Cut.of_padded? (Cut.faithful_takeChar _) made
  | bracketLeft => exact Cut.of_padded? (Cut.faithful_takeChar _) made
  | bracketRight => exact Cut.of_padded? (Cut.faithful_takeChar _) made
  | keyword => exact Cut.of_keyword? made
  | quoted => exact Cut.of_padded? Cut.faithful_takeQuoted made
  | operator => exact Cut.of_padded? (Cut.faithful_takeRun _) made
  | identifier => exact Cut.of_padded? (Cut.faithful_takeRun _) made
  | whitespace => exact Cut.of_blanks? made

namespace RuleTable

theorem cut?_of_firstCut? {table : RuleTable} {state : LexState} {text : List Char} {rule : Rule}
    {cut : Cut} (made : table.firstCut? state text = some (rule, cut)) :
    rule ∈ rules state ∧ rule.cut? table.keywords text = some cut := by
  unfold firstCut? at made
  obtain ⟨candidate, listed, applied⟩ := List.exists_of_findSome?_eq_some made
  obtain ⟨found, cutMade, same⟩ := Option.map_eq_some_iff.1 applied
  simp only [Prod.mk.injEq] at same
  obtain ⟨rfl, rfl⟩ := same
  exact ⟨listed, cutMade⟩

theorem of_firstCut? {table : RuleTable} {state : LexState} {text : List Char} {rule : Rule}
    {cut : Cut} (made : table.firstCut? state text = some (rule, cut)) : cut.Of text :=
  Rule.of_cut? (cut?_of_firstCut? made).2

theorem rest_length_lt {table : RuleTable} {state : LexState} {text : List Char} {rule : Rule}
    {cut : Cut} (made : table.firstCut? state text = some (rule, cut)) :
    cut.rest.length < text.length := by
  obtain ⟨whole, nonempty⟩ := of_firstCut? made
  have positive := List.length_pos_iff.2 nonempty
  rw [← whole]
  simp only [Cut.taken, List.length_append]
  omega

end RuleTable

end SqlLint
