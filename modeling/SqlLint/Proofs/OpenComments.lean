import SqlLint.Proofs.Lossless

/-!
# Lines that start inside a block comment

Such a line is cut at the first closing mark, unless a line break stands before it
(`Cut.splitCommentEnd?_eq_some_iff`).  What follows the mark is lexed as a line of its own: comments
are not significant, so that the rules expect a column there as at the start of a line.  A line that
does not close the comment is a comment as a whole.
-/

set_option autoImplicit false

namespace SqlLint

/-- The first closing mark of a block comment stands in the line between `front` and `back`, and no
line break stands before it. -/
structure Text.ClosesComment (line front back : String) : Prop where
  split : front ++ "*/" ++ back = line
  first : ∀ earlier later : String, earlier ++ "*/" ++ later = line →
    front.length ≤ earlier.length
  oneLine : '\n' ∉ front.toList

/-- A remainder in a line that has some bytes in front. -/
def Unlexed.shift (bytes : Nat) (unlexed : Unlexed) : Unlexed :=
  { unlexed with offset := unlexed.offset + bytes }

/-- The comment that says a text; there is none if it says nothing. -/
def Token.commentOf (text : String) : List Token :=
  if text = "" then [] else [⟨.comment, text⟩]

/-! ## The first closing mark -/

namespace Cut

/-- What is cut off at a closing mark has no closing mark further in front and no line break. -/
theorem first_of_splitCommentEnd? {text before after : List Char}
    (found : splitCommentEnd? text = some (before, after)) :
    (∀ earlier later, earlier ++ '*' :: '/' :: later = text → before.length ≤ earlier.length) ∧
      '\n' ∉ before := by
  fun_induction splitCommentEnd? text generalizing before with
  | case1 => contradiction
  | case2 rest =>
      cases found
      exact ⟨fun _ _ _ => Nat.zero_le _, List.not_mem_nil⟩
  | case3 => contradiction
  | case4 c rest noMark noFeed ih =>
      obtain ⟨_, further, built⟩ := Option.map_eq_some_iff.1 found
      cases built
      obtain ⟨first, oneLine⟩ := ih further
      refine ⟨?_, List.not_mem_cons_of_ne_of_not_mem (Ne.symm noFeed) oneLine⟩
      intro earlier later whole
      cases earlier with
      | nil =>
          obtain ⟨star, mark⟩ := List.cons.inj whole
          exact (noMark later star.symm mark.symm).elim
      | cons d earlier =>
          obtain ⟨_, whole⟩ := List.cons.inj whole
          exact Nat.succ_le_succ (first earlier later whole)

theorem splitCommentEnd?_of_first {before after : List Char}
    (first : ∀ earlier later, earlier ++ '*' :: '/' :: later = before ++ '*' :: '/' :: after →
      before.length ≤ earlier.length) (oneLine : '\n' ∉ before) :
    splitCommentEnd? (before ++ '*' :: '/' :: after) = some (before, after) := by
  induction before with
  | nil => rfl
  | cons c before ih =>
      have noMark : ¬ (c = '*' ∧ (before ++ '*' :: '/' :: after).head? = some '/') := by
        rintro ⟨rfl, slash⟩
        obtain ⟨others, same⟩ := List.head?_eq_some_iff.1 slash
        have atStart := first [] others (by rw [List.cons_append, same]; rfl)
        exact Nat.not_succ_le_zero _ atStart
      rw [List.mem_cons, not_or] at oneLine
      obtain ⟨noFeed, oneLine⟩ := oneLine
      have later := ih (fun earlier later whole =>
        Nat.le_of_succ_le_succ (first (c :: earlier) later (congrArg (c :: ·) whole))) oneLine
      rw [List.cons_append, splitCommentEnd?_cons, if_neg noMark, if_neg (Ne.symm noFeed), later]
      rfl

end Cut

theorem Text.closesComment_iff {line front back : String} :
    ClosesComment line front back ↔
      Cut.splitCommentEnd? line.toList = some (front.toList, back.toList) := by
  have chars : ∀ earlier later : String, earlier ++ "*/" ++ later = line ↔
      earlier.toList ++ '*' :: '/' :: later.toList = line.toList := by
    intro earlier later
    rw [← String.toList_inj, String.toList_append, String.toList_append, List.append_assoc]
    rfl
  constructor
  · intro closes
    have split := (chars front back).1 closes.split
    rw [← split]
    refine Cut.splitCommentEnd?_of_first (fun earlier later whole => ?_) closes.oneLine
    have same : String.ofList earlier ++ "*/" ++ String.ofList later = line := by
      rw [chars, String.toList_ofList, String.toList_ofList, whole, split]
    have first := closes.first _ _ same
    rwa [← String.length_toList, ← String.length_toList, String.toList_ofList] at first
  · intro found
    obtain ⟨first, oneLine⟩ := Cut.first_of_splitCommentEnd? found
    refine ⟨(chars front back).2 (Cut.append_of_splitCommentEnd? found), ?_, oneLine⟩
    intro earlier later whole
    rw [← String.length_toList, ← String.length_toList]
    exact first _ _ ((chars earlier later).1 whole)

/-! ## The line behind the mark -/

theorem Token.span?_comment (text : String) :
    (span? .comment text.toList).toList = commentOf text := by
  by_cases empty : text = ""
  · subst empty
    rfl
  · have nonempty : text.toList.isEmpty = false := by
      rw [List.isEmpty_eq_false_iff, ne_eq, String.toList_eq_nil_iff]
      exact empty
    rw [span?, nonempty, commentOf, if_neg empty, String.ofList_toList]
    rfl

theorem Unlexed.ofRest?_append (front : String) {back : String} {rest : List Char}
    (suffix : rest <:+ back.toList) :
    ofRest? (front ++ back) rest = (ofRest? back rest).map (·.shift front.utf8ByteSize) := by
  obtain ⟨before, whole⟩ := suffix
  have parts : String.ofList before ++ String.ofList rest = back := by
    rw [← String.toList_inj]
    simp [whole]
  have bytes := congrArg String.utf8ByteSize parts
  rw [String.utf8ByteSize_append] at bytes
  rw [ofRest?, ofRest?]
  split
  · rfl
  · simp only [Option.map_some, shift, String.utf8ByteSize_append, Option.some.injEq, mk.injEq,
      and_true]
    omega

namespace RuleTable

/-- Behind the closing mark the line goes on as if it started there. -/
theorem lexLine_of_closesComment (table : RuleTable) (inSelectList : Bool)
    {line front back : String} (closes : Text.ClosesComment line front back) :
    table.lexLine { inComment := true, inSelectList } line =
      { tokens := Token.commentOf front ++
          ⟨.comment, "*/"⟩ :: (table.lexLine { inSelectList } back).tokens
        entryState := { inComment := true, inSelectList }
        exitState := (table.lexLine { inSelectList } back).exitState
        unlexed := (table.lexLine { inSelectList } back).unlexed.map
          (·.shift (front.utf8ByteSize + 2)) } := by
  have found := Text.closesComment_iff.1 closes
  -- The comment leaves no significant token, so that the rest is read as from the line's start.
  have later := table.reads_scan none { inSelectList } back.toList
  have whole : Reads table none { inComment := true, inSelectList } line.toList _ _ _ :=
    Reads.closedComment rfl found later
  obtain ⟨tokens, final, rest⟩ := scan_of_reads whole
  have suffix : (table.scan none { inSelectList } back.toList).rest <:+ back.toList :=
    ⟨_, later.append_rest⟩
  have remainder := Unlexed.ofRest?_append (front ++ "*/") suffix
  rw [closes.split, String.utf8ByteSize_append] at remainder
  rw [lexLine, tokens, final, rest, remainder, Token.span?_comment]
  rfl

/-- A line that does not close the comment is one comment, and the next line starts inside it. -/
theorem lexLine_of_openComment (table : RuleTable) (inSelectList : Bool) {line : String}
    (stays : Cut.splitCommentEnd? line.toList = none) :
    table.lexLine { inComment := true, inSelectList } line =
      { tokens := Token.commentOf line
        entryState := { inComment := true, inSelectList }
        exitState := { inComment := true, inSelectList }
        unlexed := none } := by
  have whole : Reads table none { inComment := true, inSelectList } line.toList
      (Token.commentOf line) { inComment := true, inSelectList } [] := by
    rw [← Token.span?_comment]
    cases chars : line.toList with
    | nil => exact .nil _ _ _
    | cons c others =>
        rw [chars] at stays
        exact .openComment rfl stays (.nil _ _ _)
  obtain ⟨tokens, final, rest⟩ := scan_of_reads whole
  rw [lexLine, tokens, final, rest]
  rfl

end RuleTable

/-- Under any settings, a line that is entered inside a block comment is cut at the first closing
mark, if no line break stands before it: the text in front is a comment, the mark is another, and
what follows is lexed as a line that is entered outside.  Any other line is one comment. -/
theorem open_comments_split_lines (settings : LexerSettings) (inSelectList : Bool)
    (line : String) :
    (∀ front back : String, Text.ClosesComment line front back →
      (RuleTable.ofSettings settings).lexLine { inComment := true, inSelectList } line =
        { tokens := Token.commentOf front ++ ⟨.comment, "*/"⟩ ::
            ((RuleTable.ofSettings settings).lexLine { inSelectList } back).tokens
          entryState := { inComment := true, inSelectList }
          exitState := ((RuleTable.ofSettings settings).lexLine { inSelectList } back).exitState
          unlexed := ((RuleTable.ofSettings settings).lexLine { inSelectList } back).unlexed.map
            (·.shift (front.utf8ByteSize + 2)) }) ∧
    ((∀ front back : String, ¬ Text.ClosesComment line front back) →
      (RuleTable.ofSettings settings).lexLine { inComment := true, inSelectList } line =
        { tokens := Token.commentOf line
          entryState := { inComment := true, inSelectList }
          exitState := { inComment := true, inSelectList }
          unlexed := none }) := by
  constructor
  · intro front back closes
    exact RuleTable.lexLine_of_closesComment _ inSelectList closes
  · intro noEnd
    apply RuleTable.lexLine_of_openComment
    cases found : Cut.splitCommentEnd? line.toList with
    | none => rfl
    | some pieces =>
        obtain ⟨before, after⟩ := pieces
        have closes : Text.ClosesComment line (String.ofList before) (String.ofList after) := by
          rw [Text.closesComment_iff, found, String.toList_ofList, String.toList_ofList]
        exact absurd closes (noEnd _ _)

theorem open_comments_split_lines_before_asterisk :
    Text.ClosesComment "/*/ **\x7b" "/" " **\x7b" ∧
      (RuleTable.ofSettings { starExpansion := .selectTarget }).lexLine
          { inComment := true, inSelectList := true } "/*/ **\x7b" =
        { tokens := [⟨.comment, "/"⟩, ⟨.comment, "*/"⟩, ⟨.whitespace, " "⟩, ⟨.operator, "**"⟩]
          entryState := { inComment := true, inSelectList := true }
          exitState := { inSelectList := true }
          unlexed := some ⟨6, "\x7b"⟩ } := by
  have closes : Text.ClosesComment "/*/ **\x7b" "/" " **\x7b" :=
    Text.closesComment_iff.2 (by decide)
  have split := (open_comments_split_lines { starExpansion := .selectTarget } true
    "/*/ **\x7b").1 _ _ closes
  refine ⟨closes, split.trans ?_⟩
  decide +kernel

end SqlLint
