import SqlLint.Markup.Entity
import SqlLint.Text.Lines

/-!
# Lines and line breaks

A line may be ended by `\n`, by `\r\n` or by `\r`, and one text may use all three.  The three cuts
of `splitLines` find what one pass from left to right finds (`splitLineChars_eq_scanLines`), and
what a cut at the line feeds finds once every break is written as one (`scanLines_eq_splitOn`).  The
lines of a text have no break in them (`unbroken_of_mem_splitLines`), and lines without a break,
joined by a break of any kind, are cut into themselves (`splitLines_intercalate_break`).
-/

set_option autoImplicit false

namespace SqlLint.Text

/-- A text without a line break. -/
def Unbroken (line : List Char) : Prop :=
  ∀ c ∈ line, c ≠ '\n' ∧ c ≠ '\r'

/-- The ways to end a line. -/
def lineBreaks : List String :=
  ["\n", "\r\n", "\r"]

/-- The text with a line feed for every break: first for each `\r\n`, then for each `\r` that is
left. -/
def unifyBreaks (text : List Char) : List Char :=
  Markup.replaceAll ['\r'] '\n' (Markup.replaceAll ['\r', '\n'] '\n' text)

/-- The character is no carriage return that makes one break with a line feed behind it. -/
def StandsAlone (c : Char) (rest : List Char) : Prop :=
  c = '\r' → rest.head? ≠ some '\n'

/-! ## Cuts -/

theorem consLine_ne_nil (c : Char) (lines : List (List Char)) : consLine c lines ≠ [] := by
  cases lines <;> exact List.cons_ne_nil _ _

theorem consLine_eq_modifyHead (c : Char) {lines : List (List Char)} (nonempty : lines ≠ []) :
    consLine c lines = lines.modifyHead (List.cons c) := by
  cases lines with
  | nil => contradiction
  | cons line lines => rfl

theorem cutAt_eq_splitOn (separator : Char) (text : List Char) :
    cutAt separator text = text.splitOn separator := by
  induction text with
  | nil => rw [cutAt, List.splitOn_nil]
  | cons c rest ih =>
      rw [cutAt, ih, List.splitOn_cons_eq_if_modifyHead,
        consLine_eq_modifyHead c (List.splitOn_ne_nil separator rest)]
      simp only [beq_iff_eq]

theorem cutAt_ne_nil (separator : Char) (text : List Char) : cutAt separator text ≠ [] := by
  rw [cutAt_eq_splitOn]
  exact List.splitOn_ne_nil separator text

theorem cutAtReturnFeed_ne_nil (text : List Char) : cutAtReturnFeed text ≠ [] := by
  fun_cases cutAtReturnFeed text
  · exact List.cons_ne_nil _ _
  · exact List.cons_ne_nil _ _
  · exact consLine_ne_nil _ _

variable {c : Char} {line rest : List Char} {lines : List (List Char)}

theorem StandsAlone.of_ne (noReturn : c ≠ '\r') (rest : List Char) : StandsAlone c rest :=
  fun isReturn => absurd isReturn noReturn

theorem StandsAlone.of_forall_ne (noFeed : ∀ others, rest = '\n' :: others → False) :
    StandsAlone c rest := by
  intro _ first
  obtain ⟨others, same⟩ := List.head?_eq_some_iff.1 first
  exact noFeed others same

/-! ## One pass -/

theorem flatMap_cutAt_consLine (separator c : Char) (nonempty : lines ≠ []) :
    (consLine c lines).flatMap (cutAt separator) =
      if c = separator then [] :: lines.flatMap (cutAt separator)
      else consLine c (lines.flatMap (cutAt separator)) := by
  obtain ⟨line, others, rfl⟩ := List.exists_cons_of_ne_nil nonempty
  rw [consLine, List.flatMap_cons, List.flatMap_cons, cutAt]
  split
  · rfl
  · obtain ⟨piece, pieces, cut⟩ := List.exists_cons_of_ne_nil (cutAt_ne_nil separator line)
    rw [cut]
    rfl

theorem flatMap_cutAt_ne_nil (separator : Char) (nonempty : lines ≠ []) :
    lines.flatMap (cutAt separator) ≠ [] := by
  obtain ⟨line, others, rfl⟩ := List.exists_cons_of_ne_nil nonempty
  simp [cutAt_ne_nil]

theorem cutAtReturnFeed_cons (alone : StandsAlone c rest) :
    cutAtReturnFeed (c :: rest) = consLine c (cutAtReturnFeed rest) := by
  rw [cutAtReturnFeed]
  rintro others rfl rfl
  exact alone rfl rfl

/-- The three cuts, by the first character: a break starts a line, and anything else belongs to
the first one. -/
theorem splitLineChars_cons (alone : StandsAlone c rest) :
    splitLineChars (c :: rest) =
      if c = '\n' ∨ c = '\r' then [] :: splitLineChars rest
      else consLine c (splitLineChars rest) := by
  have whole := cutAtReturnFeed_ne_nil rest
  rw [splitLineChars, cutAtReturnFeed_cons alone, flatMap_cutAt_consLine _ _ whole]
  by_cases feed : c = '\n'
  · rw [if_pos feed, if_pos (Or.inl feed)]
    rfl
  · rw [if_neg feed, flatMap_cutAt_consLine _ _ (flatMap_cutAt_ne_nil _ whole)]
    simp only [feed, false_or]
    rfl

theorem splitLineChars_eq_scanLines (text : List Char) :
    splitLineChars text = scanLines text := by
  fun_induction scanLines text with
  | case1 => rfl
  | case2 rest ih =>
      -- The first cut takes both characters, so that the others find neither.
      rw [← ih]
      rfl
  | case3 rest noFeed ih =>
      rw [splitLineChars_cons (.of_forall_ne noFeed), if_pos (Or.inr rfl), ih]
  | case4 rest ih =>
      rw [splitLineChars_cons (.of_ne (by decide) rest), if_pos (Or.inl rfl), ih]
  | case5 c rest noPair noReturn noFeed ih =>
      rw [splitLineChars_cons (.of_ne noReturn rest), if_neg (not_or.2 ⟨noFeed, noReturn⟩), ih]

theorem unbroken_of_mem_consLine (noFeed : c ≠ '\n') (noReturn : c ≠ '\r')
    (unbroken : ∀ line ∈ lines, Unbroken line) : ∀ line ∈ consLine c lines, Unbroken line := by
  cases lines with
  | nil =>
      intro line listed
      rw [consLine, List.mem_singleton] at listed
      rw [listed]
      exact List.forall_mem_singleton.2 ⟨noFeed, noReturn⟩
  | cons first others =>
      obtain ⟨here, later⟩ := List.forall_mem_cons.1 unbroken
      exact List.forall_mem_cons.2 ⟨List.forall_mem_cons.2 ⟨⟨noFeed, noReturn⟩, here⟩, later⟩

theorem unbroken_of_mem_scanLines (text : List Char) : ∀ line ∈ scanLines text, Unbroken line := by
  have empty : Unbroken [] := List.forall_mem_nil _
  fun_induction scanLines text with
  | case1 => exact List.forall_mem_singleton.2 empty
  | case2 rest ih => exact List.forall_mem_cons.2 ⟨empty, ih⟩
  | case3 rest noFeed ih => exact List.forall_mem_cons.2 ⟨empty, ih⟩
  | case4 rest ih => exact List.forall_mem_cons.2 ⟨empty, ih⟩
  | case5 c rest noPair noReturn noFeed ih => exact unbroken_of_mem_consLine noFeed noReturn ih

theorem unbroken_of_mem_splitLines {text line : String} (listed : line ∈ splitLines text) :
    Unbroken line.toList := by
  obtain ⟨chars, inLines, rfl⟩ := List.mem_map.1 listed
  rw [splitLineChars_eq_scanLines] at inLines
  rw [String.toList_ofList]
  exact unbroken_of_mem_scanLines _ chars inLines

/-! ## One convention -/

theorem unifyBreaks_nil : unifyBreaks [] = [] := by
  simp [unifyBreaks, Markup.replaceAll]

theorem unifyBreaks_returnFeed (rest : List Char) :
    unifyBreaks ('\r' :: '\n' :: rest) = '\n' :: unifyBreaks rest := by
  simp [unifyBreaks, Markup.replaceAll, List.isPrefixOf]

theorem unifyBreaks_cons (alone : StandsAlone c rest) :
    unifyBreaks (c :: rest) = (if c = '\r' then '\n' else c) :: unifyBreaks rest := by
  have noPair : ¬ ['\r', '\n'].isPrefixOf (c :: rest) = true := by
    rw [List.isPrefixOf_iff_prefix]
    rintro ⟨others, whole⟩
    obtain ⟨rfl, rfl⟩ := List.cons.inj whole
    exact alone rfl rfl
  rw [unifyBreaks, Markup.replaceAll, if_neg noPair, Markup.replaceAll]
  by_cases isReturn : c = '\r'
  · subst isReturn
    simp [List.isPrefixOf, unifyBreaks]
  · simp [List.isPrefixOf, Ne.symm isReturn, isReturn, unifyBreaks]

theorem scanLines_eq_splitOn (text : List Char) :
    scanLines text = (unifyBreaks text).splitOn '\n' := by
  rw [← cutAt_eq_splitOn]
  fun_induction scanLines text with
  | case1 => rw [unifyBreaks_nil, cutAt]
  | case2 rest ih => rw [unifyBreaks_returnFeed, cutAt, if_pos rfl, ih]
  | case3 rest noFeed ih =>
      rw [unifyBreaks_cons (.of_forall_ne noFeed), if_pos rfl, cutAt, if_pos rfl, ih]
  | case4 rest ih =>
      rw [unifyBreaks_cons (.of_ne (by decide) rest), if_neg (by decide), cutAt, if_pos rfl, ih]
  | case5 c rest noPair noReturn noFeed ih =>
      rw [unifyBreaks_cons (.of_ne noReturn rest), if_neg noReturn, cutAt, if_neg noFeed, ih]

theorem splitLines_eq_splitOn (text : String) :
    splitLines text = ((unifyBreaks text.toList).splitOn '\n').map String.ofList := by
  rw [splitLines, splitLineChars_eq_scanLines, scanLines_eq_splitOn]

theorem splitLines_ne_nil (text : String) : splitLines text ≠ [] := by
  rw [splitLines_eq_splitOn]
  exact mt List.map_eq_nil_iff.1 (List.splitOn_ne_nil '\n' _)

/-- A line without a break is left as it is. -/
theorem unifyBreaks_append (unbroken : Unbroken line) (rest : List Char) :
    unifyBreaks (line ++ rest) = line ++ unifyBreaks rest := by
  induction line with
  | nil => rfl
  | cons c line ih =>
      obtain ⟨⟨_, noReturn⟩, others⟩ := List.forall_mem_cons.1 unbroken
      rw [List.cons_append, unifyBreaks_cons (.of_ne noReturn _), if_neg noReturn, ih others,
        List.cons_append]

/-- A break becomes a line feed, unless it is a carriage return in front of one. -/
theorem unifyBreaks_break {separator : String} (listed : separator ∈ lineBreaks)
    (alone : separator = "\r" → rest.head? ≠ some '\n') :
    unifyBreaks (separator.toList ++ rest) = '\n' :: unifyBreaks rest := by
  simp only [lineBreaks, List.mem_cons, List.not_mem_nil, or_false] at listed
  rcases listed with rfl | rfl | rfl
  · exact unifyBreaks_cons (.of_ne (by decide) rest)
  · exact unifyBreaks_returnFeed rest
  · exact unifyBreaks_cons fun _ => alone rfl

theorem mem_of_mem_intercalate {separator c : Char} {lines : List (List Char)}
    (member : c ∈ [separator].intercalate lines) :
    c = separator ∨ ∃ line ∈ lines, c ∈ line := by
  induction lines with
  | nil => simp at member
  | cons line lines ih =>
      cases lines with
      | nil =>
          rw [List.intercalate_singleton] at member
          exact Or.inr ⟨line, List.mem_cons_self, member⟩
      | cons next others =>
          rw [List.intercalate_cons_cons, List.mem_append, List.mem_append,
            List.mem_singleton] at member
          rcases member with (inLine | isSeparator) | later
          · exact Or.inr ⟨line, List.mem_cons_self, inLine⟩
          · exact Or.inl isSeparator
          · rcases ih later with isSeparator | ⟨other, listed, inOther⟩
            · exact Or.inl isSeparator
            · exact Or.inr ⟨other, List.mem_cons_of_mem line listed, inOther⟩

/-- In a text of lines that are ended by carriage returns, no line feed follows one of them. -/
theorem head?_intercalate_return (unbroken : ∀ line ∈ lines, Unbroken line) :
    (['\r'].intercalate lines).head? ≠ some '\n' := by
  intro first
  rcases mem_of_mem_intercalate (List.mem_of_head? first) with same | ⟨line, listed, member⟩
  · exact absurd same (by decide)
  · exact (unbroken line listed '\n' member).1 rfl

/-- The convention by which lines are joined is lost when their breaks are unified. -/
theorem unifyBreaks_intercalate {separator : String} (listed : separator ∈ lineBreaks)
    (unbroken : ∀ line ∈ lines, Unbroken line) :
    unifyBreaks (separator.toList.intercalate lines) = ['\n'].intercalate lines := by
  induction lines with
  | nil => exact unifyBreaks_nil
  | cons line lines ih =>
      obtain ⟨here, later⟩ := List.forall_mem_cons.1 unbroken
      cases lines with
      | nil =>
          have alone := unifyBreaks_append here []
          rw [unifyBreaks_nil, List.append_nil] at alone
          rw [List.intercalate_singleton, List.intercalate_singleton, alone]
      | cons next others =>
          have noFeed : separator = "\r" →
              (separator.toList.intercalate (next :: others)).head? ≠ some '\n' := by
            rintro rfl
            exact head?_intercalate_return later
          rw [List.intercalate_cons_cons, List.intercalate_cons_cons, List.append_assoc,
            List.append_assoc, unifyBreaks_append here, unifyBreaks_break listed noFeed, ih later]
          rfl

theorem splitLines_intercalate_break {separator : String} (listed : separator ∈ lineBreaks)
    {lines : List String} (nonempty : lines ≠ [])
    (unbroken : ∀ line ∈ lines, Unbroken line.toList) :
    splitLines (separator.intercalate lines) = lines := by
  have chars : ∀ line ∈ lines.map String.toList, Unbroken line := List.forall_mem_map.2 unbroken
  have noFeed : ∀ line ∈ lines.map String.toList, '\n' ∉ line :=
    fun line inLines member => (chars line inLines '\n' member).1 rfl
  rw [splitLines_eq_splitOn, String.toList_intercalate, unifyBreaks_intercalate listed chars,
    List.splitOn_intercalate '\n' noFeed (mt List.map_eq_nil_iff.1 nonempty), List.map_map]
  simp [Function.comp_def]

theorem splitLines_intercalate {lines : List String} (nonempty : lines ≠ [])
    (unbroken : ∀ line ∈ lines, Unbroken line.toList) :
    splitLines ("\n".intercalate lines) = lines :=
  splitLines_intercalate_break (by decide) nonempty unbroken

theorem splitLines_eq_iff {first second : String} :
    splitLines first = splitLines second ↔
      unifyBreaks first.toList = unifyBreaks second.toList := by
  rw [splitLines_eq_splitOn, splitLines_eq_splitOn,
    List.map_inj_right fun _ _ same => String.ofList_injective same]
  constructor
  · intro same
    have joined := congrArg (['\n'].intercalate ·) same
    rwa [List.intercalate_splitOn, List.intercalate_splitOn] at joined
  · intro same
    rw [same]

end SqlLint.Text
