import SqlLint.Proofs.Extraction
import SqlLint.Proofs.LineBreaks

/-!
# What an extracted text is made of

Reading only takes from the front of the markup: what is left, when the reading halts, is a suffix
of it (`restAt_of_halt`).  The characters of the text are characters of the markup or signs that
an entity stands for, so that a line of markup gives a line of text (`unbroken_extractLine`).
-/

set_option autoImplicit false

namespace SqlLint

/-- What follows the first `offset` bytes of a text, if anything does. -/
structure Text.RestAt (text : String) (offset : Nat) (rest : String) : Prop where
  nonempty : rest ≠ ""
  behind_offset : ∃ front : String, front ++ rest = text ∧ front.utf8ByteSize = offset

theorem Text.restAt_of_append {front rest text : String} (whole : front ++ rest = text)
    (nonempty : rest ≠ "") : RestAt text (text.utf8ByteSize - rest.utf8ByteSize) rest := by
  refine ⟨nonempty, front, whole, ?_⟩
  rw [← whole, String.utf8ByteSize_append]
  omega

namespace Markup

/-- The signs that entities stand for. -/
def signs : List Char :=
  ['&', '<', '>']

/-- The characters of `image` are among those of `text`, except for decoded signs. -/
def DrawnFrom (text image : List Char) : Prop :=
  ∀ c ∈ image, c ∈ text ∨ c ∈ signs

/-- A reader that leaves a suffix and takes the characters of its item from the text. -/
def Draws (reader : List Char → Option (Item × List Char)) : Prop :=
  ∀ text item rest, reader text = some (item, rest) → rest <:+ text ∧ DrawnFrom text item.literal

theorem DrawnFrom.of_subset {text image : List Char} (inside : image ⊆ text) :
    DrawnFrom text image :=
  fun _ listed => Or.inl (inside listed)

theorem DrawnFrom.of_signs {image : List Char} (decoded : image ⊆ signs) (text : List Char) :
    DrawnFrom text image :=
  fun _ listed => Or.inr (decoded listed)

theorem DrawnFrom.trans {text middle image : List Char} (outer : DrawnFrom text middle)
    (inner : DrawnFrom middle image) : DrawnFrom text image := by
  intro c listed
  rcases inner c listed with inMiddle | decoded
  · exact outer c inMiddle
  · exact Or.inr decoded

theorem drawnFrom_replaceAll (name : List Char) {image : Char} (sign : image ∈ signs)
    (text : List Char) : DrawnFrom text (replaceAll name image text) := by
  fun_induction replaceAll name image text with
  | case1 => exact .of_subset (List.Subset.refl [])
  | case2 c rest found ih =>
      intro d listed
      rcases List.mem_cons.1 listed with rfl | later
      · exact Or.inr sign
      · exact (ih d later).imp_left fun inRest => List.mem_cons_of_mem c (List.mem_of_mem_drop inRest)
  | case3 c rest other ih =>
      intro d listed
      rcases List.mem_cons.1 listed with rfl | later
      · exact Or.inl List.mem_cons_self
      · exact (ih d later).imp_left (List.mem_cons_of_mem c)

theorem drawnFrom_decodeChars (text : List Char) : DrawnFrom text (decodeChars text) :=
  ((drawnFrom_replaceAll lessEntity (by decide) text).trans
    (drawnFrom_replaceAll greaterEntity (by decide) _)).trans
      (drawnFrom_replaceAll ampersandEntity (by decide) _)

/-! ## Readers -/

theorem suffix_of_after? {front text rest : List Char}
    (follows : Text.after? front text = some rest) : rest <:+ text :=
  ⟨front, Text.after?_eq_some_iff.1 follows⟩

theorem draws_readRun? (member : Char → Bool) {item : List Char → Item}
    (literal_item : ∀ run, (item run).literal = run) : Draws (readRun? member item) := by
  intro text found rest read
  rw [readRun?] at read
  split at read
  · contradiction
  · cases read
    rw [literal_item]
    exact ⟨List.dropWhile_suffix member, .of_subset (List.takeWhile_prefix member).subset⟩

theorem draws_readEntity? (entity : List Char) {item : Item} (decoded : item.literal ⊆ signs) :
    Draws (readEntity? entity item) := by
  intro text found rest read
  obtain ⟨after, follows, same⟩ := Option.map_eq_some_iff.1 read
  cases same
  exact ⟨suffix_of_after? follows, .of_signs decoded text⟩

theorem draws_readWrapped? : Draws readWrapped? := by
  intro text item rest read
  obtain ⟨⟨className, content, after⟩, wrapper, same⟩ := Option.map_eq_some_iff.1 read
  cases same
  obtain ⟨attributes, _, _, _, rfl⟩ := written_of_readWrapper? wrapper
  constructor
  · exact ((List.suffix_append _ _).trans (List.suffix_append _ _)).trans
      ((List.suffix_append _ _).trans (List.suffix_append _ _))
  · have written : DrawnFrom (wrapperOpening ++ (wrapperHead className attributes ++
        (content ++ (wrapperClosing ++ rest)))) content := by
      apply DrawnFrom.of_subset
      intro c listed
      simp [listed]
    exact written.trans (drawnFrom_decodeChars _)

theorem draws_readItem? : Draws readItem? := by
  intro text item rest read
  obtain ⟨reader, listed, found⟩ := List.exists_of_findSome?_eq_some read
  simp only [readers, List.mem_cons, List.not_mem_nil, or_false] at listed
  rcases listed with rfl | rfl | rfl | rfl | rfl | rfl | rfl | rfl
  · exact draws_readRun? _ (fun _ => rfl) _ _ _ found
  · exact draws_readEntity? _ (by decide) _ _ _ found
  · exact draws_readEntity? _ (by decide) _ _ _ found
  · exact draws_readEntity? _ (by decide) _ _ _ found
  · exact draws_readWrapped? _ _ _ found
  · exact draws_readEntity? _ (by decide) _ _ _ found
  · exact draws_readRun? _ (fun _ => rfl) _ _ _ found
  · exact draws_readEntity? _ (by decide) _ _ _ found

/-! ## Lines -/

theorem draws_readItems (text : List Char) :
    (readItems text).2 <:+ text ∧ DrawnFrom text ((readItems text).1.flatMap Item.literal) := by
  fun_induction readItems text with
  | case1 text refused => exact ⟨List.suffix_refl text, .of_subset (List.nil_subset text)⟩
  | case2 text item rest read items remainder later ih =>
      rw [later] at ih
      obtain ⟨suffix, drawn⟩ := draws_readItem? _ _ _ read
      obtain ⟨laterSuffix, laterDrawn⟩ := ih
      refine ⟨laterSuffix.trans suffix, ?_⟩
      intro c listed
      rw [List.flatMap_cons, List.mem_append] at listed
      rcases listed with inItem | inLater
      · exact drawn c inItem
      · exact (laterDrawn c inLater).imp_left fun inRest => suffix.subset inRest

/-- A halt names what follows its offset in the markup. -/
theorem restAt_of_halt {markup : String} {halt : Halt}
    (halted : (extractLine markup).halt = some halt) :
    Text.RestAt markup halt.offset halt.remainder := by
  obtain ⟨⟨front, whole⟩, _⟩ := draws_readItems markup.toList
  have made : Halt.ofRemainder? markup (readItems markup.toList).2 = some halt := halted
  rw [Halt.ofRemainder?] at made
  split at made
  · contradiction
  · next nonempty =>
      cases made
      have written : String.ofList front ++ String.ofList (readItems markup.toList).2 = markup := by
        rw [← String.ofList_append, whole, String.ofList_toList]
      apply Text.restAt_of_append written
      rw [ne_eq, String.ofList_eq_empty_iff, ← List.isEmpty_iff]
      exact nonempty

theorem unbroken_extractLine {markup : String} (unbroken : Text.Unbroken markup.toList) :
    Text.Unbroken (extractLine markup).text.toList := by
  have noBreak : ∀ sign ∈ signs, sign ≠ '\n' ∧ sign ≠ '\r' := by simp [signs]
  intro c listed
  rw [extractLine, String.toList_ofList] at listed
  rcases (draws_readItems markup.toList).2 c listed with inMarkup | sign
  · exact unbroken c inMarkup
  · exact noBreak c sign

end Markup

end SqlLint
