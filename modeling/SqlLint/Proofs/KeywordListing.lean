import Mathlib.Data.List.Destutter
import Mathlib.Data.List.Sort
import SqlLint.Keyword.Set
import SqlLint.Proofs.ByteOrder

/-!
# The listing of a keyword set

The listing is made by putting each word into its place in an increasing list.  It has the words of
the set as its members (`mem_listing`), in increasing order and thus each once
(`pairwise_listing`).  No other list is like that, so it is what sorting the words and dropping
repetitions gives (`destutter_mergeSort_eq_listing`), however the words are enumerated.
-/

set_option autoImplicit false

namespace SqlLint

namespace Keyword

variable {word other : String} {words : List String}

theorem mem_insertWord : other ∈ insertWord word words ↔ other = word ∨ other ∈ words := by
  induction words with
  | nil => simp [insertWord]
  | cons first rest ih =>
      rw [insertWord]
      split
      · next same => simp [same]
      · split
        · rw [List.mem_cons]
        · rw [List.mem_cons, List.mem_cons, ih, or_left_comm]

theorem pairwise_insertWord (word : String) (increasing : words.Pairwise (· < ·)) :
    (insertWord word words).Pairwise (· < ·) := by
  induction words with
  | nil => exact List.pairwise_singleton _ word
  | cons first rest ih =>
      obtain ⟨below, others⟩ := List.pairwise_cons.1 increasing
      rw [insertWord]
      split
      · exact increasing
      · next differs =>
          split
          · next less =>
              refine List.pairwise_cons.2 ⟨?_, increasing⟩
              exact List.forall_mem_cons.2 ⟨less, fun later listed => less.trans (below later listed)⟩
          · next notLess =>
              have greater : first < word := lt_of_le_of_ne (not_lt.1 notLess) (Ne.symm differs)
              refine List.pairwise_cons.2 ⟨?_, ih others⟩
              intro later listed
              rcases mem_insertWord.1 listed with rfl | inRest
              · exact greater
              · exact below later inRest

theorem mem_foldr_insertWord : word ∈ words.foldr insertWord [] ↔ word ∈ words := by
  induction words with
  | nil => rfl
  | cons first rest ih => rw [List.foldr_cons, mem_insertWord, ih, List.mem_cons]

theorem pairwise_foldr_insertWord (words : List String) :
    (words.foldr insertWord []).Pairwise (· < ·) := by
  induction words with
  | nil => exact List.Pairwise.nil
  | cons word words ih => exact pairwise_insertWord word ih

end Keyword

namespace KeywordSet

theorem mem_listing {set : KeywordSet} {word : String} :
    word ∈ set.listing ↔ word ∈ Keyword.builtin ∨ word ∈ set.extra := by
  rw [listing, Keyword.mem_foldr_insertWord, List.mem_append]

theorem pairwise_listing (set : KeywordSet) : set.listing.Pairwise (· < ·) :=
  Keyword.pairwise_foldr_insertWord _

theorem contains_iff {set : KeywordSet} {word : String} :
    set.contains word = true ↔ Text.upperAscii word ∈ set.listing := by
  rw [mem_listing, contains, Keyword.isBuiltin, Bool.or_eq_true, List.contains_iff_mem,
    List.contains_iff_mem]

/-- Sorting the words byte by byte and dropping repetitions gives the listing.  The order in which
the words come out of the set, and how often, makes no difference. -/
theorem destutter_mergeSort_eq_listing {set : KeywordSet} {words : List String}
    (enumerated : ∀ word, word ∈ words ↔ word ∈ Keyword.builtin ∨ word ∈ set.extra) :
    (words.mergeSort fun first second => Text.bytes first ≤ Text.bytes second).destutter (· ≠ ·) =
      set.listing := by
  simp only [Text.bytes_le_iff]
  have sorted := List.pairwise_mergeSort' (· ≤ ·) words
  have increasing : (words.mergeSort fun first second => first ≤ second).dedup.Pairwise (· < ·) :=
    (List.nodup_dedup _).imp₂ (fun _ _ differs below => lt_of_le_of_ne below differs)
      (sorted.sublist (List.dedup_sublist _))
  rw [sorted.destutter_eq_dedup]
  apply increasing.eq_of_mem_iff set.pairwise_listing
  intro word
  rw [List.mem_dedup, List.mem_mergeSort, enumerated, mem_listing]

end KeywordSet

/-- A word is found in a keyword set exactly if its upper-case form is in the listing.  The listing
increases byte by byte, so that it names no word twice, and its members are the built-in words and
the upper-case forms of the extra words.  It is what sorting these words and dropping repetitions
gives, whatever the order in which they come. -/
theorem keyword_listing_is_the_set (extra : List String) :
    (∀ word, (KeywordSet.withExtra extra).contains word = true ↔
      Text.upperAscii word ∈ (KeywordSet.withExtra extra).listing) ∧
    (KeywordSet.withExtra extra).listing.Pairwise
      (fun first second => Text.bytes first < Text.bytes second) ∧
    (∀ word, word ∈ (KeywordSet.withExtra extra).listing ↔
      word ∈ Keyword.builtin ∨ word ∈ extra.map Text.upperAscii) ∧
    (∀ words : List String,
      (∀ word, word ∈ words ↔ word ∈ Keyword.builtin ∨ word ∈ extra.map Text.upperAscii) →
      (words.mergeSort fun first second => Text.bytes first ≤ Text.bytes second).destutter
        (· ≠ ·) = (KeywordSet.withExtra extra).listing) := by
  refine ⟨fun _ => KeywordSet.contains_iff, ?_, fun _ => KeywordSet.mem_listing, fun _ =>
    KeywordSet.destutter_mergeSort_eq_listing⟩
  exact (KeywordSet.pairwise_listing _).imp Text.bytes_lt_iff.2

theorem keyword_listing_is_the_set_of_repeated_words :
    let extra := ["éa", "select", "Select"]
    let words := Keyword.builtin.reverse ++ extra.map Text.upperAscii
    (∀ word, word ∈ words ↔ word ∈ Keyword.builtin ∨ word ∈ extra.map Text.upperAscii) ∧
      (words.mergeSort fun first second => Text.bytes first ≤ Text.bytes second).destutter
        (· ≠ ·) = (KeywordSet.withExtra extra).listing := by
  intro extra words
  have enumerated : ∀ word,
      word ∈ words ↔ word ∈ Keyword.builtin ∨ word ∈ extra.map Text.upperAscii := by
    intro word
    rw [List.mem_append, List.mem_reverse]
  exact ⟨enumerated, (keyword_listing_is_the_set extra).2.2.2 words enumerated⟩

end SqlLint
