import SqlLint.Proofs.ItemBoundaries
import SqlLint.Proofs.MarkupRoundTrip

/-!
# Two ways to decode entities

Bare text is decoded item by item from left to right, and the content of a wrapper by three
replacements one after the other.  A replacement makes no new entity: what stands behind an
ampersand has the name of an entity afterwards only if it had it before, because a replaced entity
leaves an angle bracket, which is in no name (`prefix_replaceAll_iff`).  Both ways are therefore one
pass, `decodeOnce`: the replacements on every text (`decodeChars_eq_decodeOnce`), and the reading of
items on texts without tags and fillers (`Extracts.decodeOnce`).
-/

set_option autoImplicit false

namespace SqlLint.Markup

/-- Decodes the entities of a text from left to right. -/
def decodeOnce : List Char → List Char
  | [] => []
  | '&' :: 'l' :: 't' :: ';' :: rest => '<' :: decodeOnce rest
  | '&' :: 'g' :: 't' :: ';' :: rest => '>' :: decodeOnce rest
  | '&' :: 'a' :: 'm' :: 'p' :: ';' :: rest => '&' :: decodeOnce rest
  | c :: rest => c :: decodeOnce rest

/-! ## Replacements -/

/-- A replacement neither makes nor breaks a word at the front of a text, if the word has no
ampersand and is without the image. -/
theorem prefix_replaceAll_iff (name : List Char) {image : Char} {word : List Char}
    (noAmpersand : '&' ∉ word) (noImage : image ∉ word) (text : List Char) :
    word <+: replaceAll ('&' :: name) image text ↔ word <+: text := by
  induction word generalizing text with
  | nil => simp
  | cons d word ih =>
      obtain ⟨notFirst, notLater⟩ := not_or.1 (mt List.mem_cons.2 noAmpersand)
      obtain ⟨otherFirst, otherLater⟩ := not_or.1 (mt List.mem_cons.2 noImage)
      cases text with
      | nil => rw [replaceAll]
      | cons c rest =>
          rw [replaceAll]
          split
          · next found =>
              -- The image stands where an ampersand stood, and the word starts with neither.
              have ampersand : '&' = c :=
                (List.cons_prefix_cons.1 (List.isPrefixOf_iff_prefix.1 found)).1
              subst ampersand
              rw [List.cons_prefix_cons, List.cons_prefix_cons]
              exact iff_of_false (fun same => otherFirst same.1.symm)
                (fun same => notFirst same.1.symm)
          · rw [List.cons_prefix_cons, List.cons_prefix_cons, ih notLater otherLater]

theorem replaceAll_cons_of_not_starting {name rest : List Char} (other : ¬ name <+: rest)
    (image : Char) :
    replaceAll ('&' :: name) image ('&' :: rest) = '&' :: replaceAll ('&' :: name) image rest := by
  rw [replaceAll, if_neg]
  simp [other]

theorem entities_eq :
    lessEntity = '&' :: "lt;".toList ∧ greaterEntity = '&' :: "gt;".toList ∧
      ampersandEntity = '&' :: "amp;".toList :=
  ⟨rfl, rfl, rfl⟩

theorem decodeChars_cons_of_ne {c : Char} (noAmpersand : c ≠ '&') (rest : List Char) :
    decodeChars (c :: rest) = c :: decodeChars rest := by
  obtain ⟨less, greater, ampersand⟩ := entities_eq
  simp only [decodeChars, less, greater, ampersand, replaceAll_cons_of_ne noAmpersand]

/-- An ampersand that starts no entity stays, since it starts none after a replacement. -/
theorem decodeChars_ampersand {rest : List Char} (noLess : ¬ "lt;".toList <+: rest)
    (noGreater : ¬ "gt;".toList <+: rest) (noEntity : ¬ "amp;".toList <+: rest) :
    decodeChars ('&' :: rest) = '&' :: decodeChars rest := by
  obtain ⟨less, greater, ampersand⟩ := entities_eq
  have stillNoGreater : ¬ "gt;".toList <+: replaceAll lessEntity '<' rest := by
    rwa [less, prefix_replaceAll_iff _ (by decide) (by decide)]
  have stillNoEntity :
      ¬ "amp;".toList <+: replaceAll greaterEntity '>' (replaceAll lessEntity '<' rest) := by
    rwa [greater, less, prefix_replaceAll_iff _ (by decide) (by decide),
      prefix_replaceAll_iff _ (by decide) (by decide)]
  rw [decodeChars, decodeChars]
  rw [less, greater, ampersand] at *
  rw [replaceAll_cons_of_not_starting noLess, replaceAll_cons_of_not_starting stillNoGreater,
    replaceAll_cons_of_not_starting stillNoEntity]

theorem decodeChars_eq_decodeOnce (text : List Char) : decodeChars text = decodeOnce text := by
  fun_induction decodeOnce text with
  | case1 => exact decodeChars_nil
  | case2 rest ih => rw [← ih, ← decodeChars_escapeChar]; rfl
  | case3 rest ih => rw [← ih, ← decodeChars_escapeChar]; rfl
  | case4 rest ih => rw [← ih, ← decodeChars_escapeChar]; rfl
  | case5 c rest noLess noGreater noEntity ih =>
      rw [← ih]
      by_cases ampersand : c = '&'
      · subst ampersand
        apply decodeChars_ampersand
        · rintro ⟨others, same⟩
          exact noLess others rfl same.symm
        · rintro ⟨others, same⟩
          exact noGreater others rfl same.symm
        · rintro ⟨others, same⟩
          exact noEntity others rfl same.symm
      · exact decodeChars_cons_of_ne ampersand rest

theorem decodeOnce_of_not_mem {text : List Char} (noAmpersand : '&' ∉ text) :
    decodeOnce text = text := by
  rw [← decodeChars_eq_decodeOnce]
  induction text with
  | nil => exact decodeChars_nil
  | cons c rest ih =>
      obtain ⟨other, others⟩ := not_or.1 (mt List.mem_cons.2 noAmpersand)
      rw [decodeChars_cons_of_ne (Ne.symm other), ih others]

/-! ## Items -/

theorem readItem?_loneAmpersand {rest : List Char} (noFiller : ¬ "nbsp;".toList <+: rest)
    (noLess : ¬ "lt;".toList <+: rest) (noGreater : ¬ "gt;".toList <+: rest)
    (noEntity : ¬ "amp;".toList <+: rest) :
    readItem? ('&' :: rest) = some (.token .unknown ['&'], rest) := by
  rw [← Text.after?_eq_none_iff] at noFiller noLess noGreater noEntity
  rw [readItem?_of_ampersand]
  simp only [references, List.findSome?_cons, noFiller, noLess, noGreater, noEntity,
    Option.map_none]
  rfl

/-- Neither tags nor fillers are in the text. -/
structure OnlyText (text : List Char) : Prop where
  noTag : '<' ∉ text
  noFiller : ¬ fillerEntity <:+: text

theorem OnlyText.of_suffix {text rest : List Char} (only : OnlyText text) (suffix : rest <:+ text) :
    OnlyText rest where
  noTag := fun tag => only.noTag (suffix.mem tag)
  noFiller := fun filler => only.noFiller (filler.trans suffix.isInfix)

theorem Extracts.decodeOnce {text : List Char} (only : OnlyText text) :
    Extracts text (decodeOnce text) [] := by
  fun_induction Markup.decodeOnce text with
  | case1 => exact nil
  | case2 rest ih =>
      have later := ih (only.of_suffix (List.suffix_append lessEntity rest))
      exact of_read (readItem?_lessEntity rest) later
  | case3 rest ih =>
      have later := ih (only.of_suffix (List.suffix_append greaterEntity rest))
      exact of_read (readItem?_greaterEntity rest) later
  | case4 rest ih =>
      have later := ih (only.of_suffix (List.suffix_append ampersandEntity rest))
      exact of_read (readItem?_ampersandEntity rest) later
  | case5 c rest noLess noGreater noEntity ih =>
      have later := ih (only.of_suffix (List.suffix_cons c rest))
      -- Blanks and bare characters may belong to a run; it is read one by one.
      rcases sign_cases c with blank | rfl | rfl | bare
      · exact later.blank blank
      · exact absurd List.mem_cons_self only.noTag
      · refine of_read (readItem?_loneAmpersand ?_ ?_ ?_ ?_) later
        · rintro ⟨others, rfl⟩
          exact only.noFiller (List.prefix_append fillerEntity others).isInfix
        · rintro ⟨others, same⟩
          exact noLess others rfl same.symm
        · rintro ⟨others, same⟩
          exact noGreater others rfl same.symm
        · rintro ⟨others, same⟩
          exact noEntity others rfl same.symm
      · exact later.bare bare

/-! ## Lines -/

theorem extractLine_wrapper {className attributes content : String}
    (unquoted : '"' ∉ className.toList) (unclosed : '>' ∉ attributes.toList)
    (noTag : '<' ∉ content.toList) :
    extractLine (wrapper className attributes content) =
      ⟨decodeEntities content, [⟨decodeEntities content, .wrapped className⟩], none⟩ := by
  have read := readItem?_wrapper unquoted unclosed noTag []
  rw [List.append_nil, ← toList_wrapper] at read
  have ended : reading [] = ⟨[], [], []⟩ := reading_of_refused rfl
  rw [extractLine_eq, reading_of_read read, ended]
  simp [Reading.behind, Item.literal, Item.rawToken?, Halt.ofRemainder?, decodeEntities]

/-- A text without tags and fillers is read to its end when it stands bare, and gives what the
replacement of entities gives.  So it is decoded alike in a wrapper and outside, and text without
ampersands stands for itself. -/
theorem bare_and_wrapped_text_decode_alike (text : String) (noTag : '<' ∉ text.toList)
    (noFiller : ¬ "&nbsp;".toList <:+: text.toList) :
    (extractLine text).halt = none ∧ (extractLine text).text = decodeEntities text ∧
      (∀ className attributes : String, '"' ∉ className.toList → '>' ∉ attributes.toList →
        extractLine (wrapper className attributes text) =
          ⟨(extractLine text).text, [⟨(extractLine text).text, .wrapped className⟩], none⟩) ∧
      ('&' ∉ text.toList → (extractLine text).text = text) := by
  obtain ⟨complete, decoded, _⟩ := (Extracts.decodeOnce ⟨noTag, noFiller⟩).extractLine
  have same : (extractLine text).text = decodeEntities text := by
    rw [decoded, decodeEntities, decodeChars_eq_decodeOnce]
  refine ⟨complete, same, ?_, ?_⟩
  · intro className attributes unquoted unclosed
    rw [same, extractLine_wrapper unquoted unclosed noTag]
  · intro noAmpersand
    rw [decoded, decodeOnce_of_not_mem noAmpersand, String.ofList_toList]

theorem bare_and_wrapped_text_decode_alike_of_double_escape :
    '<' ∉ "&&amp;lt; &gt &gt;;".toList ∧ ¬ "&nbsp;".toList <:+: "&&amp;lt; &gt &gt;;".toList ∧
      '"' ∉ "k".toList ∧ '>' ∉ " id".toList ∧
      (extractLine "&&amp;lt; &gt &gt;;").text = "&&lt; &gt >;" ∧
      extractLine "<span class=\"k\" id>&&amp;lt; &gt &gt;;</span>" =
        ⟨"&&lt; &gt >;", [⟨"&&lt; &gt >;", .wrapped "k"⟩], none⟩ := by
  have noTag : '<' ∉ "&&amp;lt; &gt &gt;;".toList := by decide
  have noFiller : ¬ "&nbsp;".toList <:+: "&&amp;lt; &gt &gt;;".toList := by decide +kernel
  have decoded : decodeEntities "&&amp;lt; &gt &gt;;" = "&&lt; &gt >;" := by decide +kernel
  obtain ⟨_, same, wrapped, _⟩ := bare_and_wrapped_text_decode_alike _ noTag noFiller
  rw [decoded] at same
  have inWrapper := wrapped "k" " id" (by decide) (by decide)
  rw [same] at inWrapper
  exact ⟨noTag, noFiller, by decide, by decide, same, inWrapper⟩

end SqlLint.Markup
