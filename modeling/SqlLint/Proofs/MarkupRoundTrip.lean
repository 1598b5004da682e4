import SqlLint.Proofs.Extraction

/-!
# Markup and the text it was written for

However a text is divided into bare and highlighted segments, the markup that the editor writes
for the segments is read as the text again, with one wrapped token for each highlighted segment
(`extractLine_writeAll`).  Bare segments are decoded from left to right; the content of a wrapper
is decoded by three replacements, which undo the three escapes because the ampersand comes last
(`decodeChars_escape`).
-/

set_option autoImplicit false

namespace SqlLint.Markup

/-! ## Replacing undoes escaping -/

theorem replaceAll_cons_of_ne {c : Char} (noAmpersand : c ≠ '&') (name : List Char) (image : Char)
    (rest : List Char) :
    replaceAll ('&' :: name) image (c :: rest) = c :: replaceAll ('&' :: name) image rest := by
  rw [replaceAll, if_neg]
  simp [List.isPrefixOf, noAmpersand.symm]

theorem replaceAll_append {name : List Char} (nonempty : name ≠ []) (image : Char)
    (rest : List Char) :
    replaceAll name image (name ++ rest) = image :: replaceAll name image rest := by
  cases name with
  | nil => contradiction
  | cons c name =>
      rw [List.cons_append, replaceAll, if_pos]
      · simp
      · simp [List.isPrefixOf_iff_prefix]

/-- What is left of an escaped character when `<` is decoded. -/
def escapeBelow (c : Char) : List Char :=
  if c = '<' then ['<'] else escapeChar c

/-- What is left of an escaped character when `<` and `>` are decoded. -/
def escapeAmpersand (c : Char) : List Char :=
  if c = '&' then ampersandEntity else [c]

theorem replaceAll_lessEntity (c : Char) (rest : List Char) :
    replaceAll lessEntity '<' (escapeChar c ++ rest) =
      escapeBelow c ++ replaceAll lessEntity '<' rest := by
  by_cases less : c = '<'
  · subst less
    exact replaceAll_append (by decide) '<' rest
  · rw [escapeBelow, if_neg less, escapeChar]
    by_cases ampersand : c = '&'
    · simp [ampersand, lessEntity, ampersandEntity, replaceAll, List.isPrefixOf]
    · rw [if_neg ampersand, if_neg less]
      by_cases greater : c = '>'
      · simp [greater, lessEntity, greaterEntity, replaceAll, List.isPrefixOf]
      · rw [if_neg greater]
        exact replaceAll_cons_of_ne ampersand _ _ _

theorem replaceAll_greaterEntity (c : Char) (rest : List Char) :
    replaceAll greaterEntity '>' (escapeBelow c ++ rest) =
      escapeAmpersand c ++ replaceAll greaterEntity '>' rest := by
  by_cases greater : c = '>'
  · subst greater
    exact replaceAll_append (by decide) '>' rest
  · by_cases ampersand : c = '&'
    · subst ampersand
      simp [escapeBelow, escapeChar, escapeAmpersand, greaterEntity, ampersandEntity, replaceAll,
        List.isPrefixOf]
    · have kept : escapeBelow c = [c] := by
        rw [escapeBelow, escapeChar, if_neg ampersand, if_neg greater]
        split
        · next less => rw [less]
        · rfl
      rw [kept, escapeAmpersand, if_neg ampersand]
      exact replaceAll_cons_of_ne ampersand _ _ _

theorem replaceAll_ampersandEntity (c : Char) (rest : List Char) :
    replaceAll ampersandEntity '&' (escapeAmpersand c ++ rest) =
      [c] ++ replaceAll ampersandEntity '&' rest := by
  by_cases ampersand : c = '&'
  · subst ampersand
    exact replaceAll_append (by decide) '&' rest
  · rw [escapeAmpersand, if_neg ampersand]
    exact replaceAll_cons_of_ne ampersand _ _ _

theorem decodeChars_nil : decodeChars [] = [] := by
  simp [decodeChars, replaceAll]

theorem decodeChars_escapeChar (c : Char) (rest : List Char) :
    decodeChars (escapeChar c ++ rest) = c :: decodeChars rest := by
  rw [decodeChars, replaceAll_lessEntity, replaceAll_greaterEntity, replaceAll_ampersandEntity]
  rfl

/-- Decoding undoes escaping, also of a text that spells an entity itself. -/
theorem decodeChars_escape (text : List Char) : decodeChars (escape text) = text := by
  induction text with
  | nil => exact decodeChars_nil
  | cons c text ih =>
      rw [escape, List.flatMap_cons, decodeChars_escapeChar, ← escape, ih]

theorem not_mem_escape (text : List Char) : '<' ∉ escape text := by
  intro listed
  obtain ⟨c, _, written⟩ := List.mem_flatMap.1 listed
  rw [escapeChar] at written
  split at written
  · exact absurd written (by decide)
  · split at written
    · exact absurd written (by decide)
    · next differs =>
        split at written
        · exact absurd written (by decide)
        · exact differs (List.mem_singleton.1 written).symm

/-! ## Segments -/

/-- A part of a line as it is written: bare, or in a wrapper with a class and further attributes,
which cannot end the class or the opening tag before its time. -/
inductive Segment
  | bare (text : String)
  | wrapped (className attributes text : String) (unquoted : '"' ∉ className.toList)
      (unclosed : '>' ∉ attributes.toList)

namespace Segment

/-- The text that a segment stands for. -/
def text : Segment → String
  | bare text => text
  | wrapped _ _ text _ _ => text

/-- A text with its special characters escaped. -/
def escaped (text : String) : String :=
  String.ofList (escape text.toList)

theorem toList_escaped (text : String) : (escaped text).toList = escape text.toList :=
  String.toList_ofList

/-- The markup of a wrapper. -/
def writeWrapper (className attributes text : String) : String :=
  "<span class=\"" ++ className ++ "\"" ++ attributes ++ ">" ++ escaped text ++ "</span>"

/-- The markup of a segment. -/
def write : Segment → String
  | bare text => escaped text
  | wrapped className attributes text _ _ => writeWrapper className attributes text

/-- The token of a segment, if it is wrapped. -/
def wrapper? : Segment → Option RawToken
  | bare _ => none
  | wrapped className _ text _ _ => some ⟨text, .wrapped className⟩

theorem toList_writeWrapper (className attributes text : String) :
    (writeWrapper className attributes text).toList =
      wrapperOpening ++ (wrapperHead className.toList attributes.toList ++
        (escape text.toList ++ wrapperClosing)) := by
  rw [← toList_escaped]
  exact toList_wrapper className attributes (escaped text)

end Segment

namespace Extracts

variable {rest literal : List Char} {wrapped : List RawToken}

theorem escapeChar (c : Char) (later : Extracts rest literal wrapped) :
    Extracts (escapeChar c ++ rest) (c :: literal) wrapped := by
  rw [Markup.escapeChar]
  split
  · next ampersand =>
      rw [ampersand]
      exact of_read (readItem?_ampersandEntity rest) later
  · split
    · next less =>
        rw [less]
        exact of_read (readItem?_lessEntity rest) later
    · split
      · next greater =>
          rw [greater]
          exact of_read (readItem?_greaterEntity rest) later
      · next noAmpersand noLess _ =>
          cases blanks : Text.isBlank c with
          | true => exact later.blank blanks
          | false =>
              apply later.bare
              simp [isBareChar, noAmpersand, noLess, blanks]

theorem escape (text : List Char) (later : Extracts rest literal wrapped) :
    Extracts (escape text ++ rest) (text ++ literal) wrapped := by
  induction text with
  | nil => exact later
  | cons c text ih =>
      rw [Markup.escape, List.flatMap_cons, List.append_assoc]
      exact ih.escapeChar c

theorem write (segment : Segment) (later : Extracts rest literal wrapped) :
    Extracts (segment.write.toList ++ rest) (segment.text.toList ++ literal)
      (segment.wrapper?.toList ++ wrapped) := by
  cases segment with
  | bare text =>
      -- Bare segments need not end where a run ends: what follows may continue it.
      rw [Segment.write, Segment.toList_escaped]
      exact later.escape text.toList
  | wrapped className attributes text unquoted unclosed =>
      have read := readItem?_wrapper unquoted unclosed (not_mem_escape text.toList) rest
      rw [decodeChars_escape, String.ofList_toList] at read
      rw [Segment.write, Segment.toList_writeWrapper]
      simp only [List.append_assoc]
      have whole := of_read read later
      rw [Item.wrapped?, Item.rawToken?, String.ofList_toList] at whole
      exact whole

theorem writeAll (segments : List Segment) :
    Extracts (segments.flatMap (·.write.toList)) (segments.flatMap (·.text.toList))
      (segments.filterMap (·.wrapper?)) := by
  induction segments with
  | nil => exact nil
  | cons segment segments ih =>
      have whole := ih.write segment
      rw [List.flatMap_cons, List.flatMap_cons, List.filterMap_cons]
      cases wrapper : segment.wrapper? <;> rw [wrapper] at whole <;> exact whole

end Extracts

/-- The markup of a line that is divided into segments is read to its end; it gives the text of
the segments, and its wrapped tokens are the wrapped segments in order. -/
theorem extractLine_writeAll (segments : List Segment) :
    let line := extractLine (String.join (segments.map (·.write)))
    line.halt = none ∧ line.text = String.join (segments.map (·.text)) ∧
      line.rawTokens.filter (·.isWrapped) = segments.filterMap (·.wrapper?) := by
  intro line
  have markup : (String.join (segments.map (·.write))).toList =
      segments.flatMap (·.write.toList) := by
    rw [String.toList_join, List.flatMap_map]
  have extracts := Extracts.writeAll segments
  rw [← markup] at extracts
  obtain ⟨halt, text, tokens⟩ := extracts.extractLine
  refine ⟨halt, ?_, tokens⟩
  rw [← String.toList_inj, text, String.toList_ofList, String.toList_join, List.flatMap_map]

end SqlLint.Markup
