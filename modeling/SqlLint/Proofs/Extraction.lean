import Mathlib.Data.List.TakeWhile
import SqlLint.Markup.Extract

/-!
# Reading items of markup

What the first item of a line is, by the characters that the line starts with, and what a line as
a whole gives once its first item is known (`Extracts.of_read`).  A run that is read as one item
can be read one character at a time (`Extracts.run`), so that statements about runs are proved by
induction on the text and not on its longest runs.
-/

set_option autoImplicit false

namespace SqlLint

namespace Text

theorem after?_append (front rest : List Char) : after? front (front ++ rest) = some rest :=
  after?_eq_some_iff.2 rfl

theorem after?_cons_of_ne {c expected : Char} (differs : c ≠ expected) (front text : List Char) :
    after? (expected :: front) (c :: text) = none :=
  if_neg differs

theorem after?_eq_none_iff {front text : List Char} :
    after? front text = none ↔ ¬ front <+: text := by
  simp only [Option.eq_none_iff_forall_ne_some, ne_eq, after?_eq_some_iff]
  exact not_exists.symm

end Text

namespace Markup

theorem readRun?_cons {member : Char → Bool} (item : List Char → Item) {c : Char}
    (inClass : member c = true) (rest : List Char) :
    readRun? member item (c :: rest) =
      some (item (c :: rest.takeWhile member), rest.dropWhile member) := by
  simp only [readRun?, List.takeWhile_cons, List.dropWhile_cons, inClass, if_true]

theorem readRun?_cons_of_not {member : Char → Bool} (item : List Char → Item) {c : Char}
    (outside : member c = false) (rest : List Char) :
    readRun? member item (c :: rest) = none := by
  simp only [readRun?, List.takeWhile_cons, outside, Bool.false_eq_true, if_false]

theorem readEntity?_cons_of_ne {c : Char} (noAmpersand : c ≠ '&') (item : Item)
    (name rest : List Char) : readEntity? ('&' :: name) item (c :: rest) = none := by
  rw [readEntity?, Text.after?_cons_of_ne noAmpersand, Option.map_none]

theorem readWrapped?_cons_of_ne {c : Char} (noBracket : c ≠ '<') (rest : List Char) :
    readWrapped? (c :: rest) = none := by
  have opening : Text.after? wrapperOpening (c :: rest) = none :=
    Text.after?_cons_of_ne noBracket _ _
  simp [readWrapped?, readWrapper?, opening]

theorem readItem?_of_isBlank {c : Char} (blank : Text.isBlank c = true) (rest : List Char) :
    readItem? (c :: rest) =
      some (.blanks (c :: rest.takeWhile Text.isBlank), rest.dropWhile Text.isBlank) := by
  rw [readItem?, readers, List.findSome?_cons, readRun?_cons _ blank]

/-- Behind a character that is no blank and no ampersand, only a wrapper or bare text is read. -/
theorem readItem?_of_plainSign {c : Char} (noBlank : Text.isBlank c = false)
    (noAmpersand : c ≠ '&') (rest : List Char) :
    readItem? (c :: rest) =
      (readWrapped? (c :: rest)).or (readRun? isBareChar (.token .unknown) (c :: rest)) := by
  have entity : ∀ (name : List Char) (item : Item),
      readEntity? ('&' :: name) item (c :: rest) = none :=
    fun name item => readEntity?_cons_of_ne noAmpersand item name rest
  have filler : readEntity? fillerEntity .filler (c :: rest) = none := entity _ _
  have less : readEntity? lessEntity (.token .inequality ['<']) (c :: rest) = none := entity _ _
  have greater : readEntity? greaterEntity (.token .inequality ['>']) (c :: rest) = none :=
    entity _ _
  have ampersand : readEntity? ampersandEntity (.token .unknown ['&']) (c :: rest) = none :=
    entity _ _
  simp only [readItem?, readers, List.findSome?_cons, readRun?_cons_of_not _ noBlank, filler, less,
    greater, ampersand, entity, List.findSome?_nil]
  cases readWrapped? (c :: rest) with
  | some read => rfl
  | none =>
      rw [Option.none_or]
      cases readRun? isBareChar (.token .unknown) (c :: rest) <;> rfl

theorem isBareChar_iff {c : Char} :
    isBareChar c = true ↔ c ≠ '<' ∧ c ≠ '&' ∧ Text.isBlank c = false := by
  simp [isBareChar, and_assoc]

theorem readItem?_of_isBareChar {c : Char} (bare : isBareChar c = true) (rest : List Char) :
    readItem? (c :: rest) =
      some (.token .unknown (c :: rest.takeWhile isBareChar), rest.dropWhile isBareChar) := by
  obtain ⟨noBracket, noAmpersand, noBlank⟩ := isBareChar_iff.1 bare
  rw [readItem?_of_plainSign noBlank noAmpersand, readWrapped?_cons_of_ne noBracket,
    readRun?_cons _ bare, Option.none_or]

/-- Behind an opening angle bracket, only a wrapper is read. -/
theorem readItem?_of_angle (rest : List Char) :
    readItem? ('<' :: rest) = readWrapped? ('<' :: rest) := by
  have noRun : readRun? isBareChar (.token .unknown) ('<' :: rest) = none :=
    readRun?_cons_of_not _ rfl rest
  rw [readItem?_of_plainSign rfl (by decide), noRun, Option.or_none]

/-- What an ampersand starts, by the text behind it, in order of priority. -/
def references : List (List Char × Item) :=
  [("nbsp;".toList, .filler), ("lt;".toList, .token .inequality ['<']),
    ("gt;".toList, .token .inequality ['>']), ("amp;".toList, .token .unknown ['&']),
    ([], .token .unknown ['&'])]

theorem readEntity?_ampersand (name rest : List Char) (item : Item) :
    readEntity? ('&' :: name) item ('&' :: rest) = (Text.after? name rest).map (item, ·) := by
  rw [readEntity?, Text.after?, if_pos rfl]

theorem readItem?_of_ampersand (rest : List Char) :
    readItem? ('&' :: rest) =
      references.findSome? fun reference =>
        (Text.after? reference.1 rest).map (reference.2, ·) := by
  have filler : fillerEntity = '&' :: "nbsp;".toList := rfl
  have less : lessEntity = '&' :: "lt;".toList := rfl
  have greater : greaterEntity = '&' :: "gt;".toList := rfl
  have ampersand : ampersandEntity = '&' :: "amp;".toList := rfl
  have noBlank : Text.isBlank '&' = false := rfl
  have noBare : isBareChar '&' = false := rfl
  have noWrapper : readWrapped? ('&' :: rest) = none := readWrapped?_cons_of_ne (by decide) rest
  simp only [readItem?, readers, references, filler, less, greater, ampersand,
    List.findSome?_cons, List.findSome?_nil, readEntity?_ampersand,
    readRun?_cons_of_not _ noBlank, readRun?_cons_of_not _ noBare, noWrapper]

theorem readItem?_ampersandEntity (rest : List Char) :
    readItem? (ampersandEntity ++ rest) = some (.token .unknown ['&'], rest) := rfl

theorem readItem?_lessEntity (rest : List Char) :
    readItem? (lessEntity ++ rest) = some (.token .inequality ['<'], rest) := rfl

theorem readItem?_greaterEntity (rest : List Char) :
    readItem? (greaterEntity ++ rest) = some (.token .inequality ['>'], rest) := rfl

theorem sign_cases (c : Char) :
    Text.isBlank c = true ∨ c = '<' ∨ c = '&' ∨ isBareChar c = true := by
  by_cases blank : Text.isBlank c = true
  · exact Or.inl blank
  · by_cases angle : c = '<'
    · exact Or.inr (Or.inl angle)
    · by_cases ampersand : c = '&'
      · exact Or.inr (Or.inr (Or.inl ampersand))
      · simp [isBareChar, blank, angle, ampersand]

theorem ne_of_not_mem {stop : Char} {run : List Char} (absent : stop ∉ run) :
    ∀ c ∈ run, (c != stop) = true := by
  intro c listed
  rw [bne_iff_ne]
  rintro rfl
  exact absent listed

theorem takeWhile_until {stop : Char} {run : List Char} (absent : stop ∉ run) (rest : List Char) :
    (run ++ stop :: rest).takeWhile (· != stop) = run := by
  rw [List.takeWhile_append_of_pos (ne_of_not_mem absent), List.takeWhile_cons_of_neg (by simp),
    List.append_nil]

theorem dropWhile_until {stop : Char} {run : List Char} (absent : stop ∉ run) (rest : List Char) :
    (run ++ stop :: rest).dropWhile (· != stop) = stop :: rest := by
  rw [List.dropWhile_append_of_pos (ne_of_not_mem absent), List.dropWhile_cons_of_neg (by simp)]

/-- What stands behind the opening of a wrapper, up to its content. -/
def wrapperHead (className attributes : List Char) : List Char :=
  className ++ '"' :: (attributes ++ ['>'])

/-- The markup of a wrapper with a class. -/
def wrapper (className attributes content : String) : String :=
  "<span class=\"" ++ className ++ "\"" ++ attributes ++ ">" ++ content ++ "</span>"

theorem toList_wrapper (className attributes content : String) :
    (wrapper className attributes content).toList =
      wrapperOpening ++ (wrapperHead className.toList attributes.toList ++
        (content.toList ++ wrapperClosing)) := by
  have head : wrapperHead className.toList attributes.toList =
      className.toList ++ ("\"".toList ++ (attributes.toList ++ ">".toList)) := rfl
  have opening : wrapperOpening = "<span class=\"".toList := rfl
  have closing : wrapperClosing = "</span>".toList := rfl
  unfold wrapper
  simp only [String.toList_append, List.append_assoc, head, opening, closing]

theorem readWrapper?_written {className attributes content : List Char}
    (unquoted : '"' ∉ className) (closed : '>' ∉ attributes) (noTag : '<' ∉ content)
    (rest : List Char) :
    readWrapper? (wrapperOpening ++ (wrapperHead className attributes ++
        (content ++ (wrapperClosing ++ rest)))) = some (className, content, rest) := by
  have closing : wrapperClosing ++ rest = '<' :: ("/span>".toList ++ rest) := rfl
  have quote : ∀ text, Text.after? ['"'] ('"' :: text) = some text := fun _ => rfl
  have angle : ∀ text, Text.after? ['>'] ('>' :: text) = some text := fun _ => rfl
  have ending : Text.after? wrapperClosing ('<' :: ("/span>".toList ++ rest)) = some rest :=
    Text.after?_append wrapperClosing rest
  rw [readWrapper?, Text.after?_append]
  simp only [wrapperHead, List.append_assoc, List.cons_append, List.nil_append, closing,
    Option.bind_eq_bind, Option.bind_some, Option.pure_def, takeWhile_until unquoted,
    dropWhile_until unquoted, quote, dropWhile_until closed, angle, takeWhile_until noTag,
    dropWhile_until noTag, ending]

/-- A wrapper is read only where one is written. -/
theorem written_of_readWrapper? {text className content rest : List Char}
    (read : readWrapper? text = some (className, content, rest)) :
    ∃ attributes, '"' ∉ className ∧ '>' ∉ attributes ∧ '<' ∉ content ∧
      text = wrapperOpening ++ (wrapperHead className attributes ++
        (content ++ (wrapperClosing ++ rest))) := by
  simp only [readWrapper?, Option.bind_eq_bind, Option.bind_eq_some_iff, Option.pure_def,
    Option.some.injEq, Prod.mk.injEq, Text.after?_eq_some_iff] at read
  obtain ⟨inside, rfl, behindClass, quoted, inner, closed, after, ended, rfl, rfl, rfl⟩ := read
  have absent : ∀ (stop : Char) (text : List Char), stop ∉ text.takeWhile (· != stop) := by
    intro stop text listed
    simpa using List.mem_takeWhile_imp listed
  refine ⟨behindClass.takeWhile (· != '>'), absent _ _, absent _ _, absent _ _, ?_⟩
  rw [ended, List.takeWhile_append_dropWhile, wrapperHead]
  simp only [List.append_assoc, List.cons_append, closed, List.takeWhile_append_dropWhile]
  rw [← List.singleton_append, quoted, List.takeWhile_append_dropWhile]

theorem readItem?_wrapper {className attributes content : List Char}
    (unquoted : '"' ∉ className) (closed : '>' ∉ attributes) (noTag : '<' ∉ content)
    (rest : List Char) :
    readItem? (wrapperOpening ++ (wrapperHead className attributes ++
        (content ++ (wrapperClosing ++ rest)))) =
      some (.token (.wrapped (String.ofList className)) (decodeChars content), rest) := by
  have wrapped := readWrapper?_written unquoted closed noTag rest
  generalize wrapperHead className attributes ++ (content ++ (wrapperClosing ++ rest)) = inside
    at wrapped ⊢
  have opening : wrapperOpening ++ inside = '<' :: ("span class=\"".toList ++ inside) := rfl
  have read : readWrapped? (wrapperOpening ++ inside) =
      some (.token (.wrapped (String.ofList className)) (decodeChars content), rest) := by
    rw [readWrapped?, wrapped, Option.map_some]
  rw [opening] at read ⊢
  rw [readItem?_of_angle, read]

theorem readItems_of_read {text rest : List Char} {item : Item}
    (read : readItem? text = some (item, rest)) :
    readItems text = (item :: (readItems rest).1, (readItems rest).2) := by
  rw [readItems]
  split
  · next refused =>
      rw [read] at refused
      contradiction
  · next found after same =>
      rw [read] at same
      cases same
      rfl

theorem readItems_nil : readItems [] = ([], []) := by
  rw [readItems]
  split
  · rfl
  · contradiction

/-- A token that was written with a wrapper. -/
def RawToken.isWrapped (token : RawToken) : Bool :=
  match token.kind with
  | .wrapped _ => true
  | _ => false

/-- The token of an item, if it was written with a wrapper. -/
def Item.wrapped? (item : Item) : Option RawToken :=
  item.rawToken?.filter (·.isWrapped)

/-- A line is read to its end, with some text and some wrapped tokens. -/
structure Extracts (text literal : List Char) (wrapped : List RawToken) : Prop where
  remainder_eq : (readItems text).2 = []
  literal_eq : (readItems text).1.flatMap Item.literal = literal
  wrapped_eq : (readItems text).1.filterMap Item.wrapped? = wrapped

namespace Extracts

variable {text rest literal : List Char} {wrapped : List RawToken}

theorem nil : Extracts [] [] [] := by
  constructor <;> rw [readItems_nil] <;> rfl

theorem of_read {item : Item} (read : readItem? text = some (item, rest))
    (later : Extracts rest literal wrapped) :
    Extracts text (item.literal ++ literal) (item.wrapped?.toList ++ wrapped) where
  remainder_eq := by rw [readItems_of_read read, later.remainder_eq]
  literal_eq := by rw [readItems_of_read read, List.flatMap_cons, later.literal_eq]
  wrapped_eq := by
    rw [readItems_of_read read, List.filterMap_cons, later.wrapped_eq]
    cases item.wrapped? <;> rfl

/-- A character in front of a run belongs to the run, and starts one in front of anything else. -/
theorem run {member : Char → Bool} {item : List Char → Item}
    (literal_item : ∀ run, (item run).literal = run)
    (wrapped_item : ∀ run, (item run).wrapped? = none)
    (reads : ∀ c rest, member c = true →
      readItem? (c :: rest) = some (item (c :: rest.takeWhile member), rest.dropWhile member))
    {c : Char} (inClass : member c = true) (later : Extracts rest literal wrapped) :
    Extracts (c :: rest) (c :: literal) wrapped := by
  have alone : rest.takeWhile member = [] → rest.dropWhile member = rest →
      Extracts (c :: rest) (c :: literal) wrapped := by
    intro noRun same
    have read := reads c rest inClass
    rw [noRun, same] at read
    have whole := of_read read later
    rwa [literal_item, wrapped_item] at whole
  cases rest with
  | nil => exact alone rfl rfl
  | cons d others =>
      cases next : member d with
      | false =>
          apply alone
          · rw [List.takeWhile_cons_of_neg (by simp [next])]
          · rw [List.dropWhile_cons_of_neg (by simp [next])]
      | true =>
          -- The run of `d` is read with `c` in front of it, and both leave the same text.
          have joined := reads c (d :: others) inClass
          rw [List.takeWhile_cons_of_pos next, List.dropWhile_cons_of_pos next] at joined
          have tail := readItems_of_read (reads d others next)
          have whole := readItems_of_read joined
          obtain ⟨remainder, text, tokens⟩ := later
          rw [tail] at remainder text tokens
          rw [List.flatMap_cons, literal_item] at text
          rw [List.filterMap_cons, wrapped_item] at tokens
          constructor
          · rw [whole]
            exact remainder
          · rw [whole, List.flatMap_cons, literal_item, ← text]
            rfl
          · rw [whole, List.filterMap_cons, wrapped_item]
            exact tokens

theorem blank {c : Char} (blank : Text.isBlank c = true)
    (later : Extracts rest literal wrapped) : Extracts (c :: rest) (c :: literal) wrapped :=
  run (fun _ => rfl) (fun _ => rfl) (fun _ rest inClass => readItem?_of_isBlank inClass rest) blank
    later

theorem bare {c : Char} (bare : isBareChar c = true)
    (later : Extracts rest literal wrapped) : Extracts (c :: rest) (c :: literal) wrapped :=
  run (fun _ => rfl) (fun _ => rfl) (fun _ rest inClass => readItem?_of_isBareChar inClass rest)
    bare later

/-- What the reading of a whole line gives. -/
theorem extractLine {markup : String} (extracts : Extracts markup.toList literal wrapped) :
    (extractLine markup).halt = none ∧ (extractLine markup).text = String.ofList literal ∧
      (extractLine markup).rawTokens.filter (·.isWrapped) = wrapped := by
  obtain ⟨remainder, text, tokens⟩ := extracts
  have halt : (Markup.extractLine markup).halt =
      Halt.ofRemainder? markup (readItems markup.toList).2 := rfl
  refine ⟨?_, ?_, ?_⟩
  · rw [halt, remainder]
    rfl
  · rw [← text]
    rfl
  · rw [Markup.extractLine, List.filter_filterMap]
    exact tokens

end Extracts

end Markup

end SqlLint
