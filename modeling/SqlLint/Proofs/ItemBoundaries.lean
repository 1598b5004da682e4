import SqlLint.Proofs.ExtractedText

/-!
# Markup between items

A line of markup can be cut in front of an angle bracket, an ampersand or a blank.  What stands
before such a place is read in the same way whatever follows (`reading_append_of_read`): a run of
bare text ends there, no entity reaches across it because entities go on with letters, and a run of
blanks that goes on is cut without loss.  Only a wrapper can reach across the place, and what comes
before its opening is then not read to its end.  So readings compose (`reading_append`), and what
stands before a halt is read as if nothing followed (`reading_before_halt`).
-/

set_option autoImplicit false

namespace SqlLint.Markup

/-- The text is empty or starts with a sign that no item of bare text goes on with. -/
def StartsItem (text : List Char) : Prop :=
  ∀ c, text.head? = some c → c = '<' ∨ c = '&' ∨ Text.isBlank c = true

/-- The text starts with a wrapper that has a class. -/
inductive StartsWrapper : List Char → Prop
  | wrapper (className attributes content rest : List Char) (unquoted : '"' ∉ className)
      (unclosed : '>' ∉ attributes) (noTag : '<' ∉ content) :
      StartsWrapper (wrapperOpening ++ (wrapperHead className attributes ++
        (content ++ (wrapperClosing ++ rest))))

/-- What reading a text gives: its literal text, its tokens, and what is left of it. -/
@[ext]
structure Reading where
  literal : List Char
  rawTokens : List RawToken
  remainder : List Char

namespace Reading

/-- A reading with an item in front of it. -/
def behind (item : Item) (later : Reading) : Reading :=
  ⟨item.literal ++ later.literal, item.rawToken?.toList ++ later.rawTokens, later.remainder⟩

/-- A reading that goes on with another one; the remainder of the first is read by the second. -/
def append (first later : Reading) : Reading :=
  ⟨first.literal ++ later.literal, first.rawTokens ++ later.rawTokens, later.remainder⟩

theorem append_behind (item : Item) (first later : Reading) :
    (first.behind item).append later = (first.append later).behind item := by
  simp [append, behind]

end Reading

def reading (text : List Char) : Reading :=
  ⟨(readItems text).1.flatMap Item.literal, (readItems text).1.filterMap Item.rawToken?,
    (readItems text).2⟩

theorem reading_of_read {text rest : List Char} {item : Item}
    (read : readItem? text = some (item, rest)) : reading text = (reading rest).behind item := by
  rw [reading, readItems_of_read read, List.flatMap_cons, List.filterMap_cons]
  cases token : item.rawToken? <;> simp [Reading.behind, reading, token]

theorem reading_of_refused {text : List Char} (refused : readItem? text = none) :
    reading text = ⟨[], [], text⟩ := by
  have items : readItems text = ([], text) := by
    rw [readItems]
    split
    · rfl
    · next found =>
        rw [refused] at found
        contradiction
  rw [reading, items]
  rfl

/-! ## Items in front of a boundary -/

variable {front back rest : List Char} {item : Item}

theorem StartsItem.isBareChar_eq_false (boundary : StartsItem back) {c : Char}
    (first : back.head? = some c) : isBareChar c = false := by
  rcases boundary c first with rfl | rfl | blank
  · rfl
  · rfl
  · simp [isBareChar, blank]

/-- Bare text that is looked for in front of a boundary does not reach across it. -/
theorem after?_append_of_startsItem (boundary : StartsItem back) {name : List Char}
    (bare : ∀ c ∈ name, isBareChar c = true) (text : List Char) :
    Text.after? name (text ++ back) = (Text.after? name text).map (· ++ back) := by
  induction name generalizing text with
  | nil => rfl
  | cons expected name ih =>
      obtain ⟨bareFirst, bareOthers⟩ := List.forall_mem_cons.1 bare
      cases text with
      | nil =>
          cases back with
          | nil => rfl
          | cons c others =>
              have differs : c ≠ expected := by
                rintro rfl
                rw [boundary.isBareChar_eq_false rfl] at bareFirst
                contradiction
              exact Text.after?_cons_of_ne differs name others
      | cons c text =>
          rw [List.cons_append, Text.after?, Text.after?]
          split
          · exact ih bareOthers text
          · rfl

theorem bareRun_append (boundary : StartsItem back) (text : List Char) :
    (text ++ back).takeWhile isBareChar = text.takeWhile isBareChar ∧
      (text ++ back).dropWhile isBareChar = text.dropWhile isBareChar ++ back := by
  induction text with
  | nil =>
      cases back with
      | nil => exact ⟨rfl, rfl⟩
      | cons c others =>
          have outside := boundary.isBareChar_eq_false rfl
          simp [outside]
  | cons c text ih =>
      by_cases inside : isBareChar c = true
      · simp [inside, ih]
      · simp [inside]

theorem readWrapped?_append (back : List Char) :
    readWrapped? (front ++ back) = some (item, rest ++ back) ↔
      readWrapped? front = some (item, rest) := by
  constructor
  · intro read
    obtain ⟨⟨className, content, after⟩, wrapper, same⟩ := Option.map_eq_some_iff.1 read
    cases same
    obtain ⟨attributes, unquoted, unclosed, noTag, whole⟩ := written_of_readWrapper? wrapper
    simp only [← List.append_assoc, List.append_cancel_right_eq] at whole
    simp only [List.append_assoc] at whole
    rw [whole, readWrapped?, readWrapper?_written unquoted unclosed noTag, Option.map_some]
  · intro read
    obtain ⟨⟨className, content, after⟩, wrapper, same⟩ := Option.map_eq_some_iff.1 read
    cases same
    obtain ⟨attributes, unquoted, unclosed, noTag, rfl⟩ := written_of_readWrapper? wrapper
    simp only [List.append_assoc]
    rw [readWrapped?, readWrapper?_written unquoted unclosed noTag, Option.map_some]

theorem readItem?_append_of_ampersand (boundary : StartsItem back) {others : List Char}
    (read : readItem? ('&' :: others) = some (item, rest)) :
    readItem? ('&' :: others ++ back) = some (item, rest ++ back) := by
  have allBare : ∀ reference ∈ references, reference.1.all isBareChar = true := by decide
  have bare {reference : List Char × Item} (listed : reference ∈ references) :
      ∀ c ∈ reference.1, isBareChar c = true := List.all_eq_true.1 (allBare reference listed)
  rw [readItem?_of_ampersand] at read
  rw [List.cons_append, readItem?_of_ampersand]
  obtain ⟨before, reference, later, split, found, refused⟩ := List.findSome?_eq_some_iff.1 read
  have inList : reference ∈ references := by simp [split]
  refine List.findSome?_eq_some_iff.2 ⟨before, reference, later, split, ?_, ?_⟩
  · obtain ⟨after, follows, same⟩ := Option.map_eq_some_iff.1 found
    cases same
    rw [after?_append_of_startsItem boundary (bare inList), follows]
    rfl
  · intro other listed
    have otherInList : other ∈ references := by simp [split, listed]
    have absent := Option.map_eq_none_iff.1 (refused other listed)
    rw [after?_append_of_startsItem boundary (bare otherInList), absent]
    rfl

/-! ## Readings -/

theorem reading_dropWhile (text : List Char) :
    reading text =
      (reading (text.dropWhile Text.isBlank)).behind (.blanks (text.takeWhile Text.isBlank)) := by
  have nothing : ∀ later : Reading, later.behind (.blanks []) = later := fun _ => rfl
  cases text with
  | nil => exact (nothing _).symm
  | cons c others =>
      by_cases blank : Text.isBlank c = true
      · rw [reading_of_read (readItem?_of_isBlank blank others), List.takeWhile_cons_of_pos blank,
          List.dropWhile_cons_of_pos blank]
      · rw [List.takeWhile_cons_of_neg blank, List.dropWhile_cons_of_neg blank, nothing]

/-- A run of blanks can be cut anywhere. -/
theorem reading_blanks {blanks : List Char} (onlyBlanks : ∀ c ∈ blanks, Text.isBlank c = true)
    (text : List Char) : reading (blanks ++ text) = (reading text).behind (.blanks blanks) := by
  rw [reading_dropWhile, reading_dropWhile text, List.takeWhile_append_of_pos onlyBlanks,
    List.dropWhile_append_of_pos onlyBlanks]
  simp [Reading.behind, Item.literal, Item.rawToken?]

theorem reading_append_of_read (boundary : StartsItem back)
    (read : readItem? front = some (item, rest)) :
    reading (front ++ back) = (reading (rest ++ back)).behind item := by
  cases front with
  | nil => contradiction
  | cons c others =>
      rcases sign_cases c with blank | rfl | rfl | bare
      · rw [readItem?_of_isBlank blank] at read
        cases read
        have onlyBlanks : ∀ d ∈ c :: others.takeWhile Text.isBlank, Text.isBlank d = true :=
          List.forall_mem_cons.2 ⟨blank, fun d listed => List.mem_takeWhile_imp listed⟩
        have whole : c :: others.takeWhile Text.isBlank ++ others.dropWhile Text.isBlank =
            c :: others := by
          rw [List.cons_append, List.takeWhile_append_dropWhile]
        rw [← reading_blanks onlyBlanks, ← List.append_assoc, whole]
      · rw [readItem?_of_angle] at read
        have longer := (readWrapped?_append back).2 read
        rw [List.cons_append, ← readItem?_of_angle] at longer
        exact reading_of_read longer
      · exact reading_of_read (readItem?_append_of_ampersand boundary read)
      · rw [readItem?_of_isBareChar bare] at read
        cases read
        obtain ⟨run, after⟩ := bareRun_append boundary others
        have longer := readItem?_of_isBareChar bare (others ++ back)
        rw [run, after] at longer
        exact reading_of_read longer

theorem reading_append (boundary : StartsItem back) (front : List Char) :
    reading (front ++ back) =
      (reading front).append (reading ((reading front).remainder ++ back)) := by
  induction front using readItems.induct with
  | case1 front refused =>
      rw [reading_of_refused refused]
      rfl
  | case2 front item rest read _ _ _ ih =>
      rw [reading_append_of_read boundary read, ih, reading_of_read read, Reading.append_behind]
      rfl

/-! ## Halts -/

theorem startsWrapper_iff {text : List Char} :
    StartsWrapper text ↔ (readWrapped? text).isSome = true := by
  rw [readWrapped?, Option.isSome_map, Option.isSome_iff_exists]
  constructor
  · rintro ⟨className, attributes, content, rest, unquoted, unclosed, noTag⟩
    exact ⟨_, readWrapper?_written unquoted unclosed noTag rest⟩
  · rintro ⟨⟨className, content, rest⟩, read⟩
    obtain ⟨attributes, unquoted, unclosed, noTag, rfl⟩ := written_of_readWrapper? read
    exact ⟨className, attributes, content, rest, unquoted, unclosed, noTag⟩

theorem readItem?_eq_none_iff {text : List Char} :
    readItem? text = none ↔ text = [] ∨ text.head? = some '<' ∧ ¬ StartsWrapper text := by
  cases text with
  | nil => exact iff_of_true rfl (Or.inl rfl)
  | cons c others =>
      rcases sign_cases c with blank | rfl | rfl | bare
      · rw [readItem?_of_isBlank blank]
        have other : c ≠ '<' := by
          rintro rfl
          contradiction
        simp [other]
      · rw [readItem?_of_angle, startsWrapper_iff]
        simp
      · rw [readItem?_of_ampersand]
        simp [references, Text.after?]
      · rw [readItem?_of_isBareChar bare]
        have other : c ≠ '<' := by
          rintro rfl
          contradiction
        simp [other]

theorem readItem?_remainder (text : List Char) : readItem? (reading text).remainder = none := by
  induction text using readItems.induct with
  | case1 text refused => rwa [reading_of_refused refused]
  | case2 text item rest read _ _ _ ih =>
      rw [reading_of_read read]
      exact ih

theorem remainder_suffix (text : List Char) : (reading text).remainder <:+ text :=
  (draws_readItems text).1

theorem startsItem_remainder (text : List Char) : StartsItem (reading text).remainder := by
  intro c first
  rcases readItem?_eq_none_iff.1 (readItem?_remainder text) with empty | ⟨angle, _⟩
  · rw [empty] at first
    contradiction
  · rw [angle] at first
    cases first
    exact Or.inl rfl

/-- What stands before a halt is read to its end, to what was read before the halt. -/
theorem reading_before_halt {text front : List Char}
    (whole : front ++ (reading text).remainder = text) :
    reading front = ⟨(reading text).literal, (reading text).rawTokens, []⟩ := by
  have refused := readItem?_remainder text
  have composed := reading_append (startsItem_remainder text) front
  rw [whole] at composed
  have complete : (reading front).remainder = [] := by
    by_contra halted
    have stuck := readItem?_remainder front
    obtain ⟨angle, _⟩ := (readItem?_eq_none_iff.1 stuck).resolve_left halted
    obtain ⟨others, chars⟩ := List.head?_eq_some_iff.1 angle
    cases read : readItem? ((reading front).remainder ++ (reading text).remainder) with
    | none =>
        rw [reading_of_refused read] at composed
        exact halted (List.self_eq_append_left.1 (congrArg Reading.remainder composed))
    | some found =>
        -- A wrapper that goes on behind the first text ends in front of the halt, thus within it.
        obtain ⟨item, rest⟩ := found
        rw [reading_of_read read] at composed
        have same : (reading text).remainder = (reading rest).remainder :=
          (congrArg Reading.remainder composed).trans rfl
        obtain ⟨between, cut⟩ := remainder_suffix rest
        rw [← same] at cut
        rw [← cut, chars, List.cons_append, readItem?_of_angle, ← List.cons_append,
          readWrapped?_append, ← readItem?_of_angle, ← chars, stuck] at read
        contradiction
  rw [complete, List.nil_append, reading_of_refused refused] at composed
  have literal : (reading text).literal = (reading front).literal :=
    (congrArg Reading.literal composed).trans (List.append_nil _)
  have rawTokens : (reading text).rawTokens = (reading front).rawTokens :=
    (congrArg Reading.rawTokens composed).trans (List.append_nil _)
  exact Reading.ext literal.symm rawTokens.symm complete

/-! ## Lines -/

/-- The same halt behind some more bytes. -/
def Halt.shift (bytes : Nat) (halt : Halt) : Halt :=
  { halt with offset := halt.offset + bytes }

/-- The line is read up to where its halt says, and there it goes on with an angle bracket that
starts no wrapper with a class. -/
structure Halt.Faithful (markup : String) (halt : Halt) : Prop where
  starts_with_angle : halt.remainder.toList.head? = some '<'
  no_wrapper : ¬ StartsWrapper halt.remainder.toList
  kind_eq_iff : halt.kind = .bareWrapper ↔ "<span".toList <+: halt.remainder.toList
  complete_before : ∃ front : String,
    front ++ halt.remainder = markup ∧ front.utf8ByteSize = halt.offset ∧
      extractLine front = ⟨(extractLine markup).text, (extractLine markup).rawTokens, none⟩

theorem extractLine_eq (markup : String) :
    extractLine markup =
      ⟨String.ofList (reading markup.toList).literal, (reading markup.toList).rawTokens,
        Halt.ofRemainder? markup (reading markup.toList).remainder⟩ :=
  rfl

theorem Halt.ofRemainder?_eq_none_iff {markup : String} {remainder : List Char} :
    ofRemainder? markup remainder = none ↔ remainder = [] := by
  simp [ofRemainder?]

theorem Halt.ofRemainder?_append (front : String) {back : String} {remainder : List Char}
    (suffix : remainder <:+ back.toList) :
    ofRemainder? (front ++ back) remainder =
      (ofRemainder? back remainder).map (·.shift front.utf8ByteSize) := by
  obtain ⟨taken, whole⟩ := suffix
  have bytes : (String.ofList remainder).utf8ByteSize ≤ back.utf8ByteSize := by
    rw [← String.ofList_toList (s := back), ← whole, String.ofList_append,
      String.utf8ByteSize_append]
    omega
  rw [ofRemainder?, ofRemainder?]
  split
  · rfl
  · simp only [Option.map_some, shift, String.utf8ByteSize_append, Option.some.injEq,
      Halt.mk.injEq, true_and, and_true]
    omega

theorem Halt.ofRemainder?_eq_some {markup : String} {remainder : List Char} {halt : Halt}
    (made : ofRemainder? markup remainder = some halt) :
    remainder ≠ [] ∧ halt.remainder.toList = remainder ∧
      (halt.kind = .bareWrapper ↔ spanOpening <+: remainder) := by
  rw [ofRemainder?] at made
  split at made
  · contradiction
  · next filled =>
      cases made
      refine ⟨mt List.isEmpty_iff.2 filled, String.toList_ofList, ?_⟩
      rw [← List.isPrefixOf_iff_prefix]
      cases spanOpening.isPrefixOf remainder <;> simp

theorem faithful_of_halt {markup : String} {halt : Halt}
    (halted : (extractLine markup).halt = some halt) : halt.Faithful markup := by
  obtain ⟨_, front, whole, start⟩ := restAt_of_halt halted
  rw [extractLine_eq] at halted
  obtain ⟨nonempty, remainder, kind⟩ := Halt.ofRemainder?_eq_some halted
  obtain ⟨angle, noWrapper⟩ :=
    (readItem?_eq_none_iff.1 (readItem?_remainder markup.toList)).resolve_left nonempty
  have before : reading front.toList =
      ⟨(reading markup.toList).literal, (reading markup.toList).rawTokens, []⟩ := by
    apply reading_before_halt
    rw [← remainder, ← String.toList_append, whole]
  rw [← remainder] at angle noWrapper kind
  refine ⟨angle, noWrapper, kind, front, whole, start, ?_⟩
  rw [extractLine_eq, extractLine_eq, before]
  rfl

/-- Of two texts that are cut where an item may start, the first one without a halt, the whole is
read as the first and then the second.  A line that halts is read up to the halt as if nothing
followed. -/
theorem markup_splits_where_items_start :
    (∀ front back : String, (extractLine front).halt = none → StartsItem back.toList →
      extractLine (front ++ back) =
        ⟨(extractLine front).text ++ (extractLine back).text,
          (extractLine front).rawTokens ++ (extractLine back).rawTokens,
          (extractLine back).halt.map (·.shift front.utf8ByteSize)⟩) ∧
    (∀ (markup : String) (halt : Halt), (extractLine markup).halt = some halt →
      halt.Faithful markup) := by
  refine ⟨?_, fun _ _ => faithful_of_halt⟩
  intro front back complete boundary
  have atEnd : (reading front.toList).remainder = [] := by
    rw [extractLine_eq] at complete
    exact Halt.ofRemainder?_eq_none_iff.1 complete
  have composed := reading_append boundary front.toList
  rw [atEnd, List.nil_append] at composed
  have remainder : (reading (front.toList ++ back.toList)).remainder =
      (reading back.toList).remainder := (congrArg Reading.remainder composed).trans rfl
  rw [extractLine_eq, extractLine_eq, extractLine_eq, String.toList_append, remainder,
    Halt.ofRemainder?_append front (remainder_suffix back.toList), composed, Reading.append,
    String.ofList_append]

theorem markup_splits_where_items_start_behind_half_entity :
    (extractLine "a &l").halt = none ∧ StartsItem "<span>t;".toList ∧
      extractLine ("a &l" ++ "<span>t;") =
        ⟨"a &l", [⟨"a", .unknown⟩, ⟨"&", .unknown⟩, ⟨"l", .unknown⟩],
          some ⟨.bareWrapper, 4, "<span>t;"⟩⟩ ∧
      Halt.Faithful ("a &l" ++ "<span>t;") ⟨.bareWrapper, 4, "<span>t;"⟩ := by
  have front : extractLine "a &l" =
      ⟨"a &l", [⟨"a", .unknown⟩, ⟨"&", .unknown⟩, ⟨"l", .unknown⟩], none⟩ := by decide +kernel
  have back : extractLine "<span>t;" = ⟨"", [], some ⟨.bareWrapper, 0, "<span>t;"⟩⟩ := by
    decide +kernel
  have complete : (extractLine "a &l").halt = none := by rw [front]
  have boundary : StartsItem "<span>t;".toList := by
    intro c first
    cases first
    exact Or.inl rfl
  have whole := markup_splits_where_items_start.1 "a &l" "<span>t;" complete boundary
  rw [front, back] at whole
  refine ⟨complete, boundary, whole, ?_⟩
  exact markup_splits_where_items_start.2 _ _ (by rw [whole]; rfl)

end SqlLint.Markup
