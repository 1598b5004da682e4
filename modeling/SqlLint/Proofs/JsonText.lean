import SqlLint.Json.Printer
import SqlLint.Json.Reader
import SqlLint.Proofs.Alphabet

/-!
# Printed JSON is read back

The pretty form of a value is a text whose lexemes are those of the value (`lexemes_prettyAt`),
whatever follows it, except that a number must not go on.  The reader turns the lexemes of a value
back into it, inside any unfinished arrays and objects (`run_stream`).
-/

set_option autoImplicit false

namespace SqlLint.Json

/-! ## The lexemes of a value -/

mutual

/-- The lexemes of a value. -/
def stream : Json → List Lexeme
  | .null => [.null]
  | .bool value => [.bool value]
  | .natural value => [.natural value]
  | .string text => [.string (some text)]
  | .array [] => [.openArray, .closeArray]
  | .array (first :: others) =>
      .openArray :: stream first ++ streamElements others ++ [.closeArray]
  | .object [] => [.openObject, .closeObject]
  | .object ((key, first) :: others) =>
      .openObject :: .string (some key) :: .colon :: stream first ++ streamMembers others ++
        [.closeObject]
  | .other => [.otherNumber]

/-- The lexemes of the elements of an array behind the first one. -/
def streamElements : List Json → List Lexeme
  | [] => []
  | element :: others => .comma :: stream element ++ streamElements others

/-- The lexemes of the members of an object behind the first one. -/
def streamMembers : List (String × Json) → List Lexeme
  | [] => []
  | (key, value) :: others =>
      .comma :: .string (some key) :: .colon :: stream value ++ streamMembers others

end

/-! ## Lexemes at the front of a text -/

/-- The text starts with some lexemes, and `rest` is behind them. -/
def Starts (text : List Char) (found : List Lexeme) (rest : List Char) : Prop :=
  lexemes text = (lexemes rest).map (found ++ ·)

theorem Starts.append {text middle rest : List Char} {found further : List Lexeme}
    (first : Starts text found middle) (second : Starts middle further rest) :
    Starts text (found ++ further) rest := by
  unfold Starts at first second ⊢
  rw [first, second, Option.map_map]
  congr 1
  funext later
  exact (List.append_assoc found further later).symm

theorem starts_space {c : Char} (space : isSpace c = true) (rest : List Char) :
    Starts (c :: rest) [] rest := by
  have same : lexemes (c :: rest) = lexemes rest := by
    rw [lexemes, lexemes, List.dropWhile_cons_of_pos space]
  rw [Starts, same]
  exact Option.map_id'.symm

theorem starts_lineStart (level : Nat) (rest : List Char) :
    Starts (lineStart level ++ rest) [] rest := by
  have blanks : ∀ count : Nat, Starts (List.replicate count ' ' ++ rest) [] rest := by
    intro count
    induction count with
    | zero => exact Option.map_id'.symm
    | succ count ih => exact (starts_space rfl _).append ih
  exact (starts_space rfl _).append (blanks _)

theorem starts_lexeme {c : Char} {text rest : List Char} {lexeme : Lexeme}
    (solid : isSpace c = false) (read : readLexeme? (c :: text) = some (lexeme, rest)) :
    Starts (c :: text) [lexeme] rest := by
  rw [Starts, lexemes, List.dropWhile_cons_of_neg (by rw [solid]; exact Bool.false_ne_true)]
  simp only
  split
  · next unread =>
      rw [read] at unread
      contradiction
  · next found =>
      rw [read] at found
      cases found
      rfl

theorem starts_mark {c : Char} {lexeme : Lexeme} (mark : marks.lookup c = some lexeme)
    (solid : isSpace c = false) (rest : List Char) : Starts (c :: rest) [lexeme] rest := by
  apply starts_lexeme solid
  rw [readLexeme?, mark]

/-! ### Texts -/

/-- An escaped character is a short escape, a numeric one, or the character itself. -/
theorem escapeChar_cases (c : Char) :
    (∃ mark, mark ≠ 'u' ∧ shortEscape? mark = some c ∧ escapeChar c = ['\\', mark]) ∨
    (c.toNat < 0x20 ∧
      escapeChar c = ['\\', 'u', '0', '0', hexDigit (c.toNat / 16), hexDigit (c.toNat % 16)]) ∨
    (0x20 ≤ c.toNat ∧ c ≠ '"' ∧ c ≠ '\\' ∧ escapeChar c = [c]) := by
  by_cases listed : c ∈ ['"', '\\', '\x08', '\t', '\n', '\x0c', '\r']
  · left
    simp only [List.mem_cons, List.not_mem_nil, or_false] at listed
    rcases listed with rfl | rfl | rfl | rfl | rfl | rfl | rfl
    · exact ⟨'"', by decide, rfl, rfl⟩
    · exact ⟨'\\', by decide, rfl, rfl⟩
    · exact ⟨'b', by decide, rfl, rfl⟩
    · exact ⟨'t', by decide, rfl, rfl⟩
    · exact ⟨'n', by decide, rfl, rfl⟩
    · exact ⟨'f', by decide, rfl, rfl⟩
    · exact ⟨'r', by decide, rfl, rfl⟩
  · right
    simp only [List.mem_cons, List.not_mem_nil, or_false, not_or] at listed
    obtain ⟨quote, backslash, backspace, tab, lineFeed, formFeed, carriageReturn⟩ := listed
    by_cases control : c.toNat < 0x20
    · exact Or.inl ⟨control, by simp [escapeChar, *]⟩
    · exact Or.inr ⟨by omega, quote, backslash, by simp [escapeChar, *]⟩

theorem readUnits_escapeChar (c : Char) (text : List Char) :
    readUnits (escapeChar c ++ text) =
      (readUnits text).map fun (units, rest) => (c.toNat :: units, rest) := by
  have controls : ∀ code < 0x20,
      hexNumber? ['0', '0', hexDigit (code / 16), hexDigit (code % 16)] = some code := by decide
  rcases escapeChar_cases c with
    ⟨mark, noCode, short, escape⟩ | ⟨control, escape⟩ | ⟨plain, quote, backslash, escape⟩
  · rw [escape, List.cons_append, List.cons_append, List.nil_append,
      readUnits.eq_4 mark text fun _ _ _ _ _ code _ => noCode code, short]
    cases readUnits text <;> rfl
  · rw [escape]
    simp only [List.cons_append, List.nil_append, readUnits, controls c.toNat control]
    cases readUnits text <;> rfl
  · rw [escape, List.cons_append, List.nil_append,
      readUnits.eq_5 c text quote (fun _ _ _ _ _ same _ => backslash same)
        fun _ _ same _ => backslash same,
      if_neg (by omega)]

theorem joinSurrogates?_toNat (text : List Char) :
    joinSurrogates? (text.map Char.toNat) = some text := by
  induction text with
  | nil => rfl
  | cons c text ih =>
      have noHalf : c.toNat < 0xD800 ∨ 0xDFFF < c.toNat := by
        rcases c.valid with low | ⟨high, _⟩
        · exact Or.inl low
        · exact Or.inr high
      have noHigh : isHighSurrogate c.toNat = false := by
        simp only [isHighSurrogate, Bool.and_eq_false_iff, decide_eq_false_iff_not]
        omega
      have noLow : isLowSurrogate c.toNat = false := by
        simp only [isLowSurrogate, Bool.and_eq_false_iff, decide_eq_false_iff_not]
        omega
      rw [List.map_cons]
      unfold joinSurrogates?
      rw [noHigh, noLow, ih]
      simp [Char.ofNat_toNat]

theorem starts_quoteText (text : String) (rest : List Char) :
    Starts (quoteText text ++ rest) [.string (some text)] rest := by
  have units : ∀ letters : List Char,
      readUnits (letters.flatMap escapeChar ++ '"' :: rest) =
        some (letters.map Char.toNat, rest) := by
    intro letters
    induction letters with
    | nil => rw [List.flatMap_nil, List.nil_append, readUnits, List.map_nil]
    | cons c letters ih =>
        rw [List.flatMap_cons, List.append_assoc, readUnits_escapeChar, ih]
        rfl
  have shape : quoteText text ++ rest =
      '"' :: (text.toList.flatMap escapeChar ++ '"' :: rest) := by
    simp [quoteText]
  rw [shape]
  apply starts_lexeme rfl
  have read : readString? (text.toList.flatMap escapeChar ++ '"' :: rest) =
      some (.string (some text), rest) := by
    simp only [readString?, units, Option.map_some, joinSurrogates?_toNat, String.ofList_toList]
  exact read

/-! ### Numbers -/

/-- A text with which a number does not go on. -/
def EndsNumber (text : List Char) : Prop :=
  ∀ c, text.head? = some c → c.isDigit = false ∧ c ≠ '.' ∧ c ≠ 'e' ∧ c ≠ 'E'

theorem endsNumber_cons {c : Char} (other : c = ',' ∨ c = '\n') (rest : List Char) :
    EndsNumber (c :: rest) := by
  intro first same
  rw [← Option.some.inj same]
  rcases other with rfl | rfl <;> decide

theorem endsNumber_prettyElements {level : Nat} (elements : List Json) {rest : List Char}
    (ends : EndsNumber rest) : EndsNumber (prettyElements level elements ++ rest) := by
  cases elements with
  | nil => exact ends
  | cons _ _ => exact endsNumber_cons (Or.inl rfl) _

theorem endsNumber_prettyMembers {level : Nat} (members : List (String × Json))
    {rest : List Char} (ends : EndsNumber rest) :
    EndsNumber (prettyMembers level members ++ rest) := by
  cases members with
  | nil => exact ends
  | cons _ _ => exact endsNumber_cons (Or.inl rfl) _

theorem readDigits?_append {digits rest : List Char} (nonempty : digits ≠ [])
    (all : ∀ c ∈ digits, c.isDigit = true) (ends : EndsNumber rest) :
    readDigits? (digits ++ rest) = some (digits, rest) := by
  have none : rest.takeWhile Char.isDigit = [] ∧ rest.dropWhile Char.isDigit = rest := by
    cases rest with
    | nil => exact ⟨rfl, rfl⟩
    | cons c rest =>
        have other : ¬ c.isDigit = true := by
          rw [(ends c rfl).1]
          exact Bool.false_ne_true
        exact ⟨List.takeWhile_cons_of_neg other, List.dropWhile_cons_of_neg other⟩
  rw [readDigits?, List.takeWhile_append_of_pos all, List.dropWhile_append_of_pos all, none.1,
    none.2, List.append_nil]
  cases digits with
  | nil => exact absurd rfl nonempty
  | cons _ _ => rfl

theorem readWhole?_digits (n : Nat) {rest : List Char} (ends : EndsNumber rest) :
    readWhole? (Text.digits n ++ rest) = some (Text.digits n, rest) := by
  have all : ∀ c ∈ Text.digits n, c.isDigit = true := fun _ => Text.isDigit_of_mem_digits
  rcases Nat.eq_zero_or_pos n with rfl | positive
  · rfl
  · have nonzero := Text.head?_digits_ne_zero positive
    unfold readWhole?
    split
    · next front =>
        obtain ⟨first, others, shape⟩ := List.exists_cons_of_ne_nil (Text.digits_ne_nil n)
        rw [shape] at front nonzero
        exact absurd (congrArg List.head? front) nonzero
    · exact readDigits?_append (Text.digits_ne_nil n) all ends

theorem readNumber?_digits (n : Nat) {rest : List Char} (ends : EndsNumber rest) :
    readNumber? (Text.digits n ++ rest) = some (.natural n, rest) := by
  have noFraction : readFraction? rest = some (false, rest) := by
    unfold readFraction?
    split
    · exact absurd rfl (ends '.' rfl).2.1
    · rfl
  have noExponent : readExponent? rest = some (false, rest) := by
    unfold readExponent?
    split
    · exact absurd rfl (ends 'e' rfl).2.2.1
    · exact absurd rfl (ends 'E' rfl).2.2.2
    · rfl
  simp only [readNumber?, readWhole?_digits n ends, noFraction, noExponent, Bool.or_self,
    Bool.false_eq_true, if_false, Text.digitsValue_digits]

theorem readLexeme?_digit {c : Char} (digit : c.isDigit = true) (text : List Char) :
    readLexeme? (c :: text) = readNumber? (c :: text) := by
  have noMark : marks.lookup c = none := by
    have noDigit : ∀ mark ∈ marks, mark.1.isDigit = false := by decide
    rw [List.lookup_eq_none_iff]
    intro mark listed
    exact bne_iff_ne.2 (Text.ne_of_class digit (noDigit mark listed))
  have other : ∀ sign : Char, sign.isDigit = false → c ≠ sign := fun _ =>
    Text.ne_of_class digit
  rw [readLexeme?, noMark]
  simp only [if_neg (other '"' rfl), if_neg (other 'n' rfl), if_neg (other 't' rfl),
    if_neg (other 'f' rfl), if_neg (other '-' rfl)]

theorem starts_digits (n : Nat) {rest : List Char} (ends : EndsNumber rest) :
    Starts (Text.digits n ++ rest) [.natural n] rest := by
  have read := readNumber?_digits n ends
  obtain ⟨first, others, shape, digit⟩ := Text.digits_eq_cons n
  have solid : isSpace first = false := by
    have other : ∀ sign : Char, sign.isDigit = false → first ≠ sign := fun _ =>
      Text.ne_of_class digit
    simp [isSpace, other]
  rw [shape, List.cons_append] at read ⊢
  exact starts_lexeme solid ((readLexeme?_digit digit _).trans read)

/-! ### Values -/

-- Behind an element or a member stands a comma or a line break, so that no number goes on there;
-- only for a value at the outside does the caller have to say so.

theorem starts_key (key : String) (rest : List Char) :
    Starts (quoteText key ++ ':' :: ' ' :: rest) [.string (some key), .colon] rest :=
  (starts_quoteText key _).append <|
    (starts_mark (c := ':') rfl rfl _).append (starts_space (c := ' ') rfl rest)

mutual

theorem starts_prettyAt (level : Nat) (value : Json) {rest : List Char}
    (ends : EndsNumber rest) : Starts (prettyAt level value ++ rest) (stream value) rest := by
  match value with
  | .null => exact starts_lexeme rfl rfl
  | .bool true => exact starts_lexeme rfl rfl
  | .bool false => exact starts_lexeme rfl rfl
  | .natural n => exact starts_digits n ends
  | .string text => exact starts_quoteText text rest
  | .array [] => exact (starts_mark (c := '[') rfl rfl _).append (starts_mark rfl rfl rest)
  | .array (first :: others) =>
      have closing : EndsNumber (lineStart level ++ ']' :: rest) :=
        endsNumber_cons (Or.inr rfl) _
      have parts := (starts_mark (c := '[') rfl rfl _).append <|
        (starts_lineStart (level + 1) _).append <|
        (starts_prettyAt (level + 1) first (endsNumber_prettyElements others closing)).append <|
        (starts_prettyElements (level + 1) others closing).append <|
        (starts_lineStart level _).append (starts_mark (c := ']') rfl rfl rest)
      simpa [prettyAt, stream] using parts
  | .object [] => exact (starts_mark (c := '{') rfl rfl _).append (starts_mark rfl rfl rest)
  | .object ((key, first) :: others) =>
      have closing : EndsNumber (lineStart level ++ '}' :: rest) :=
        endsNumber_cons (Or.inr rfl) _
      have parts := (starts_mark (c := '{') rfl rfl _).append <|
        (starts_lineStart (level + 1) _).append <|
        (starts_key key _).append <|
        (starts_prettyAt (level + 1) first (endsNumber_prettyMembers others closing)).append <|
        (starts_prettyMembers (level + 1) others closing).append <|
        (starts_lineStart level _).append (starts_mark (c := '}') rfl rfl rest)
      simpa [prettyAt, stream] using parts
  | .other =>
      have read : readLexeme? ('-' :: '0' :: rest) = some (.otherNumber, rest) := by
        have number := readNumber?_digits 0 ends
        exact congrArg (Option.map fun (_, after) => (Lexeme.otherNumber, after)) number
      exact starts_lexeme rfl read

theorem starts_prettyElements (level : Nat) (elements : List Json) {rest : List Char}
    (ends : EndsNumber rest) :
    Starts (prettyElements level elements ++ rest) (streamElements elements) rest := by
  match elements with
  | [] => exact Option.map_id'.symm
  | element :: others =>
      have parts := (starts_mark (c := ',') rfl rfl _).append <|
        (starts_lineStart level _).append <|
        (starts_prettyAt level element (endsNumber_prettyElements others ends)).append
          (starts_prettyElements level others ends)
      simpa [prettyElements, streamElements] using parts

theorem starts_prettyMembers (level : Nat) (members : List (String × Json)) {rest : List Char}
    (ends : EndsNumber rest) :
    Starts (prettyMembers level members ++ rest) (streamMembers members) rest := by
  match members with
  | [] => exact Option.map_id'.symm
  | (key, value) :: others =>
      have parts := (starts_mark (c := ',') rfl rfl _).append <|
        (starts_lineStart level _).append <|
        (starts_key key _).append <|
        (starts_prettyAt level value (endsNumber_prettyMembers others ends)).append
          (starts_prettyMembers level others ends)
      simpa [prettyMembers, streamMembers] using parts

end

/-! ## Reading the lexemes of a value -/

/-- The members of an object as they are read. -/
def keyed (members : List (String × Json)) : List (Option String × Json) :=
  members.map fun member => (some member.1, member.2)

theorem ofMembers_keyed (members : List (String × Json)) :
    ofMembers (keyed members) = .object members := by
  have keys : (keyed members).mapM (fun member => member.1.map fun text => (text, member.2)) =
      some members := by
    induction members with
    | nil => rfl
    | cons member members ih =>
        rw [keyed] at ih
        rw [keyed, List.map_cons, List.mapM_cons, ih]
        rfl
  rw [ofMembers]
  split
  · next found same => rw [Option.some.inj (same.symm.trans keys)]
  · next missing => exact absurd (missing.symm.trans keys) nofun

theorem stream_eq_cons (value : Json) :
    ∃ first others, stream value = first :: others ∧ first ≠ .closeArray := by
  cases value with
  | null => exact ⟨.null, [], rfl, nofun⟩
  | bool value => exact ⟨.bool value, [], rfl, nofun⟩
  | natural n => exact ⟨.natural n, [], rfl, nofun⟩
  | string text => exact ⟨.string (some text), [], rfl, nofun⟩
  | array elements => cases elements <;> exact ⟨.openArray, _, rfl, nofun⟩
  | object members => rcases members with _ | ⟨⟨_, _⟩, _⟩ <;> exact ⟨.openObject, _, rfl, nofun⟩
  | other => exact ⟨.otherNumber, [], rfl, nofun⟩

/-- The first element of an array is read like any other one. -/
theorem run_elementOrEnd (value : Json) (frames : List Frame) (rest : List Lexeme) :
    run .elementOrEnd frames (stream value ++ rest) =
      run .value frames (stream value ++ rest) := by
  obtain ⟨first, others, shape, noEnd⟩ := stream_eq_cons value
  have same : step .elementOrEnd frames first = step .value frames first := by
    simp only [step]
    split
    · contradiction
    · rfl
  rw [shape, List.cons_append, run, run, same]

-- An unfinished array holds its elements with the last one in front; each element that completes
-- is put there, so the induction is over the elements behind it, for any that are done.
mutual

theorem run_stream (value : Json) (frames : List Frame) (rest : List Lexeme) :
    run .value frames (stream value ++ rest) = run (.complete value) frames rest := by
  match value with
  | .null | .bool _ | .natural _ | .string _ | .other => rfl
  | .array [] | .object [] => rfl
  | .array (first :: others) =>
      calc run .value frames (stream (.array (first :: others)) ++ rest)
          = run .elementOrEnd (.array [] :: frames)
              (stream first ++ (streamElements others ++ .closeArray :: rest)) := by
            simp [stream, run, step, beginValue]
        _ = run (.complete first) (.array [] :: frames)
              (streamElements others ++ .closeArray :: rest) := by
            rw [run_elementOrEnd, run_stream first]
        _ = run (.complete (.array (first :: others))) frames rest :=
            run_streamElements first [] others frames rest
  | .object ((key, first) :: others) =>
      calc run .value frames (stream (.object ((key, first) :: others)) ++ rest)
          = run .value (.member [] (some key) :: frames)
              (stream first ++ (streamMembers others ++ .closeObject :: rest)) := by
            simp [stream, run, step, beginValue, readKey]
        _ = run (.complete first) (.member [] (some key) :: frames)
              (streamMembers others ++ .closeObject :: rest) := run_stream first _ _
        _ = run (.complete (.object ((key, first) :: others))) frames rest :=
            run_streamMembers key first [] others frames rest

theorem run_streamElements (last : Json) (done elements : List Json) (frames : List Frame)
    (rest : List Lexeme) :
    run (.complete last) (.array done :: frames)
        (streamElements elements ++ .closeArray :: rest) =
      run (.complete (.array (done.reverse ++ last :: elements))) frames rest := by
  match elements with
  | [] => simp [streamElements, run, step, afterValue]
  | element :: others =>
      calc run (.complete last) (.array done :: frames)
            (streamElements (element :: others) ++ .closeArray :: rest)
          = run .value (.array (last :: done) :: frames)
              (stream element ++ (streamElements others ++ .closeArray :: rest)) := by
            simp [streamElements, run, step, afterValue]
        _ = run (.complete element) (.array (last :: done) :: frames)
              (streamElements others ++ .closeArray :: rest) := run_stream element _ _
        _ = run (.complete (.array ((last :: done).reverse ++ element :: others))) frames rest :=
            run_streamElements element (last :: done) others frames rest
        _ = run (.complete (.array (done.reverse ++ last :: element :: others))) frames rest := by
            rw [List.reverse_cons, List.append_assoc, List.singleton_append]

theorem run_streamMembers (key : String) (last : Json) (done members : List (String × Json))
    (frames : List Frame) (rest : List Lexeme) :
    run (.complete last) (.member (keyed done) (some key) :: frames)
        (streamMembers members ++ .closeObject :: rest) =
      run (.complete (.object (done.reverse ++ (key, last) :: members))) frames rest := by
  match members with
  | [] =>
      have object : ofMembers ((some key, last) :: keyed done).reverse =
          .object (done.reverse ++ [(key, last)]) := by
        rw [← ofMembers_keyed]
        simp [keyed]
      simp only [streamMembers, List.nil_append, run, step, afterValue, object]
  | (next, value) :: others =>
      calc run (.complete last) (.member (keyed done) (some key) :: frames)
            (streamMembers ((next, value) :: others) ++ .closeObject :: rest)
          = run .value (.member (keyed ((key, last) :: done)) (some next) :: frames)
              (stream value ++ (streamMembers others ++ .closeObject :: rest)) := by
            simp [streamMembers, run, step, afterValue, readKey, keyed]
        _ = run (.complete value) (.member (keyed ((key, last) :: done)) (some next) :: frames)
              (streamMembers others ++ .closeObject :: rest) := run_stream value _ _
        _ = run (.complete (.object (((key, last) :: done).reverse ++ (next, value) :: others)))
              frames rest := run_streamMembers next value ((key, last) :: done) others frames rest
        _ = run (.complete (.object (done.reverse ++ (key, last) :: (next, value) :: others)))
              frames rest := by
            rw [List.reverse_cons, List.append_assoc, List.singleton_append]

end

/-- A printed value is read back. -/
theorem read?_print (value : Json) : read? (print value) = some value := by
  have text : lexemes (prettyAt 0 value ++ ['\n']) = some (stream value) := by
    have lineEnd : Starts ['\n'] [] [] := starts_space rfl []
    have starts := (starts_prettyAt 0 value (endsNumber_cons (Or.inr rfl) [])).append lineEnd
    have nothing : lexemes [] = some [] := by rw [lexemes]; rfl
    rw [starts, nothing, Option.map_some, List.append_nil, List.append_nil]
  have complete := run_stream value [] []
  rw [List.append_nil] at complete
  rw [read?, print, String.toList_ofList, text, Option.bind_some, complete]
  rfl

end SqlLint.Json
