import SqlLint.Proofs.Alphabet
import SqlLint.Toml.Printer
import SqlLint.Toml.Statement

/-!
# Written TOML values are read back

A string without quotes, backslashes and controls is written between double quotes as it is; a
number is written in decimal; a list takes one line, or one for each of several strings.  The
reader finds the value again, up to the end of its last line (`readValue?_print`).
-/

set_option autoImplicit false

namespace SqlLint.Toml

/-! ## Strings -/

/-- A character that stands for itself between double quotes. -/
def isPlain (c : Char) : Bool :=
  0x20 ≤ c.toNat && c.toNat != 0x7F && c != '"' && c != '\\'

/-- A text with something in it that is written between double quotes as it is. -/
structure PlainText (text : String) : Prop where
  nonempty : text.toList ≠ []
  plain : ∀ c ∈ text.toList, isPlain c = true

instance (text : String) : Decidable (PlainText text) :=
  decidable_of_iff (text.toList ≠ [] ∧ text.toList.all isPlain = true)
    ⟨fun ⟨nonempty, plain⟩ => ⟨nonempty, List.all_eq_true.1 plain⟩,
      fun text => ⟨text.nonempty, List.all_eq_true.2 text.plain⟩⟩

theorem isPlain_iff {c : Char} :
    isPlain c = true ↔ 0x20 ≤ c.toNat ∧ c.toNat ≠ 0x7F ∧ c ≠ '"' ∧ c ≠ '\\' := by
  simp [isPlain, and_assoc]

theorem isTextChar_of_isPlain {c : Char} (plain : isPlain c = true) : isTextChar c = true := by
  obtain ⟨low, delete, _, _⟩ := isPlain_iff.1 plain
  simp [isTextChar, low, delete]

theorem needsCode_of_isPlain {c : Char} (plain : isPlain c = true) : needsCode c = false := by
  obtain ⟨low, delete, _, _⟩ := isPlain_iff.1 plain
  have high : ¬ c.toNat < 0x20 := by omega
  simp [needsCode, high, delete]

theorem longestRun_eq_zero {c : Char} {text : List Char} (absent : c ∉ text) :
    longestRun c 0 text = 0 := by
  induction text with
  | nil => rfl
  | cons first rest ih =>
      rw [List.mem_cons, not_or] at absent
      rw [longestRun, if_neg (Ne.symm absent.1), ih absent.2]
      rfl

theorem basic_of_plain {text : List Char} (plain : ∀ c ∈ text, isPlain c = true) :
    basic text = '"' :: text ++ ['"'] := by
  have special : ∀ sign ∈ ['"', '\n', '\\', '\x08', '\t', '\x0c', '\r'],
      isPlain sign = false := Text.forall_mem_outside (by decide)
  have body : text.flatMap (fun c => if c = '"' then ['\\', '"']
      else if c = '\n' then ['\\', 'n'] else escapeChar c) = text := by
    induction text with
    | nil => rfl
    | cons c text ih =>
        have ordinary := plain c List.mem_cons_self
        have other : ∀ sign ∈ ['"', '\n', '\\', '\x08', '\t', '\x0c', '\r'], c ≠ sign :=
          fun sign listed => Text.ne_of_class ordinary (special sign listed)
        rw [List.flatMap_cons, ih fun c listed => plain c (List.mem_cons_of_mem _ listed)]
        simp [escapeChar, needsCode_of_isPlain ordinary, other]
  rw [basic, body]

theorem string_of_plain {text : List Char} (plain : ∀ c ∈ text, isPlain c = true) :
    string text = '"' :: text ++ ['"'] := by
  have coded : text.any needsCode = false := by
    rw [List.any_eq_false]
    intro c listed
    rw [needsCode_of_isPlain (plain c listed)]
    exact Bool.false_ne_true
  have absent : ∀ sign, isPlain sign = false → sign ∉ text := fun sign special listed =>
    Text.ne_of_class (plain sign listed) special rfl
  have broken : text.contains '\n' = false := by
    simpa using absent '\n' (by decide)
  have escaped : text.contains '\\' = false := by
    simpa using absent '\\' (by decide)
  simp only [string, coded, broken, escaped, longestRun_eq_zero (absent '"' (by decide)),
    Bool.not_false, Bool.and_self, decide_true, if_true, basic_of_plain plain]

theorem readBasic?_of_plain {text : List Char} (plain : ∀ c ∈ text, isPlain c = true)
    (rest : List Char) : readBasic? (text ++ '"' :: rest) = some (text, rest) := by
  induction text with
  | nil => rw [List.nil_append, readBasic?, if_pos rfl]
  | cons c text ih =>
      have ordinary := plain c List.mem_cons_self
      rw [List.cons_append, readBasic?, if_neg (Text.ne_of_class ordinary (by decide)),
        if_neg (Text.ne_of_class ordinary (by decide)), if_pos (isTextChar_of_isPlain ordinary),
        ih fun other listed => plain other (List.mem_cons_of_mem _ listed)]
      rfl

theorem readString?_string {text : List Char} (nonempty : text ≠ [])
    (plain : ∀ c ∈ text, isPlain c = true) (rest : List Char) :
    readString? (string text ++ rest) = some (text, rest) := by
  have shape : string text ++ rest = '"' :: (text ++ '"' :: rest) := by
    rw [string_of_plain plain]
    simp
  have short : readString? ('"' :: (text ++ '"' :: rest)) =
      readShortString? ('"' :: (text ++ '"' :: rest)) := by
    obtain ⟨first, others, rfl⟩ := List.exists_cons_of_ne_nil nonempty
    have noQuote : first ≠ '"' := Text.ne_of_class (plain first List.mem_cons_self) (by decide)
    unfold readString?
    split
    · next same =>
        simp only [List.cons_append, List.cons.injEq, true_and] at same
        exact absurd same.1 noQuote
    · next same => simp at same
    · rfl
  rw [shape, short, readShortString?, readBasic?_of_plain plain]

/-! ## Values -/

/-- A written value that is read back: its strings are plain, its number has 64 bits. -/
def Written.Plain : Written → Prop
  | text content => PlainText content
  | number value => value ≤ Text.maxWord
  | texts contents => ∀ content ∈ contents, PlainText content

/-- The value that is read back. -/
def Written.value : Written → Value
  | text content => .string content
  | number value => .integer value
  | texts contents => .array false (contents.map .string)

theorem readValue?_string (depth : Nat) {content : String} (plain : PlainText content)
    (rest : List Char) :
    readValue? depth (string content.toList ++ rest) = some (.string content, rest) := by
  have read := readString?_string plain.nonempty plain.plain rest
  rw [string_of_plain plain.plain] at read ⊢
  rw [List.cons_append, List.cons_append] at read ⊢
  unfold readValue?
  simp only [read, Option.map_some, String.ofList_toList]

/-! ### Numbers -/

theorem valueOf_eq_digitsValue {digits : List Char} (all : ∀ c ∈ digits, c.isDigit = true) :
    valueOf 10 digits = Text.digitsValue digits := by
  have steps : ∀ start : Nat,
      digits.foldl (fun value c => 10 * value + (Json.hexValue? c).getD 0) start =
        digits.foldl (fun value c => 10 * value + (c.toNat - '0'.toNat)) start := by
    induction digits with
    | nil => exact fun _ => rfl
    | cons c digits ih =>
        intro start
        have value : Json.hexValue? c = some (c.toNat - '0'.toNat) :=
          if_pos (all c List.mem_cons_self)
        rw [List.foldl_cons, List.foldl_cons, value, Option.getD_some,
          ih fun other listed => all other (List.mem_cons_of_mem _ listed)]
  rw [valueOf, Text.digitsValue, Nat.ofDigitChars_eq_foldl, steps]

theorem wholeDigits?_digits (n : Nat) : wholeDigits? (Text.digits n) = some (Text.digits n) := by
  have ungrouped : ∀ digits : List Char, digits ≠ [] → (∀ c ∈ digits, c.isDigit = true) →
      ungroup? (isDigitOf 10) digits = some digits := by
    intro digits nonempty all
    have digit : ∀ c ∈ digits, isDigitOf 10 c = true := by
      intro c listed
      have value : Json.hexValue? c = some (c.toNat - '0'.toNat) := if_pos (all c listed)
      have small : c.toNat ≤ '9'.toNat := by
        have range := all c listed
        simp only [Char.isDigit, Bool.and_eq_true, decide_eq_true_eq] at range
        exact range.2
      simp only [isDigitOf, value, Option.any_some, decide_eq_true_eq]
      have nine : '9'.toNat = 57 := rfl
      have zero : '0'.toNat = 48 := rfl
      omega
    induction digits with
    | nil => exact absurd rfl nonempty
    | cons first others ih =>
        have here := digit first List.mem_cons_self
        cases others with
        | nil => rw [ungroup?, if_pos here]
        | cons second others =>
            have noMark : second ≠ '_' := by
              rintro rfl
              exact absurd (all '_' (by simp)) (by decide)
            have later := ih (List.cons_ne_nil _ _)
              (fun c listed => all c (List.mem_cons_of_mem _ listed))
              fun c listed => digit c (List.mem_cons_of_mem _ listed)
            rw [ungroup?, if_pos here, later]
            · rfl
            · exact nofun
            · exact fun rest same => noMark (List.cons.inj same).1
  rw [wholeDigits?, ungrouped _ (Text.digits_ne_nil n) fun _ => Text.isDigit_of_mem_digits]
  rcases Nat.eq_zero_or_pos n with rfl | positive
  · rfl
  · simp [Text.head?_digits_ne_zero positive]

theorem integer?_digits (n : Nat) : integer? (Text.digits n) = some (n : Int) := by
  have noBase : basedInteger? (Text.digits n) = none := by
    rcases Nat.eq_zero_or_pos n with rfl | positive
    · rfl
    · unfold basedInteger?
      split
      · next front => exact absurd (by rw [front]; rfl) (Text.head?_digits_ne_zero positive)
      · rfl
  have noSign : splitSign (Text.digits n) = (false, Text.digits n) := by
    have all : ∀ c ∈ Text.digits n, c.isDigit = true := fun _ => Text.isDigit_of_mem_digits
    unfold splitSign
    split
    · next front => exact absurd (all '+' (by rw [front]; exact List.mem_cons_self)) (by decide)
    · next front => exact absurd (all '-' (by rw [front]; exact List.mem_cons_self)) (by decide)
    · rfl
  simp only [integer?, noBase, noSign, wholeDigits?_digits, Option.map_some, Bool.false_eq_true,
    if_false, valueOf_eq_digitsValue fun _ => Text.isDigit_of_mem_digits, Text.digitsValue_digits]

theorem readScalar?_digits {n : Nat} (fits : n ≤ Text.maxWord) (rest : List Char) :
    readScalar? (Text.digits n ++ '\n' :: rest) = some (.integer n, '\n' :: rest) := by
  have scalar : ∀ c ∈ Text.digits n, isScalarChar c = true := by
    intro c listed
    simp [isScalarChar, Char.isAlphanum, Text.isDigit_of_mem_digits listed]
  have split : splitScalar (Text.digits n ++ '\n' :: rest) = (Text.digits n, '\n' :: rest) := by
    have stop : ¬ isScalarChar '\n' = true := by decide
    simp only [splitScalar, List.takeWhile_append_of_pos scalar,
      List.dropWhile_append_of_pos scalar, List.takeWhile_cons_of_neg stop,
      List.dropWhile_cons_of_neg stop, List.append_nil]
    rfl
  have noName : ∀ name : List Char, (∃ c, name.head? = some c ∧ c.isDigit = false) →
      Text.digits n ≠ name := by
    rintro name ⟨c, first, noDigit⟩ rfl
    exact Bool.false_ne_true
      (noDigit.symm.trans (Text.isDigit_of_mem_digits (List.mem_of_mem_head? first)))
  have storable : isStorable n = true := by
    have bound : (n : Int) ≤ (Text.maxWord : Int) := by exact_mod_cast fits
    have limit : (Text.maxWord : Int) = 0xFFFFFFFFFFFFFFFF := rfl
    simp only [isStorable, Bool.and_eq_true, decide_eq_true_eq]
    omega
  simp only [readScalar?, split, scalarOf?, integer?_digits, storable, if_true,
    if_neg (noName "true".toList ⟨'t', rfl, rfl⟩), if_neg (noName "false".toList ⟨'f', rfl, rfl⟩),
    Option.map_some]

/-! ### Lists -/

/-- An item before a comma is read, and then the items behind the comma. -/
theorem readItems?_cons {Item : Type} {readItem : List Char → Option (Item × List Char)}
    {close c : Char} {count : Nat} {text front after rest : List Char} {item : Item}
    {items : List Item} (start : skipLayout? false text = some (c :: front)) (inside : c ≠ close)
    (read : readItem (c :: front) = some (item, ',' :: after))
    (later : readItems? readItem close count after = some (items, rest)) :
    readItems? readItem close (count + 1) text = some (item :: items, rest) := by
  have comma : skipLayout? false (',' :: after) = some (',' :: after) := rfl
  rw [readItems?, start]
  simp only [if_neg inside, read, comma, later, Option.map_some]

theorem readItems?_only {Item : Type} {readItem : List Char → Option (Item × List Char)}
    {c : Char} {count : Nat} {front rest : List Char} {item : Item}
    (start : skipLayout? false (c :: front) = some (c :: front)) (inside : c ≠ ']')
    (read : readItem (c :: front) = some (item, ']' :: rest)) :
    readItems? readItem ']' (count + 1) (c :: front) = some ([item], rest) := by
  have closing : skipLayout? false (']' :: rest) = some (']' :: rest) := rfl
  rw [readItems?, start]
  simp only [if_neg inside, read, closing]
  rfl

/-- The line of an element in a list of several. -/
def elementLine (content : String) : List Char :=
  List.replicate 4 ' ' ++ string content.toList ++ [',', '\n']

theorem readItems?_lines {depth : Nat} {contents : List String} {count : Nat}
    (enough : contents.length < count) (plain : ∀ content ∈ contents, PlainText content)
    (rest : List Char) :
    readItems? (readValue? depth) ']' count
        ('\n' :: (contents.flatMap elementLine ++ ']' :: rest)) =
      some (contents.map .string, rest) := by
  induction contents generalizing count with
  | nil =>
      cases count with
      | zero => contradiction
      | succ count => rfl
  | cons content contents ih =>
      cases count with
      | zero => contradiction
      | succ count =>
          have inText := plain content List.mem_cons_self
          have item := readValue?_string depth inText
            (',' :: '\n' :: (contents.flatMap elementLine ++ ']' :: rest))
          have later := ih (Nat.lt_of_succ_lt_succ enough)
            fun other listed => plain other (List.mem_cons_of_mem _ listed)
          rw [List.flatMap_cons, elementLine, List.append_assoc, List.append_assoc,
            List.append_assoc]
          rw [string_of_plain inText.plain] at item ⊢
          exact readItems?_cons rfl (by decide) item later

theorem length_le_flatMap (contents : List String) :
    contents.length ≤ (contents.flatMap elementLine).length := by
  induction contents with
  | nil => exact Nat.le_refl 0
  | cons content contents ih =>
      rw [List.flatMap_cons, elementLine]
      simp only [List.length_append, List.length_cons]
      omega

theorem readValue?_list {depth : Nat} {text rest : List Char} {contents : List String}
    (items : readItems? (readValue? depth) ']' (text.length + 1) text =
      some (contents.map .string, rest)) :
    readValue? (depth + 1) ('[' :: text) = some ((Written.texts contents).value, rest) := by
  unfold readValue?
  simp only [items, Option.map_some, Written.value]

theorem readValue?_print (depth : Nat) {written : Written} (plain : written.Plain)
    (rest : List Char) :
    readValue? (depth + 1) (written.print ++ '\n' :: rest) =
      some (written.value, '\n' :: rest) := by
  cases written with
  | text content => exact readValue?_string (depth + 1) plain _
  | number n =>
      have scalar := readScalar?_digits plain rest
      obtain ⟨first, others, shape, digit⟩ := Text.digits_eq_cons n
      have other : ∀ sign : Char, sign.isDigit = false → first ≠ sign := fun _ =>
        Text.ne_of_class digit
      rw [Written.print]
      rw [shape, List.cons_append] at scalar ⊢
      unfold readValue?
      split
      · next same => exact absurd (List.cons.inj same).1 (other '"' rfl)
      · next same => exact absurd (List.cons.inj same).1 (other '\x27' rfl)
      · next same => exact absurd (List.cons.inj same).1 (other '[' rfl)
      · next same => exact absurd (List.cons.inj same).1 (other '\x7b' rfl)
      · exact scalar
  | texts contents =>
      match contents with
      | [] => rfl
      | [only] =>
          have inText := plain only List.mem_cons_self
          have item := readValue?_string depth inText (']' :: '\n' :: rest)
          rw [Written.print, List.append_assoc, List.cons_append]
          apply readValue?_list
          rw [string_of_plain inText.plain] at item ⊢
          exact readItems?_only rfl (by decide) item
      | first :: second :: others =>
          have shape : (Written.texts (first :: second :: others)).print ++ '\n' :: rest =
              '[' :: '\n' :: ((first :: second :: others).flatMap elementLine ++
                ']' :: '\n' :: rest) := by
            rw [Written.print, List.append_assoc, List.append_assoc]
            · rfl
            · exact nofun
            · exact nofun
          rw [shape]
          apply readValue?_list
          apply readItems?_lines _ plain
          have lines := length_le_flatMap (first :: second :: others)
          simp only [List.length_append, List.length_cons] at lines ⊢
          omega

theorem dropSpaces_print {written : Written} (plain : written.Plain) (rest : List Char) :
    dropSpaces (written.print ++ rest) = written.print ++ rest := by
  have front : ∃ first others, written.print = first :: others ∧ isSpace first = false := by
    cases written with
    | text content => exact ⟨'"', _, string_of_plain plain.plain, rfl⟩
    | number n =>
        obtain ⟨first, others, shape, digit⟩ := Text.digits_eq_cons n
        have noBlank : first ≠ ' ' := Text.ne_of_class digit rfl
        have noTab : first ≠ '\t' := Text.ne_of_class digit rfl
        exact ⟨first, others, shape, by simp [isSpace, noBlank, noTab]⟩
    | texts contents =>
        rcases contents with _ | ⟨first, _ | ⟨second, others⟩⟩
        · exact ⟨'[', _, rfl, rfl⟩
        · exact ⟨'[', _, rfl, rfl⟩
        · exact ⟨'[', _, rfl, rfl⟩
  obtain ⟨first, others, shape, solid⟩ := front
  rw [shape, List.cons_append]
  exact List.dropWhile_cons_of_neg (by rw [solid]; exact Bool.false_ne_true)

end SqlLint.Toml
