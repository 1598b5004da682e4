import Mathlib.Data.String.Basic

/-!
# Texts in the order of their bytes

Texts are compared character by character, by code point.  UTF-8 is made so that a comparison byte
by byte gives the same answer (`bytes_lt_iff`).  Forms of one length hold the digits of the code
point, the most significant one first (`WritesInOrder.continued`), and a longer form starts with a
greater byte, so that of two characters the one with the greater code point has the greater byte at
the first place where they differ (`below_utf8EncodeChar`).
-/

set_option autoImplicit false

namespace SqlLint.Text

/-- The bytes of a text in UTF-8. -/
def bytes (text : String) : List UInt8 :=
  text.toByteArray.data.toList

/-- The lists differ at a place that both have, and there the first one has the smaller byte. -/
inductive Below : List UInt8 → List UInt8 → Prop
  | head {a b : UInt8} (less : a < b) (first second : List UInt8) : Below (a :: first) (b :: second)
  | tail (a : UInt8) {first second : List UInt8} (below : Below first second) :
      Below (a :: first) (a :: second)

namespace Below

variable {first second : List UInt8}

/-- What follows behind the place that differs makes no difference. -/
theorem append (below : Below first second) (afterFirst afterSecond : List UInt8) :
    Below (first ++ afterFirst) (second ++ afterSecond) := by
  induction below with
  | head less first second => exact .head less _ _
  | tail a _ ih => exact .tail a ih

theorem prepend (below : Below first second) (common : List UInt8) :
    Below (common ++ first) (common ++ second) := by
  induction common with
  | nil => exact below
  | cons a _ ih => exact .tail a ih

theorem lt (below : Below first second) : first < second := by
  induction below with
  | head less _ _ => exact List.Lex.rel less
  | tail _ _ ih => exact List.Lex.cons ih

end Below

/-! ## Characters -/

theorem ofNat_lt_ofNat {m n : Nat} (less : m < n) (isByte : n < 256) :
    UInt8.ofNat m < UInt8.ofNat n := by
  rw [UInt8.lt_iff_toNat_lt, UInt8.toNat_ofNat', UInt8.toNat_ofNat']
  omega

/-- The codes below a bound are written in order. -/
def WritesInOrder (bound : Nat) (write : Nat → List UInt8) : Prop :=
  ∀ v w, v < w → w < bound → Below (write v) (write w)

theorem writesInOrder_lead (digits mark : Nat) (isByte : digits + mark ≤ 256) :
    WritesInOrder digits fun v => [UInt8.ofNat (v % digits + mark)] := by
  intro v w less bounded
  simp only [Nat.mod_eq_of_lt bounded, Nat.mod_eq_of_lt (less.trans bounded)]
  exact .head (ofNat_lt_ofNat (by omega) (by omega)) [] []

/-- A byte with the last six bits goes behind the form of the others. -/
theorem WritesInOrder.continued {bound : Nat} {write : Nat → List UInt8}
    (inOrder : WritesInOrder bound write) :
    WritesInOrder (bound * 64) fun v => write (v / 64) ++ [UInt8.ofNat (v % 64 + 0x80)] := by
  intro v w less bounded
  rcases Nat.lt_or_eq_of_le (Nat.div_le_div_right (c := 64) less.le) with smaller | same
  · exact (inOrder _ _ smaller (Nat.div_lt_of_lt_mul (by omega))).append _ _
  · simp only [same]
    exact (Below.head (ofNat_lt_ofNat (by omega) (by omega)) [] []).prepend _

/-- Of two characters the one with the smaller code point is the smaller one in UTF-8. -/
theorem below_utf8EncodeChar {c d : Char} (less : c < d) :
    Below (String.utf8EncodeChar c) (String.utf8EncodeChar d) := by
  have codes : c.val.toNat < d.val.toNat := less
  have bound : d.val.toNat < 0x110000 := by
    have valid := d.valid
    simp only [UInt32.isValidChar, Nat.isValidChar] at valid
    omega
  have twoBytes := (writesInOrder_lead 0x20 0xc0 (by omega)).continued
  have threeBytes := (writesInOrder_lead 0x10 0xe0 (by omega)).continued.continued
  have fourBytes := (writesInOrder_lead 0x08 0xf0 (by omega)).continued.continued.continued
  simp only [WritesInOrder, Nat.div_div_eq_div_mul, List.cons_append, List.nil_append,
    Nat.reduceMul] at twoBytes threeBytes fourBytes
  rw [String.utf8EncodeChar, String.utf8EncodeChar]
  generalize c.val.toNat = v at codes ⊢
  generalize d.val.toNat = w at codes bound ⊢
  -- By the length of the smaller one: the other one is as long, or its first byte is greater.
  split
  · split_ifs <;> exact .head (ofNat_lt_ofNat (by omega) (by omega)) _ _
  · rw [if_neg (by omega : ¬ w ≤ 0x7f)]
    split
    · split
      · exact twoBytes v w codes (by omega)
      · split_ifs <;> exact .head (ofNat_lt_ofNat (by omega) (by omega)) _ _
    · rw [if_neg (by omega : ¬ w ≤ 0x7ff)]
      split
      · split
        · exact threeBytes v w codes (by omega)
        · exact .head (ofNat_lt_ofNat (by omega) (by omega)) _ _
      · rw [if_neg (by omega : ¬ w ≤ 0xffff)]
        exact fourBytes v w codes (by omega)

/-! ## Texts -/

theorem bytes_ofList (chars : List Char) :
    bytes (String.ofList chars) = chars.flatMap String.utf8EncodeChar := by
  rw [bytes, String.toByteArray_ofList, List.utf8Encode, List.toList_data_toByteArray]

theorem bytes_eq (text : String) : bytes text = text.toList.flatMap String.utf8EncodeChar := by
  rw [← bytes_ofList, String.ofList_toList]

theorem flatMap_utf8EncodeChar_lt {first second : List Char}
    (less : List.Lex (· < ·) first second) :
    first.flatMap String.utf8EncodeChar < second.flatMap String.utf8EncodeChar := by
  induction less with
  | @nil c rest =>
      obtain ⟨byte, others, form⟩ :=
        List.exists_cons_of_ne_nil (String.utf8EncodeChar_ne_nil (c := c))
      rw [List.flatMap_nil, List.flatMap_cons, form]
      exact List.Lex.nil
  | @cons c _ _ _ ih =>
      rw [List.flatMap_cons, List.flatMap_cons]
      exact List.append_left_lt ih
  | rel less =>
      rw [List.flatMap_cons, List.flatMap_cons]
      exact ((below_utf8EncodeChar less).append _ _).lt

theorem bytes_lt_of_lt {first second : String} (less : first < second) :
    bytes first < bytes second := by
  rw [bytes_eq, bytes_eq]
  exact flatMap_utf8EncodeChar_lt less

theorem bytes_lt_iff {first second : String} : bytes first < bytes second ↔ first < second := by
  constructor
  · intro less
    rcases lt_trichotomy first second with inOrder | same | reversed
    · exact inOrder
    · rw [same] at less
      exact absurd less (List.lt_irrefl _)
    · exact absurd (bytes_lt_of_lt reversed) (List.lt_asymm less)
  · exact bytes_lt_of_lt

theorem bytes_le_iff {first second : String} : bytes first ≤ bytes second ↔ first ≤ second := by
  rw [← List.not_lt, bytes_lt_iff, not_lt]

end SqlLint.Text
