/-!
# Natural numbers in text

Counts, offsets and sizes are natural numbers that fit into 64 bits. They are written in decimal
without leading zeros; a number given by hand may also have a plus sign and leading zeros.
-/

set_option autoImplicit false

namespace SqlLint.Text

/-- The largest number of 64 bits. -/
def maxWord : Nat := 0xFFFFFFFFFFFFFFFF

def digits (n : Nat) : List Char :=
  Nat.toDigits 10 n

/-- The number that some decimal digits stand for. -/
def digitsValue (text : List Char) : Nat :=
  Nat.ofDigitChars 10 text 0

theorem digitsValue_digits (n : Nat) : digitsValue (digits n) = n :=
  Nat.ofDigitChars_ten_toDigits

theorem digits_ne_nil (n : Nat) : digits n ≠ [] :=
  Nat.toDigits_ne_nil

theorem isDigit_of_mem_digits {n : Nat} {c : Char} (listed : c ∈ digits n) : c.isDigit = true :=
  Nat.isDigit_of_mem_toDigits (by decide) (by decide) listed

theorem digits_eq_cons (n : Nat) :
    ∃ first others, digits n = first :: others ∧ first.isDigit = true := by
  obtain ⟨first, others, shape⟩ := List.exists_cons_of_ne_nil (digits_ne_nil n)
  refine ⟨first, others, shape, isDigit_of_mem_digits (n := n) ?_⟩
  rw [shape]
  exact List.mem_cons_self

theorem head?_digits_ne_zero {n : Nat} (positive : 0 < n) : (digits n).head? ≠ some '0' := by
  induction n using Nat.strongRecOn with
  | ind n ih =>
      rw [digits, Nat.toDigits_eq_if (by decide)]
      split
      · next small =>
          have nonzero : ∀ digit < 10, 0 < digit → Nat.digitChar digit ≠ '0' := by decide
          rw [List.head?_cons]
          exact fun same => nonzero n small positive (Option.some.inj same)
      · obtain ⟨first, others, front⟩ := List.exists_cons_of_ne_nil (digits_ne_nil (n / 10))
        have nonzero := ih (n / 10) (by omega) (by omega)
        rw [digits] at front nonzero
        rw [front] at nonzero ⊢
        exact nonzero

/-- A text without one plus sign in front of it. -/
def dropPlus : List Char → List Char
  | '+' :: rest => rest
  | text => text

/-- Reads a number that was given by hand: at least one digit, at most 64 bits. -/
def parseWord? (text : List Char) : Option Nat :=
  let body := dropPlus text
  if !body.isEmpty && body.all Char.isDigit && digitsValue body ≤ maxWord then
    some (digitsValue body)
  else
    none

end SqlLint.Text
