import SqlLint.Lexer.Cut

/-!
# Character classes

Which of the classes of characters that the rules ask for exclude each other.  Word characters are
ASCII letters, digits and the underscore: they are no blanks, quotes or operators, and identifiers
may hold them.  Blanks belong to no other class.
-/

set_option autoImplicit false

namespace SqlLint

namespace Text

theorem ne_of_class {member : Char → Bool} {c other : Char} (inside : member c = true)
    (outside : member other = false) : c ≠ other := by
  rintro rfl
  exact Bool.false_ne_true (outside.symm.trans inside)

theorem forall_mem_outside {member : Char → Bool} {signs : List Char}
    (none : signs.any member = false) : ∀ sign ∈ signs, member sign = false := by
  rw [List.any_eq_false] at none
  exact fun sign listed => Bool.eq_false_iff.2 (none sign listed)

theorem toList_upperAscii (text : String) :
    (upperAscii text).toList = text.toList.map Char.toUpper := by
  rw [upperAscii, String.toList_map]

theorem sameWord_iff_toList {left right : String} :
    sameWord left right = true ↔ left.toList.map Char.toUpper = right.toList.map Char.toUpper := by
  rw [sameWord_iff, ← String.toList_inj, toList_upperAscii, toList_upperAscii]

theorem sameWord_eq_false_iff {left right : String} :
    sameWord left right = false ↔
      left.toList.map Char.toUpper ≠ right.toList.map Char.toUpper := by
  rw [Bool.eq_false_iff, ne_eq, sameWord_iff_toList]

theorem isWordChar_iff {c : Char} :
    isWordChar c = true ↔
      (48 ≤ c.toNat ∧ c.toNat ≤ 57) ∨ (65 ≤ c.toNat ∧ c.toNat ≤ 90) ∨ c.toNat = 95 ∨
        (97 ≤ c.toNat ∧ c.toNat ≤ 122) := by
  have underscore : c = '_' ↔ c.toNat = 95 := by
    rw [← Char.toNat_inj]
    rfl
  have upper : c.isUpper = true ↔ 65 ≤ c.toNat ∧ c.toNat ≤ 90 := decide_eq_true_iff
  have lower : c.isLower = true ↔ 97 ≤ c.toNat ∧ c.toNat ≤ 122 :=
    Bool.and_eq_true_iff.trans (and_congr decide_eq_true_iff decide_eq_true_iff)
  have digit : c.isDigit = true ↔ 48 ≤ c.toNat ∧ c.toNat ≤ 57 :=
    Bool.and_eq_true_iff.trans (and_congr decide_eq_true_iff decide_eq_true_iff)
  have classes : isWordChar c = (((c.isUpper || c.isLower) || c.isDigit) || c == '_') := rfl
  rw [classes, Bool.or_eq_true, Bool.or_eq_true, Bool.or_eq_true, upper, lower, digit, beq_iff_eq,
    underscore]
  omega

theorem isBlank_of_isWordChar {c : Char} (word : isWordChar c = true) : isBlank c = false := by
  rw [isWordChar_iff] at word
  simp only [isBlank, Bool.or_eq_false_iff, Bool.and_eq_false_iff, decide_eq_false_iff_not,
    beq_eq_false_iff_ne]
  omega

theorem isWordChar_of_isBlank {c : Char} (blank : isBlank c = true) : isWordChar c = false := by
  cases word : isWordChar c with
  | false => rfl
  | true =>
      rw [isBlank_of_isWordChar word] at blank
      contradiction

theorem ne_of_isWordChar {c other : Char} (word : isWordChar c = true)
    (noWord : isWordChar other = false) : c ≠ other :=
  ne_of_class word noWord

theorem ne_of_isBlank {c other : Char} (blank : isBlank c = true)
    (noBlank : isBlank other = false) : c ≠ other :=
  ne_of_class blank noBlank

end Text

theorem isBuiltin_of_upper {word : String} (upper : word.toList.map Char.toUpper = word.toList)
    (listed : Keyword.builtin.contains word = true) : Keyword.isBuiltin word = true := by
  have unchanged : Text.upperAscii word = word := by
    rw [← String.toList_inj, Text.toList_upperAscii, upper]
  rw [Keyword.isBuiltin, unchanged]
  exact listed

namespace Cut

/-- A character of a class that holds no operator is none. -/
theorem isOperatorChar_eq_false {member : Char → Bool} {c : Char} (inClass : member c = true)
    (noOperator : ['=', '<', '>', '!', '+', '-', '*', '/', '&', '|'].any member = false) :
    isOperatorChar c = false := by
  rw [Bool.eq_false_iff]
  intro operator
  rw [isOperatorChar, List.contains_iff_mem] at operator
  exact List.any_eq_false.1 noOperator c operator inClass

theorem isOperatorChar_of_isBlank {c : Char} (blank : Text.isBlank c = true) :
    isOperatorChar c = false :=
  isOperatorChar_eq_false blank (by decide)

theorem isOperatorChar_of_isWordChar {c : Char} (word : Text.isWordChar c = true) :
    isOperatorChar c = false :=
  isOperatorChar_eq_false word (by decide)

theorem isIdentifierChar_of_isBlank {c : Char} (blank : Text.isBlank c = true) :
    isIdentifierChar c = false := by
  simp [isIdentifierChar, blank]

theorem isIdentifierChar_of_isWordChar {c : Char} (word : Text.isWordChar c = true) :
    isIdentifierChar c = true := by
  have noWord : ∀ d ∈ [',', '(', ')', '{', '}', '#'], Text.isWordChar d = false :=
    Text.forall_mem_outside (by decide)
  have delimiters : ∀ d ∈ [',', '(', ')', '{', '}', '#'], c ≠ d := fun d listed =>
    Text.ne_of_isWordChar word (noWord d listed)
  simp only [List.mem_cons, List.not_mem_nil, or_false, forall_eq_or_imp, forall_eq] at delimiters
  simp [isIdentifierChar, delimiters, Text.isBlank_of_isWordChar word]

theorem isQuote_of_isBlank {c : Char} (blank : Text.isBlank c = true) : isQuote c = false := by
  simp only [isQuote, Bool.or_eq_false_iff, beq_eq_false_iff_ne]
  exact ⟨⟨Text.ne_of_isBlank blank (by decide), Text.ne_of_isBlank blank (by decide)⟩,
    Text.ne_of_isBlank blank (by decide)⟩

theorem isQuote_of_isWordChar {c : Char} (word : Text.isWordChar c = true) :
    isQuote c = false := by
  simp only [isQuote, Bool.or_eq_false_iff, beq_eq_false_iff_ne]
  exact ⟨⟨Text.ne_of_isWordChar word (by decide), Text.ne_of_isWordChar word (by decide)⟩,
    Text.ne_of_isWordChar word (by decide)⟩

end Cut

end SqlLint
