import SqlLint.Text.Front
import SqlLint.Text.Natural

/-!
# JSON lexemes

The marks, numbers, texts and names of a JSON text, with the white space between them removed. A
text keeps its escaped characters as 16-bit units until `joinSurrogates?` puts pairs of surrogates
together; a surrogate without its partner makes the text stand for no string.
-/

set_option autoImplicit false

namespace SqlLint.Json

inductive Lexeme
  | openArray
  | closeArray
  | openObject
  | closeObject
  | comma
  | colon
  | null
  | bool (value : Bool)
  | natural (value : Nat)
  /-- A number that is not written as a natural number. -/
  | otherNumber
  /-- A text, or none if it has half a surrogate pair. -/
  | string (text : Option String)
deriving DecidableEq

def isSpace (c : Char) : Bool :=
  c == ' ' || c == '\t' || c == '\n' || c == '\r'

def hexValue? (c : Char) : Option Nat :=
  if c.isDigit then some (c.toNat - '0'.toNat)
  else if 'a' ≤ c ∧ c ≤ 'f' then some (c.toNat - 'a'.toNat + 10)
  else if 'A' ≤ c ∧ c ≤ 'F' then some (c.toNat - 'A'.toNat + 10)
  else none

def hexNumber? (digits : List Char) : Option Nat :=
  (digits.mapM hexValue?).map (·.foldl (fun value digit => 16 * value + digit) 0)

/-- The character that a short escape stands for. -/
def shortEscape? (c : Char) : Option Char :=
  [('"', '"'), ('\\', '\\'), ('/', '/'), ('b', '\x08'), ('f', '\x0c'), ('n', '\n'), ('r', '\r'),
    ('t', '\t')].lookup c

/-- Reads the units of a text up to its closing quote: the code points of its characters, and the
units of its numeric escapes. -/
def readUnits : List Char → Option (List Nat × List Char)
  | [] => none
  | '"' :: rest => some ([], rest)
  | '\\' :: 'u' :: d1 :: d2 :: d3 :: d4 :: rest =>
      match hexNumber? [d1, d2, d3, d4], readUnits rest with
      | some code, some (codes, after) => some (code :: codes, after)
      | _, _ => none
  | '\\' :: escape :: rest =>
      match shortEscape? escape, readUnits rest with
      | some c, some (codes, after) => some (c.toNat :: codes, after)
      | _, _ => none
  | c :: rest =>
      if c.toNat < 0x20 then none
      else (readUnits rest).map fun (codes, after) => (c.toNat :: codes, after)

/-- The first unit of a surrogate pair. -/
def isHighSurrogate (unit : Nat) : Bool :=
  0xD800 ≤ unit && unit < 0xDC00

/-- The second unit of a surrogate pair. -/
def isLowSurrogate (unit : Nat) : Bool :=
  0xDC00 ≤ unit && unit < 0xE000

/-- The characters of some units, if every surrogate has its partner. -/
def joinSurrogates? : List Nat → Option (List Char)
  | [] => some []
  | unit :: units =>
      if isHighSurrogate unit then
        match units with
        | low :: others =>
            if isLowSurrogate low then
              (joinSurrogates? others).map
                (Char.ofNat (0x10000 + (unit - 0xD800) * 0x400 + (low - 0xDC00)) :: ·)
            else none
        | [] => none
      else if isLowSurrogate unit then none
      else (joinSurrogates? units).map (Char.ofNat unit :: ·)

/-- Reads at least one digit. -/
def readDigits? (text : List Char) : Option (List Char × List Char) :=
  match text.takeWhile Char.isDigit with
  | [] => none
  | digits => some (digits, text.dropWhile Char.isDigit)

/-- Reads the whole part of a number, which has no leading zeros. -/
def readWhole? : List Char → Option (List Char × List Char)
  | '0' :: rest => some (['0'], rest)
  | text => readDigits? text

/-- Reads a fraction, if there is one; gives whether there was. -/
def readFraction? : List Char → Option (Bool × List Char)
  | '.' :: rest => (readDigits? rest).map fun (_, after) => (true, after)
  | text => some (false, text)

/-- A text without one sign in front of it. -/
def dropSign : List Char → List Char
  | '+' :: rest => rest
  | '-' :: rest => rest
  | text => text

/-- Reads an exponent, if there is one; gives whether there was. -/
def readExponent? : List Char → Option (Bool × List Char)
  | 'e' :: rest => (readDigits? (dropSign rest)).map fun (_, after) => (true, after)
  | 'E' :: rest => (readDigits? (dropSign rest)).map fun (_, after) => (true, after)
  | text => some (false, text)

def readNumber? (text : List Char) : Option (Lexeme × List Char) :=
  match readWhole? text with
  | none => none
  | some (whole, afterWhole) =>
      match readFraction? afterWhole with
      | none => none
      | some (fraction, afterFraction) =>
          match readExponent? afterFraction with
          | none => none
          | some (exponent, rest) =>
              let lexeme :=
                if fraction || exponent then .otherNumber else .natural (Text.digitsValue whole)
              some (lexeme, rest)

/-- Reads a text behind its opening quote. -/
def readString? (text : List Char) : Option (Lexeme × List Char) :=
  (readUnits text).map fun (units, rest) =>
    (.string ((joinSurrogates? units).map String.ofList), rest)

def readName? (name : List Char) (lexeme : Lexeme) (text : List Char) :
    Option (Lexeme × List Char) :=
  (Text.after? name text).map (lexeme, ·)

/-- The lexemes of a single character. -/
def marks : List (Char × Lexeme) :=
  [('[', .openArray), (']', .closeArray), ('{', .openObject), ('}', .closeObject), (',', .comma),
    (':', .colon)]

/-- Reads the lexeme at the front of a text. -/
def readLexeme? : List Char → Option (Lexeme × List Char)
  | [] => none
  | c :: rest =>
      match marks.lookup c with
      | some lexeme => some (lexeme, rest)
      | none =>
          if c = '"' then readString? rest
          else if c = 'n' then readName? "ull".toList .null rest
          else if c = 't' then readName? "rue".toList (.bool true) rest
          else if c = 'f' then readName? "alse".toList (.bool false) rest
          else if c = '-' then (readNumber? rest).map fun (_, after) => (.otherNumber, after)
          else readNumber? (c :: rest)

/-! ## Lexemes have at least one character -/

theorem length_readUnits_lt {text : List Char} {units : List Nat} {rest : List Char}
    (read : readUnits text = some (units, rest)) : rest.length < text.length := by
  fun_induction readUnits text generalizing units rest with
  | case1 => simp at read
  | case2 =>
      simp only [Option.some.injEq, Prod.mk.injEq] at read
      obtain ⟨_, rfl⟩ := read
      simp
  | case3 _ _ _ _ _ _ _ after further _ ih =>
      simp only [Option.some.injEq, Prod.mk.injEq] at read
      obtain ⟨_, rfl⟩ := read
      have shorter := ih further
      simp only [List.length_cons]
      omega
  | case4 => simp at read
  | case5 _ _ _ _ _ after further _ ih =>
      simp only [Option.some.injEq, Prod.mk.injEq] at read
      obtain ⟨_, rfl⟩ := read
      have shorter := ih further
      simp only [List.length_cons]
      omega
  | case6 => simp at read
  | case7 => simp at read
  | case8 _ _ _ _ _ _ ih =>
      obtain ⟨⟨codes, after⟩, further, same⟩ := Option.map_eq_some_iff.1 read
      simp only [Prod.mk.injEq] at same
      obtain ⟨_, rfl⟩ := same
      have shorter := ih further
      simp only [List.length_cons]
      omega

theorem length_readDigits?_lt {text digits rest : List Char}
    (read : readDigits? text = some (digits, rest)) : rest.length < text.length := by
  unfold readDigits? at read
  split at read
  · simp at read
  · next nonempty =>
      simp only [Option.some.injEq, Prod.mk.injEq] at read
      obtain ⟨_, rfl⟩ := read
      have whole := congrArg List.length
        (List.takeWhile_append_dropWhile (p := Char.isDigit) (l := text))
      have positive := List.length_pos_iff.2 nonempty
      simp only [List.length_append] at whole
      omega

theorem length_readWhole?_lt {text digits rest : List Char}
    (read : readWhole? text = some (digits, rest)) : rest.length < text.length := by
  unfold readWhole? at read
  split at read
  · simp only [Option.some.injEq, Prod.mk.injEq] at read
    obtain ⟨_, rfl⟩ := read
    simp
  · exact length_readDigits?_lt read

theorem length_readFraction?_le {text rest : List Char} {found : Bool}
    (read : readFraction? text = some (found, rest)) : rest.length ≤ text.length := by
  unfold readFraction? at read
  split at read
  · obtain ⟨⟨digits, after⟩, further, same⟩ := Option.map_eq_some_iff.1 read
    simp only [Prod.mk.injEq] at same
    obtain ⟨_, rfl⟩ := same
    have shorter := length_readDigits?_lt further
    simp only [List.length_cons]
    omega
  · simp only [Option.some.injEq, Prod.mk.injEq] at read
    obtain ⟨_, rfl⟩ := read
    exact Nat.le_refl _

theorem length_dropSign_le (text : List Char) : (dropSign text).length ≤ text.length := by
  unfold dropSign
  split <;> simp

theorem length_readExponent?_le {text rest : List Char} {found : Bool}
    (read : readExponent? text = some (found, rest)) : rest.length ≤ text.length := by
  have unsigned : ∀ {marked : List Char},
      (readDigits? (dropSign marked)).map (fun (_, after) => (true, after)) = some (found, rest) →
        rest.length ≤ marked.length + 1 := by
    intro marked read
    obtain ⟨⟨digits, after⟩, further, same⟩ := Option.map_eq_some_iff.1 read
    simp only [Prod.mk.injEq] at same
    obtain ⟨_, rfl⟩ := same
    have shorter := length_readDigits?_lt further
    have signless := length_dropSign_le marked
    omega
  unfold readExponent? at read
  split at read
  · exact unsigned read
  · exact unsigned read
  · simp only [Option.some.injEq, Prod.mk.injEq] at read
    obtain ⟨_, rfl⟩ := read
    exact Nat.le_refl _

theorem length_readNumber?_lt {text rest : List Char} {lexeme : Lexeme}
    (read : readNumber? text = some (lexeme, rest)) : rest.length < text.length := by
  unfold readNumber? at read
  split at read
  · simp at read
  · next whole =>
      split at read
      · simp at read
      · next fraction =>
          split at read
          · simp at read
          · next exponent =>
              simp only [Option.some.injEq, Prod.mk.injEq] at read
              obtain ⟨_, rfl⟩ := read
              have first := length_readWhole?_lt whole
              have second := length_readFraction?_le fraction
              have third := length_readExponent?_le exponent
              omega

theorem length_readName?_le {name text rest : List Char} {lexeme found : Lexeme}
    (read : readName? name lexeme text = some (found, rest)) : rest.length ≤ text.length := by
  obtain ⟨after, follows, same⟩ := Option.map_eq_some_iff.1 read
  simp only [Prod.mk.injEq] at same
  obtain ⟨_, rfl⟩ := same
  have whole := congrArg List.length (Text.after?_eq_some_iff.1 follows)
  simp only [List.length_append] at whole
  omega

theorem length_readLexeme?_lt {text rest : List Char} {lexeme : Lexeme}
    (read : readLexeme? text = some (lexeme, rest)) : rest.length < text.length := by
  unfold readLexeme? at read
  split at read
  · simp at read
  · next c others =>
      simp only [List.length_cons]
      split at read
      · simp only [Option.some.injEq, Prod.mk.injEq] at read
        obtain ⟨_, rfl⟩ := read
        omega
      · split at read
        · obtain ⟨⟨units, after⟩, further, same⟩ := Option.map_eq_some_iff.1 read
          simp only [Prod.mk.injEq] at same
          obtain ⟨_, rfl⟩ := same
          have shorter := length_readUnits_lt further
          omega
        · split at read
          · have shorter := length_readName?_le read
            omega
          · split at read
            · have shorter := length_readName?_le read
              omega
            · split at read
              · have shorter := length_readName?_le read
                omega
              · split at read
                · obtain ⟨⟨number, after⟩, further, same⟩ := Option.map_eq_some_iff.1 read
                  simp only [Prod.mk.injEq] at same
                  obtain ⟨_, rfl⟩ := same
                  have shorter := length_readNumber?_lt further
                  omega
                · exact length_readNumber?_lt read

/-- The lexemes of a text, or none if some part of it is no lexeme. -/
def lexemes (text : List Char) : Option (List Lexeme) :=
  match _start : text.dropWhile isSpace with
  | [] => some []
  | c :: others =>
      match _read : readLexeme? (c :: others) with
      | none => none
      | some (lexeme, rest) => (lexemes rest).map (lexeme :: ·)
termination_by text.length
decreasing_by
  have shorter := length_readLexeme?_lt _read
  have spaces := (List.dropWhile_suffix (l := text) isSpace).length_le
  rw [_start] at spaces
  omega

end SqlLint.Json
