import SqlLint.Json.Lexeme

/-!
# TOML strings

A basic string stands between double quotes and may have escapes, a literal string stands between
single quotes and has none. Three quotes on each side allow the string to have several lines: a
line break behind the opening quotes does not belong to it, and in a basic string a backslash at
the end of a line takes the break and the white space behind it away.
-/

set_option autoImplicit false

namespace SqlLint.Toml

/-- A character that may stand for itself: no control but the tabulator. -/
def isTextChar (c : Char) : Bool :=
  c == '\t' || (0x20 ≤ c.toNat && c.toNat != 0x7F)

def afterBreak? : List Char → Option (List Char)
  | '\n' :: rest => some rest
  | '\r' :: '\n' :: rest => some rest
  | _ => none

def isSpace (c : Char) : Bool :=
  c == ' ' || c == '\t'

def dropSpaces (text : List Char) : List Char :=
  text.dropWhile isSpace

def dropSpacesAndBreaks : List Char → List Char
  | ' ' :: rest => dropSpacesAndBreaks rest
  | '\t' :: rest => dropSpacesAndBreaks rest
  | '\n' :: rest => dropSpacesAndBreaks rest
  | '\r' :: '\n' :: rest => dropSpacesAndBreaks rest
  | text => text

/-- The escapes of one character. -/
def shortEscapes : List (Char × Char) :=
  [('b', '\x08'), ('t', '\t'), ('n', '\n'), ('f', '\x0c'), ('r', '\r'), ('e', '\x1b'),
    ('"', '"'), ('\\', '\\')]

/-- The escapes that are followed by hexadecimal digits, and by how many. -/
def codeEscapes : List (Char × Nat) :=
  [('x', 2), ('u', 4), ('U', 8)]

/-- The character with a code point, if there is one. -/
def charOfCode? (code : Nat) : Option Char :=
  if code.isValidChar then some (Char.ofNat code) else none

/-- Reads an escape behind its backslash. -/
def readEscape? : List Char → Option (Char × List Char)
  | [] => none
  | mark :: rest =>
      match shortEscapes.lookup mark with
      | some c => some (c, rest)
      | none =>
          match codeEscapes.lookup mark with
          | none => none
          | some count =>
              let digits := rest.take count
              if digits.length = count then
                ((Json.hexNumber? digits).bind charOfCode?).map (·, rest.drop count)
              else none

theorem length_readEscape?_lt {text rest : List Char} {c : Char}
    (read : readEscape? text = some (c, rest)) : rest.length < text.length := by
  unfold readEscape? at read
  split at read
  · simp at read
  · next mark others =>
      simp only [List.length_cons]
      split at read
      · simp only [Option.some.injEq, Prod.mk.injEq] at read
        obtain ⟨_, rfl⟩ := read
        omega
      · split at read
        · simp at read
        · simp only at read
          split at read
          · obtain ⟨found, _, same⟩ := Option.map_eq_some_iff.1 read
            simp only [Prod.mk.injEq] at same
            obtain ⟨_, rfl⟩ := same
            simp only [List.length_drop]
            omega
          · simp at read

/-- Reads a basic string behind its opening quote. -/
def readBasic? (text : List Char) : Option (List Char × List Char) :=
  match text with
  | [] => none
  | c :: rest =>
      if c = '"' then some ([], rest)
      else if c = '\\' then
        match _escape : readEscape? rest with
        | none => none
        | some (image, after) => (readBasic? after).map fun (body, left) => (image :: body, left)
      else if isTextChar c then
        (readBasic? rest).map fun (body, left) => (c :: body, left)
      else none
termination_by text.length
decreasing_by
  · have shorter := length_readEscape?_lt _escape
    simp only [List.length_cons]
    omega
  · simp

/-- Reads a literal string behind its opening quote. -/
def readLiteral? : List Char → Option (List Char × List Char)
  | [] => none
  | c :: rest =>
      if c = '\x27' then some ([], rest)
      else if isTextChar c then
        (readLiteral? rest).map fun (body, left) => (c :: body, left)
      else none

/-- The end of a string of several lines: three quotes, which up to two quotes of the string may
precede. -/
def closing? (quote : Char) (text : List Char) : Option (List Char × List Char) :=
  let quotes := (text.takeWhile (· == quote)).length
  if 3 ≤ quotes then
    let inside := min (quotes - 3) 2
    some (List.replicate inside quote, text.drop (inside + 3))
  else none

theorem length_dropSpacesAndBreaks_le (text : List Char) :
    (dropSpacesAndBreaks text).length ≤ text.length := by
  fun_induction dropSpacesAndBreaks text <;> simp_all <;> omega

theorem length_afterBreak?_lt {text rest : List Char} (found : afterBreak? text = some rest) :
    rest.length < text.length := by
  unfold afterBreak? at found
  split at found
  · simp only [Option.some.injEq] at found
    subst found
    simp
  · simp only [Option.some.injEq] at found
    subst found
    simp only [List.length_cons]
    omega
  · simp at found

theorem length_dropSpaces_le (text : List Char) : (dropSpaces text).length ≤ text.length :=
  (List.dropWhile_suffix isSpace).length_le

/-- The text behind a backslash at the end of a line, from the next character that is no white
space on. -/
def afterContinuation? (text : List Char) : Option (List Char) :=
  (afterBreak? (dropSpaces text)).map dropSpacesAndBreaks

theorem length_afterContinuation?_lt {text rest : List Char}
    (found : afterContinuation? text = some rest) : rest.length < text.length := by
  obtain ⟨after, broken, same⟩ := Option.map_eq_some_iff.1 found
  have first := length_afterBreak?_lt broken
  have second := length_dropSpaces_le text
  have third := length_dropSpacesAndBreaks_le after
  rw [same] at third
  omega

/-- Reads a character of a string of several lines that stands for itself; a line break may. -/
def readPlain? : List Char → Option (List Char × List Char)
  | '\n' :: rest => some (['\n'], rest)
  | '\r' :: '\n' :: rest => some (['\r', '\n'], rest)
  | c :: rest => if isTextChar c then some ([c], rest) else none
  | [] => none

theorem length_readPlain?_lt {text plain rest : List Char}
    (read : readPlain? text = some (plain, rest)) : rest.length < text.length := by
  unfold readPlain? at read
  split at read
  · simp only [Option.some.injEq, Prod.mk.injEq] at read
    obtain ⟨_, rfl⟩ := read
    simp
  · simp only [Option.some.injEq, Prod.mk.injEq] at read
    obtain ⟨_, rfl⟩ := read
    simp only [List.length_cons]
    omega
  · split at read
    · simp only [Option.some.injEq, Prod.mk.injEq] at read
      obtain ⟨_, rfl⟩ := read
      simp
    · simp at read
  · simp at read

/-- Reads the next part of a basic string of several lines. -/
def readPiece? : List Char → Option (List Char × List Char)
  | '\\' :: rest =>
      match afterContinuation? rest with
      | some after => some ([], after)
      | none => (readEscape? rest).map fun (image, after) => ([image], after)
  | text => readPlain? text

theorem length_readPiece?_lt {text piece rest : List Char}
    (read : readPiece? text = some (piece, rest)) : rest.length < text.length := by
  unfold readPiece? at read
  split at read
  · split at read
    · next found =>
        simp only [Option.some.injEq, Prod.mk.injEq] at read
        obtain ⟨_, rfl⟩ := read
        have shorter := length_afterContinuation?_lt found
        simp only [List.length_cons]
        omega
    · obtain ⟨⟨image, after⟩, escape, same⟩ := Option.map_eq_some_iff.1 read
      simp only [Prod.mk.injEq] at same
      obtain ⟨_, rfl⟩ := same
      have shorter := length_readEscape?_lt escape
      simp only [List.length_cons]
      omega
  · exact length_readPlain?_lt read

/-- Reads a basic string of several lines behind its opening quotes. -/
def readLongBasic? (text : List Char) : Option (List Char × List Char) :=
  match closing? '"' text with
  | some closed => some closed
  | none =>
      match _piece : readPiece? text with
      | none => none
      | some (piece, after) =>
          (readLongBasic? after).map fun (body, left) => (piece ++ body, left)
termination_by text.length
decreasing_by exact length_readPiece?_lt _piece

/-- Reads a literal string of several lines behind its opening quotes. -/
def readLongLiteral? (text : List Char) : Option (List Char × List Char) :=
  match closing? '\x27' text with
  | some closed => some closed
  | none =>
      match _plain : readPlain? text with
      | none => none
      | some (plain, after) =>
          (readLongLiteral? after).map fun (body, left) => (plain ++ body, left)
termination_by text.length
decreasing_by exact length_readPlain?_lt _plain

def dropBreak (text : List Char) : List Char :=
  (afterBreak? text).getD text

def readShortString? : List Char → Option (List Char × List Char)
  | '"' :: rest => readBasic? rest
  | '\x27' :: rest => readLiteral? rest
  | _ => none

def readString? : List Char → Option (List Char × List Char)
  | '"' :: '"' :: '"' :: rest => readLongBasic? (dropBreak rest)
  | '\x27' :: '\x27' :: '\x27' :: rest => readLongLiteral? (dropBreak rest)
  | text => readShortString? text

end SqlLint.Toml
