import SqlLint.Markup.Entity
import SqlLint.Text.Blank
import SqlLint.Text.Front

/-!
# Extraction of the literal text

The editor wraps a part of a line into `<span class="…">…</span>`, leaves the rest as it is and
escapes `<`, `>` and `&`. A line of markup is read from left to right as a sequence of items: runs
of blanks, which belong to the text and are no token; fillers, which belong to neither; and tokens.
Reading stops where the markup has an opening angle bracket that starts no wrapper with a class.
-/

set_option autoImplicit false

namespace SqlLint.Markup

/-- How a piece of text was written in the markup. -/
inductive RawKind
  /-- A filler of an empty place. -/
  | newline
  /-- An escaped angle bracket. -/
  | inequality
  /-- The content of a wrapper with a class. -/
  | wrapped (className : String)
  /-- Text without a wrapper. -/
  | unknown
deriving DecidableEq

/-- A piece of text and how it was written. -/
structure RawToken where
  text : String
  kind : RawKind
deriving DecidableEq

inductive HaltKind
  | bareWrapper
  /-- An opening angle bracket that starts nothing known. -/
  | unmatched
deriving DecidableEq

/-- Where the reading of a line stopped. -/
structure Halt where
  kind : HaltKind
  /-- The place in the markup, in bytes. -/
  offset : Nat
  remainder : String
deriving DecidableEq

/-- What is read from a line of markup. -/
structure ExtractedLine where
  text : String
  rawTokens : List RawToken
  halt : Option Halt
deriving DecidableEq

def ExtractedLine.isComplete (line : ExtractedLine) : Bool :=
  line.halt.isNone

inductive Item
  | blanks (text : List Char)
  | filler
  | token (kind : RawKind) (text : List Char)

namespace Item

/-- What an item contributes to the text. -/
def literal : Item → List Char
  | blanks text => text
  | filler => []
  | token _ text => text

/-- The token of an item, if it is one. -/
def rawToken? : Item → Option RawToken
  | token kind text => some ⟨String.ofList text, kind⟩
  | _ => none

end Item

def wrapperOpening : List Char := "<span class=\"".toList

def wrapperClosing : List Char := "</span>".toList

/-- Reads a wrapper with a class: its class, its content as it is written, and the rest. No angle
bracket stands in the content. -/
def readWrapper? (text : List Char) : Option (List Char × List Char × List Char) := do
  let inside ← Text.after? wrapperOpening text
  let className := inside.takeWhile (· != '"')
  -- Whatever stands between the class and the end of the tag is skipped.
  let attributes ← Text.after? ['"'] (inside.dropWhile (· != '"'))
  let content ← Text.after? ['>'] (attributes.dropWhile (· != '>'))
  let rest ← Text.after? wrapperClosing (content.dropWhile (· != '<'))
  return (className, content.takeWhile (· != '<'), rest)

/-- The characters of a run of bare text. -/
def isBareChar (c : Char) : Bool :=
  !(c == '<' || c == '&' || Text.isBlank c)

/-- Reads an entity that stands for `image`. -/
def readEntity? (entity : List Char) (item : Item) (text : List Char) :
    Option (Item × List Char) :=
  (Text.after? entity text).map (item, ·)

/-- Reads a wrapper as a token. -/
def readWrapped? (text : List Char) : Option (Item × List Char) :=
  (readWrapper? text).map fun (className, content, rest) =>
    (.token (.wrapped (String.ofList className)) (decodeChars content), rest)

/-- Reads a run of characters of a class. -/
def readRun? (member : Char → Bool) (item : List Char → Item) (text : List Char) :
    Option (Item × List Char) :=
  match text.takeWhile member with
  | [] => none
  | run => some (item run, text.dropWhile member)

/-- The ways to read an item, in order of priority. -/
def readers : List (List Char → Option (Item × List Char)) :=
  [readRun? Text.isBlank .blanks,
    readEntity? fillerEntity .filler,
    readEntity? lessEntity (.token .inequality ['<']),
    readEntity? greaterEntity (.token .inequality ['>']),
    readWrapped?,
    readEntity? ampersandEntity (.token .unknown ['&']),
    readRun? isBareChar (.token .unknown),
    -- An ampersand that starts no entity stands for itself.
    readEntity? ['&'] (.token .unknown ['&'])]

def readItem? (text : List Char) : Option (Item × List Char) :=
  readers.findSome? (· text)

/-- A reader that leaves a shorter text. -/
def Shortens (reader : List Char → Option (Item × List Char)) : Prop :=
  ∀ text item rest, reader text = some (item, rest) → rest.length < text.length

theorem shortens_readRun? (member : Char → Bool) (item : List Char → Item) :
    Shortens (readRun? member item) := by
  intro text found rest read
  unfold readRun? at read
  split at read
  · simp at read
  · next nonempty =>
      simp only [Option.some.injEq, Prod.mk.injEq] at read
      obtain ⟨_, rfl⟩ := read
      have whole := congrArg List.length (List.takeWhile_append_dropWhile (p := member) (l := text))
      have positive := List.length_pos_iff.2 nonempty
      simp only [List.length_append] at whole
      omega

theorem shortens_readEntity? {entity : List Char} (nonempty : entity ≠ []) (item : Item) :
    Shortens (readEntity? entity item) := by
  intro text found rest read
  obtain ⟨after, follows, same⟩ := Option.map_eq_some_iff.1 read
  simp only [Prod.mk.injEq] at same
  obtain ⟨_, rfl⟩ := same
  have whole := congrArg List.length (Text.after?_eq_some_iff.1 follows)
  have positive := List.length_pos_iff.2 nonempty
  simp only [List.length_append] at whole
  omega

theorem length_dropWhile_le (member : Char → Bool) (text : List Char) :
    (text.dropWhile member).length ≤ text.length :=
  (List.dropWhile_suffix member).length_le

theorem length_readWrapper?_lt {text className content rest : List Char}
    (read : readWrapper? text = some (className, content, rest)) : rest.length < text.length := by
  simp only [readWrapper?, Option.bind_eq_bind, Option.bind_eq_some_iff, Option.pure_def,
    Option.some.injEq, Prod.mk.injEq] at read
  obtain ⟨inside, opening, attributes, quoted, inner, closing, after, ending, _, _, rfl⟩ := read
  have openingLength := congrArg List.length (Text.after?_eq_some_iff.1 opening)
  have quoteLength := congrArg List.length (Text.after?_eq_some_iff.1 quoted)
  have closingLength := congrArg List.length (Text.after?_eq_some_iff.1 closing)
  have endingLength := congrArg List.length (Text.after?_eq_some_iff.1 ending)
  have bound1 := length_dropWhile_le (· != '"') inside
  have bound2 := length_dropWhile_le (· != '>') attributes
  have bound3 := length_dropWhile_le (· != '<') inner
  simp only [List.length_append, List.length_cons, List.length_nil] at *
  omega

theorem shortens_readWrapped? : Shortens readWrapped? := by
  intro text item rest read
  obtain ⟨⟨className, content, after⟩, wrapper, same⟩ := Option.map_eq_some_iff.1 read
  simp only [Prod.mk.injEq] at same
  obtain ⟨_, rfl⟩ := same
  exact length_readWrapper?_lt wrapper

theorem shortens_readItem? : Shortens readItem? := by
  intro text item rest read
  obtain ⟨reader, listed, found⟩ := List.exists_of_findSome?_eq_some read
  simp only [readers, List.mem_cons, List.not_mem_nil, or_false] at listed
  rcases listed with rfl | rfl | rfl | rfl | rfl | rfl | rfl | rfl
  · exact shortens_readRun? _ _ _ _ _ found
  · exact shortens_readEntity? (by decide) _ _ _ _ found
  · exact shortens_readEntity? (by decide) _ _ _ _ found
  · exact shortens_readEntity? (by decide) _ _ _ _ found
  · exact shortens_readWrapped? _ _ _ found
  · exact shortens_readEntity? (by decide) _ _ _ _ found
  · exact shortens_readRun? _ _ _ _ _ found
  · exact shortens_readEntity? (by decide) _ _ _ _ found

/-- The items of a line of markup, and the remainder that starts no item. -/
def readItems (text : List Char) : List Item × List Char :=
  match _read : readItem? text with
  | none => ([], text)
  | some (item, rest) =>
      let (items, remainder) := readItems rest
      (item :: items, remainder)
termination_by text.length
decreasing_by exact shortens_readItem? _ _ _ _read

/-- How a wrapper starts, with a class or without. -/
def spanOpening : List Char := "<span".toList

/-- The halt in front of a remainder. -/
def Halt.ofRemainder? (markup : String) (remainder : List Char) : Option Halt :=
  if remainder.isEmpty then none
  else
    let text := String.ofList remainder
    let kind := if spanOpening.isPrefixOf remainder then .bareWrapper else .unmatched
    some ⟨kind, markup.utf8ByteSize - text.utf8ByteSize, text⟩

def extractLine (markup : String) : ExtractedLine :=
  let (items, remainder) := readItems markup.toList
  { text := String.ofList (items.flatMap Item.literal)
    rawTokens := items.filterMap Item.rawToken?
    halt := Halt.ofRemainder? markup remainder }

end SqlLint.Markup
