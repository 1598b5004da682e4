import SqlLint.Json.Lexeme
import SqlLint.Json.Value

/-!
# Reading JSON

A value is read lexeme by lexeme. What is read so far is a stack of unfinished arrays and objects,
and the mode says what may come next. The reader accepts a text that is one value.
-/

set_option autoImplicit false

namespace SqlLint.Json

/-- An unfinished array or object; what it has so far comes last first. -/
inductive Frame
  | array (done : List Json)
  | object (done : List (Option String × Json))
  /-- An object in which the value of a key is being read. -/
  | member (done : List (Option String × Json)) (key : Option String)

inductive Mode
  | value
  /-- The first element of an array, or its end. -/
  | elementOrEnd
  | key
  /-- The first key of an object, or its end. -/
  | keyOrEnd
  | colon
  /-- A value is complete; what follows it is up to the frame that it stands in. -/
  | complete (value : Json)

/-- The object with the given members, if each key is a text. -/
def ofMembers (members : List (Option String × Json)) : Json :=
  match members.mapM fun (key, value) => key.map (·, value) with
  | some members => .object members
  | none => .other

def beginValue (frames : List Frame) : Lexeme → Option (Mode × List Frame)
  | .null => some (.complete .null, frames)
  | .bool value => some (.complete (.bool value), frames)
  | .natural value => some (.complete (.natural value), frames)
  | .otherNumber => some (.complete .other, frames)
  | .string (some text) => some (.complete (.string text), frames)
  | .string none => some (.complete .other, frames)
  | .openArray => some (.elementOrEnd, .array [] :: frames)
  | .openObject => some (.keyOrEnd, .object [] :: frames)
  | _ => none

def afterValue (value : Json) : List Frame → Lexeme → Option (Mode × List Frame)
  | .array done :: frames, .comma => some (.value, .array (value :: done) :: frames)
  | .array done :: frames, .closeArray =>
      some (.complete (.array (value :: done).reverse), frames)
  | .member done key :: frames, .comma => some (.key, .object ((key, value) :: done) :: frames)
  | .member done key :: frames, .closeObject =>
      some (.complete (ofMembers ((key, value) :: done).reverse), frames)
  | _, _ => none

def readKey : List Frame → Lexeme → Option (Mode × List Frame)
  | .object done :: frames, .string key => some (.colon, .member done key :: frames)
  | _, _ => none

def step (mode : Mode) (frames : List Frame) (lexeme : Lexeme) : Option (Mode × List Frame) :=
  match mode with
  | .value => beginValue frames lexeme
  -- Only an array without elements may end here: behind a comma an element must follow.
  | .elementOrEnd =>
      match frames, lexeme with
      | .array [] :: outer, .closeArray => some (.complete (.array []), outer)
      | _, _ => beginValue frames lexeme
  | .key => readKey frames lexeme
  | .keyOrEnd =>
      match frames, lexeme with
      | .object [] :: outer, .closeObject => some (.complete (.object []), outer)
      | _, _ => readKey frames lexeme
  | .colon => if lexeme = .colon then some (.value, frames) else none
  | .complete value => afterValue value frames lexeme

/-- Reads lexemes to their end, where one value must be complete. -/
def run (mode : Mode) (frames : List Frame) : List Lexeme → Option Json
  | [] =>
      match mode, frames with
      | .complete value, [] => some value
      | _, _ => none
  | lexeme :: lexemes =>
      match step mode frames lexeme with
      | some (next, outer) => run next outer lexemes
      | none => none

/-- Reads a text that is one value. -/
def read? (text : String) : Option Json :=
  (lexemes text.toList).bind (run .value [])

end SqlLint.Json
