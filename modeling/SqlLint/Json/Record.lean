import SqlLint.Fault
import SqlLint.Json.Reader
import SqlLint.Text.Natural

/-!
# Records in JSON

How records, choices and scalars are read from a JSON value. A record is an object, whose members
may stand in any order and among members that it does not know, or an array of all its fields in
order. A key of the record may not occur twice. A choice is the name of one of its alternatives,
or an object with that name as its only key.
-/

set_option autoImplicit false

namespace SqlLint.Json

def text? : Json → Option String
  | .string text => some text
  | _ => none

def bool? : Json → Option Bool
  | .bool value => some value
  | _ => none

def word? : Json → Option Nat
  | .natural value => if value ≤ Text.maxWord then some value else none
  | _ => none

/-- A list of values that `read` reads. -/
def list? {Value : Type} (read : Json → Option Value) : Json → Option (List Value)
  | .array elements => elements.mapM read
  | _ => none

/-- A value that may be absent. -/
def optional? {Value : Type} (read : Json → Option Value) : Json → Option (Option Value)
  | .null => some none
  | json => (read json).map some

/-- A field of a record: its key and the value that stands for it if the key does not occur. -/
structure Field where
  key : String
  absent : Option Json

namespace Field

def required (key : String) : Field :=
  ⟨key, none⟩

def optional (key : String) : Field :=
  ⟨key, some .null⟩

end Field

/-- The value of a key, if it occurs; fails if it occurs twice. -/
def member? (members : List (String × Json)) (key : String) : Option (Option Json) :=
  match members.filter (·.1 == key) with
  | [] => some none
  | [(_, value)] => some (some value)
  | _ => none

/-- The value of a field among the members of an object. -/
def fieldOf? (members : List (String × Json)) (field : Field) : Option Json :=
  (member? members field.key).bind (·.or field.absent)

def fields? (fields : List Field) : Json → Option (List Json)
  | .object members => fields.mapM (fieldOf? members)
  | .array elements => if elements.length = fields.length then some elements else none
  | _ => none

/-- The fields of a record in which every field may be left out. -/
def looseFields? (keys : List String) : Json → Option (List (Option Json))
  | .object members => keys.mapM (member? members)
  | .array elements =>
      if elements.length ≤ keys.length then
        some (elements.map some ++ List.replicate (keys.length - elements.length) none)
      else none
  | _ => none

/-- The value of a field that may be left out. -/
def orDefault {Value : Type} (read : Json → Option Value) (default : Value) :
    Option Json → Option Value
  | none => some default
  | some json => read json

/-- The name of the chosen alternative and what it carries. -/
def alternative? : Json → Option (String × Option Json)
  | .string name => some (name, none)
  | .object [(name, carried)] => some (name, some carried)
  | _ => none

/-- An alternative that carries nothing carries nothing or null. -/
def carriesNothing : Option Json → Bool
  | none => true
  | some .null => true
  | _ => false

/-- A choice among alternatives that carry nothing. -/
def choice? {Choice : Type} (all : List Choice) (name : Choice → String) (json : Json) :
    Option Choice :=
  match json.alternative? with
  | some (chosen, carried) => if carriesNothing carried then all.find? (name · == chosen) else none
  | none => none

/-- Reads a text that is one value of the form that `read` reads. -/
def parseAs {Value : Type} (read : Json → Option Value) (text : String) : Except Fault Value :=
  match (read? text).bind read with
  | some value => .ok value
  | none => .error .malformedJson

/-- The value of an alternative that carries a record. -/
def tagged (name : String) (members : List (String × Json)) : Json :=
  .object [(name, .object members)]

/-- A value that may be absent, written as null. -/
def ofOptional {Value : Type} (write : Value → Json) : Option Value → Json
  | none => .null
  | some value => write value

def ofList {Value : Type} (write : Value → Json) (values : List Value) : Json :=
  .array (values.map write)

end SqlLint.Json
