import SqlLint.Toml.Quoted
import SqlLint.Toml.Scalar
import SqlLint.Toml.Table

/-!
# TOML statements

A file is a sequence of statements, one to a line: headers, which open a table, and assignments of
a value to a key. Only values in brackets may take several lines, and they nest to a limited depth.
-/

set_option autoImplicit false

namespace SqlLint.Toml

inductive Statement
  | header (path : List String)
  /-- Opens one more table of an array of tables. -/
  | arrayHeader (path : List String)
  | assign (path : List String) (value : Value)

/-- Skips a comment behind its mark, up to the end of the line. -/
def skipComment? : List Char → Option (List Char)
  | [] => some []
  | c :: rest =>
      if isTextChar c then skipComment? rest
      else if (afterBreak? (c :: rest)).isSome then some (c :: rest)
      else none

/-- Skips what may stand behind a statement, with the line break or up to the end of the file. -/
def skipLineEnd? (text : List Char) : Option (List Char) :=
  match dropSpaces text with
  | [] => some []
  | '#' :: rest =>
      match skipComment? rest with
      | some [] => some []
      | some after => afterBreak? after
      | none => none
  | rest => afterBreak? rest

/-- Skips white space, line breaks and comments inside brackets. -/
def skipLayout? (inComment : Bool) : List Char → Option (List Char)
  | [] => some []
  | '\r' :: '\n' :: rest => skipLayout? false rest
  | c :: rest =>
      if c = '\n' then skipLayout? false rest
      else if inComment then if isTextChar c then skipLayout? true rest else none
      else if isSpace c then skipLayout? false rest
      else if c = '#' then skipLayout? true rest
      else some (c :: rest)

def isBareKeyChar (c : Char) : Bool :=
  c.isAlphanum || c == '_' || c == '-'

def readKeyPart? (text : List Char) : Option (String × List Char) :=
  match text.takeWhile isBareKeyChar with
  | [] => (readShortString? text).map fun (part, rest) => (String.ofList part, rest)
  | part => some (String.ofList part, text.dropWhile isBareKeyChar)

/-- Reads a key of at most `parts` parts with full stops between them. -/
def readKeyParts? : Nat → List Char → Option (List String × List Char)
  | 0, _ => none
  | parts + 1, text =>
      match readKeyPart? text with
      | none => none
      | some (part, after) =>
          match dropSpaces after with
          | '.' :: rest =>
              (readKeyParts? parts (dropSpaces rest)).map fun (others, left) =>
                (part :: others, left)
          | rest => some ([part], rest)

/-- Reads a key with the spaces around it. No key has more parts than the text has characters. -/
def readKey? (text : List Char) : Option (List String × List Char) :=
  readKeyParts? (text.length + 1) (dropSpaces text)

def readAssignment? (readValue : List Char → Option (Value × List Char)) (text : List Char) :
    Option ((List String × Value) × List Char) :=
  match readKey? text with
  | some (path, '=' :: rest) =>
      (readValue (dropSpaces rest)).map fun (value, left) => ((path, value), left)
  | _ => none

/-- Reads at most `count` items with commas between them, up to the closing bracket; a comma may
follow the last item. -/
def readItems? {Item : Type} (readItem : List Char → Option (Item × List Char)) (close : Char) :
    Nat → List Char → Option (List Item × List Char)
  | 0, _ => none
  | count + 1, text =>
      match skipLayout? false text with
      | none | some [] => none
      | some (c :: rest) =>
          if c = close then some ([], rest)
          else
            match readItem (c :: rest) with
            | none => none
            | some (item, after) =>
                match skipLayout? false after with
                | some (',' :: rest) =>
                    (readItems? readItem close count rest).map fun (items, left) =>
                      (item :: items, left)
                | some (c :: rest) => if c = close then some ([item], rest) else none
                | _ => none

/-- Reads a value in which brackets nest at most `depth` deep. -/
def readValue? : Nat → List Char → Option (Value × List Char)
  | depth, text =>
      match text with
      | '"' :: _ | '\x27' :: _ =>
          (readString? text).map fun (body, rest) => (.string (String.ofList body), rest)
      | '[' :: rest =>
          match depth with
          | 0 => none
          | depth + 1 =>
              (readItems? (readValue? depth) ']' (rest.length + 1) rest).map
                fun (elements, left) => (.array false elements, left)
      | '{' :: rest =>
          match depth with
          | 0 => none
          | depth + 1 =>
              match readItems? (readAssignment? (readValue? depth)) '}' (rest.length + 1) rest with
              | some (assignments, left) =>
                  (inlineEntries? assignments).map fun entries => (.table .inline entries, left)
              | none => none
      | _ => readScalar? text

/-- How deep brackets nest in a file. -/
def nestingLimit : Nat := 80

/-- Reads a header behind its opening brackets. -/
def readHeader? (close : List Char) (make : List String → Statement) (text : List Char) :
    Option (Statement × List Char) :=
  match readKey? text with
  | some (path, rest) => (Text.after? close rest).map (make path, ·)
  | none => none

/-- Reads a statement at the start of a line. -/
def readStatement? : List Char → Option (Statement × List Char)
  | '[' :: '[' :: rest => readHeader? [']', ']'] .arrayHeader rest
  | '[' :: rest => readHeader? [']'] .header rest
  | text =>
      (readAssignment? (readValue? nestingLimit) text).map fun ((path, value), rest) =>
        (.assign path value, rest)

/-- A line without a statement starts like this. -/
def startsEmptyLine : List Char → Bool
  | '#' :: _ => true
  | text => (afterBreak? text).isSome

/-- Reads at most `lines` lines. -/
def readStatements? : Nat → List Char → Option (List Statement)
  | 0, text => if text.isEmpty then some [] else none
  | lines + 1, text =>
      let text := dropSpaces text
      if text.isEmpty then some []
      else if startsEmptyLine text then (skipLineEnd? text).bind (readStatements? lines)
      else
        match readStatement? text with
        | none => none
        | some (statement, after) =>
            match skipLineEnd? after with
            | none => none
            | some rest => (readStatements? lines rest).map (statement :: ·)

/-- A file without the mark of its byte order. -/
def dropByteOrderMark : List Char → List Char
  | '\uFEFF' :: rest => rest
  | text => text

/-- The statements of a file. A file has no more lines than characters. -/
def statements? (text : String) : Option (List Statement) :=
  let text := dropByteOrderMark text.toList
  readStatements? text.length text

end SqlLint.Toml
