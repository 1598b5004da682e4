/-!
# Lines

Two ways to cut a text into lines. An SQL text ends a line at each `\r\n`, `\n` or `\r`, and what
follows the last break is a line as well, an empty one included: `splitLines` makes the three cuts
one after the other, `scanLines` states the same rule as one pass from left to right. A file of
markup holds one fragment per line: a line ends at `\n`, loses one `\r` before it, and a final
break adds no line.
-/

set_option autoImplicit false

namespace SqlLint.Text

/-- Puts a character in front of the first line. -/
def consLine (c : Char) : List (List Char) → List (List Char)
  | [] => [[c]]
  | line :: lines => (c :: line) :: lines

/-- The parts of a text between the occurrences of one character. -/
def cutAt (separator : Char) : List Char → List (List Char)
  | [] => [[]]
  | c :: rest =>
      if c = separator then [] :: cutAt separator rest
      else consLine c (cutAt separator rest)

/-- The parts of a text between the occurrences of a carriage return with a line feed. -/
def cutAtReturnFeed : List Char → List (List Char)
  | [] => [[]]
  | '\r' :: '\n' :: rest => [] :: cutAtReturnFeed rest
  | c :: rest => consLine c (cutAtReturnFeed rest)

/-- The lines of an SQL text, as characters. -/
def splitLineChars (text : List Char) : List (List Char) :=
  ((cutAtReturnFeed text).flatMap (cutAt '\n')).flatMap (cutAt '\r')

/-- The lines of an SQL text: breaks are `\r\n`, `\n` and `\r`, and they separate lines. -/
def splitLines (text : String) : List String :=
  (splitLineChars text.toList).map String.ofList

/-- The lines of an SQL text by one pass from left to right, which takes `\r\n` as one break. -/
def scanLines : List Char → List (List Char)
  | [] => [[]]
  | '\r' :: '\n' :: rest => [] :: scanLines rest
  | '\r' :: rest => [] :: scanLines rest
  | '\n' :: rest => [] :: scanLines rest
  | c :: rest => consLine c (scanLines rest)

/-- A line without the carriage return at its end. -/
def dropReturn (line : List Char) : List Char :=
  if line.getLast? = some '\r' then line.dropLast else line

/-- The parts between line feeds, as lines: each but the last one was ended by a line feed and
loses a carriage return before it, and an empty last one is no line. -/
def endedLines : List (List Char) → List (List Char)
  | [] => []
  | [line] => if line.isEmpty then [] else [line]
  | line :: lines => dropReturn line :: endedLines lines

/-- The lines of a file in which every line is ended. -/
def fileLines (text : String) : List String :=
  (endedLines (cutAt '\n' text.toList)).map String.ofList

end SqlLint.Text
