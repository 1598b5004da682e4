import SqlLint.Text.Blank
import SqlLint.Text.Word
import SqlLint.Keyword.Set

/-!
# Cuts

A lexical rule recognises a piece at the front of a text. The result is a `Cut`: the blanks (or
the comment text) before the body, the body, what belongs to it behind, and the rest of the text.
The functions here are the recognisers; each either refuses or cuts the text without losing a
character, and takes at least one.
-/

set_option autoImplicit false

namespace SqlLint

/-- A text cut into three groups and a rest. -/
structure Cut where
  lead : List Char
  body : List Char
  trail : List Char
  rest : List Char

namespace Cut

def taken (cut : Cut) : List Char :=
  cut.lead ++ cut.body ++ cut.trail

/-- A way to take a body off the front of a text. -/
abbrev Take := List Char → Option (List Char × List Char)

def takeChar (c : Char) : Take
  | [] => none
  | first :: rest => if first = c then some ([c], rest) else none

/-- Takes the characters of a class as far as they reach, and at least one. -/
def takeRun (member : Char → Bool) : Take := fun text =>
  match text.takeWhile member with
  | [] => none
  | run => some (run, text.dropWhile member)

/-- The part of the line before the last `quote`, and what follows that quote. -/
def splitLast? (quote : Char) : List Char → Option (List Char × List Char)
  | [] => none
  | c :: rest =>
      if c = '\n' then none
      else
        -- A quote further behind wins over this one.
        match splitLast? quote rest with
        | some (before, after) => some (c :: before, after)
        | none => if c = quote then some ([], rest) else none

def isQuote (c : Char) : Bool :=
  c == '"' || c == '\x27' || c == '\x60'

/-- Takes a literal: a quote, at least one character, and the last such quote of the line. -/
def takeQuoted : Take
  | [] => none
  | quote :: rest =>
      if isQuote quote then
        match splitLast? quote rest with
        | some (c :: before, after) => some (quote :: c :: before ++ [quote], after)
        | _ => none
      else none

def takeCommentMark : Take
  | '/' :: '*' :: rest => some (['/', '*'], rest)
  | _ => none

def startsLineComment : List Char → Bool
  | '#' :: _ => true
  | '-' :: '-' :: _ => true
  | _ => false

/-- Takes a comment that reaches up to the end of the line. -/
def takeLineComment : Take := fun text =>
  if startsLineComment text then
    some (text.takeWhile (· != '\n'), text.dropWhile (· != '\n'))
  else none

def isOperatorChar (c : Char) : Bool :=
  ['=', '<', '>', '!', '+', '-', '*', '/', '&', '|'].contains c

/-- The characters of identifiers: all but delimiters and blanks. -/
def isIdentifierChar (c : Char) : Bool :=
  !(c == ',' || c == '(' || c == ')' || c == '{' || c == '}' || c == '#' || Text.isBlank c)

/-- Blanks, a body and, with `trailing`, the blanks behind it. -/
def padded? (take : Take) (trailing : Bool) (text : List Char) : Option Cut :=
  (take (text.dropWhile Text.isBlank)).map fun (body, after) =>
    if trailing then
      ⟨text.takeWhile Text.isBlank, body, after.takeWhile Text.isBlank,
        after.dropWhile Text.isBlank⟩
    else
      ⟨text.takeWhile Text.isBlank, body, [], after⟩

/-- What a keyword takes behind it: an opening bracket or blanks, unless the text ends there. Any
other character refuses the keyword. -/
def keywordTail? : List Char → Option (List Char × List Char)
  | [] => some ([], [])
  | c :: rest =>
      if c = '(' then some ([c], rest)
      else if Text.isBlank c then
        some (c :: rest.takeWhile Text.isBlank, rest.dropWhile Text.isBlank)
      else none

/-- Blanks, a word of the set, and what a keyword takes behind it. -/
def keyword? (keywords : KeywordSet) (text : List Char) : Option Cut :=
  match takeRun Text.isWordChar (text.dropWhile Text.isBlank) with
  | none => none
  | some (word, after) =>
      match keywordTail? after with
      | none => none
      | some (trail, rest) =>
          -- Other words are left to the rules that come later.
          if keywords.contains (String.ofList word) then
            some ⟨text.takeWhile Text.isBlank, word, trail, rest⟩
          else none

/-- The part of the line before the first closing mark of a block comment, and what follows. -/
def splitCommentEnd? : List Char → Option (List Char × List Char)
  | [] => none
  | '*' :: '/' :: rest => some ([], rest)
  | c :: rest =>
      -- Behind a line feed the mark is not looked for, though `everything?` goes across it.
      if c = '\n' then none
      else (splitCommentEnd? rest).map fun (before, after) => (c :: before, after)

def commentEnd? (text : List Char) : Option Cut :=
  (splitCommentEnd? text).map fun (before, after) => ⟨before, ['*', '/'], [], after⟩

/-- The whole text, if there is any. -/
def everything? : List Char → Option Cut
  | [] => none
  | text => some ⟨[], text, [], []⟩

def blanks? (text : List Char) : Option Cut :=
  (takeRun Text.isBlank text).map fun (body, rest) => ⟨[], body, [], rest⟩

end Cut

end SqlLint
