/-!
# Entities

The editor writes `&`, `<` and `>` as entities. Decoding replaces one entity after the other, the
ampersand last, so that an ampersand that comes from an entity starts no new one.
-/

set_option autoImplicit false

namespace SqlLint.Markup

/-- Replaces every occurrence of `name`, from left to right. -/
def replaceAll (name : List Char) (image : Char) : List Char → List Char
  | [] => []
  | c :: rest =>
      if name.isPrefixOf (c :: rest) then
        image :: replaceAll name image (rest.drop (name.length - 1))
      else
        c :: replaceAll name image rest
termination_by text => text.length
decreasing_by all_goals simp only [List.length_drop, List.length_cons]; omega

def lessEntity : List Char := "&lt;".toList

def greaterEntity : List Char := "&gt;".toList

def ampersandEntity : List Char := "&amp;".toList

/-- The entity with which the editor fills an empty place. -/
def fillerEntity : List Char := "&nbsp;".toList

/-- The text that some escaped characters stand for. -/
def decodeChars (text : List Char) : List Char :=
  replaceAll ampersandEntity '&' (replaceAll greaterEntity '>' (replaceAll lessEntity '<' text))

/-- The text that an escaped text stands for. -/
def decodeEntities (text : String) : String :=
  String.ofList (decodeChars text.toList)

def escapeChar (c : Char) : List Char :=
  if c = '&' then ampersandEntity
  else if c = '<' then lessEntity
  else if c = '>' then greaterEntity
  else [c]

/-- How the editor writes a text. -/
def escape (text : List Char) : List Char :=
  text.flatMap escapeChar

end SqlLint.Markup
