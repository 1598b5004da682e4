import SqlLint.Keyword.Words
import SqlLint.Text.Word

/-!
# Keyword sets

A keyword set holds the built-in keywords and the extra words of a setting. Words are looked up
without regard to ASCII letter case; `listing` writes the members of the set in upper case, in
increasing order and each once.
-/

set_option autoImplicit false

namespace SqlLint

namespace Keyword

/-- A word is a built-in keyword, in any letter case. -/
def isBuiltin (word : String) : Bool :=
  builtin.contains (Text.upperAscii word)

/-- Puts a word into its place in an increasing list, unless it is there already. -/
def insertWord (word : String) : List String → List String
  | [] => [word]
  | first :: rest =>
      if word = first then first :: rest
      else if word < first then word :: first :: rest
      else first :: insertWord word rest

end Keyword

structure KeywordSet where
  extra : List String

namespace KeywordSet

/-- The set with the given extra words, in any letter case. -/
def withExtra (extra : List String) : KeywordSet :=
  ⟨extra.map Text.upperAscii⟩

/-- A word is in the set, in any letter case. -/
def contains (set : KeywordSet) (word : String) : Bool :=
  Keyword.isBuiltin word || set.extra.contains (Text.upperAscii word)

def listing (set : KeywordSet) : List String :=
  (Keyword.builtin ++ set.extra).foldr Keyword.insertWord []

end KeywordSet

end SqlLint
