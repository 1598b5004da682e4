import SqlLint.Fault
import SqlLint.Text.Case

/-!
# Choices

The settings that are chosen from a list of names. Each has a canonical name, under which it is
written, and names under which it may be given by hand, in any letter case.
-/

set_option autoImplicit false

namespace SqlLint

/-- Where an asterisk in a select list is a keyword and not the operator of multiplication. -/
inductive StarExpansion
  /-- Everywhere in the list. -/
  | anywhere
  /-- Only where a column is expected. -/
  | selectTarget
deriving DecidableEq

inductive KeywordStyle
  | preserve
  | lower
  | upper
  /-- The first letter in upper case, the others in lower case. -/
  | capitalize
deriving DecidableEq

/-- Where a comma stands when a list takes several lines. -/
inductive CommaPosition
  | atEnd
  | atHead
deriving DecidableEq

/-- The value that a name given by hand stands for. -/
def chooseByName {Choice : Type} (names : List (String × Choice)) (refusal : String → Fault)
    (text : String) : Except Fault Choice :=
  match names.lookup (Text.lower text) with
  | some choice => .ok choice
  | none => .error (refusal text)

namespace StarExpansion

def name : StarExpansion → String
  | anywhere => "anywhere"
  | selectTarget => "select_target"

def all : List StarExpansion := [anywhere, selectTarget]

def parse : String → Except Fault StarExpansion :=
  chooseByName
    [("anywhere", anywhere), ("select_target", selectTarget), ("select-target", selectTarget)]
    .unknownStarExpansion

end StarExpansion

namespace KeywordStyle

def name : KeywordStyle → String
  | preserve => "preserve"
  | lower => "lower"
  | upper => "upper"
  | capitalize => "capitalize"

def all : List KeywordStyle := [preserve, lower, upper, capitalize]

def parse : String → Except Fault KeywordStyle :=
  chooseByName
    [("preserve", preserve), ("lower", lower), ("upper", upper), ("upper-all", upper),
      ("capitalize", capitalize), ("upper-head", capitalize)]
    .unknownKeywordStyle

def format (style : KeywordStyle) (word : String) : String :=
  match style with
  | preserve => word
  | lower => Text.lower word
  | upper => Text.upper word
  | capitalize => Text.capitalize word

end KeywordStyle

namespace CommaPosition

def name : CommaPosition → String
  | atEnd => "end"
  | atHead => "head"

def all : List CommaPosition := [atEnd, atHead]

def parse : String → Except Fault CommaPosition :=
  chooseByName [("end", atEnd), ("head", atHead)] .unknownCommaPosition

end CommaPosition

end SqlLint
