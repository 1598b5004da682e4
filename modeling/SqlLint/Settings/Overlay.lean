import SqlLint.Settings

/-!
# Overlays

A layer of settings that comes from the environment or from the command line. A value that a layer
gives wins over the layers below it, also where it is the default value; extra keywords are added
to those below, in order and each once.
-/

set_option autoImplicit false

namespace SqlLint

/-- The settings that a layer gives. -/
structure Overlay where
  starExpansion : Option StarExpansion := none
  keywordStyle : Option KeywordStyle := none
  extraKeywords : List String := []
  commaPosition : Option CommaPosition := none
  lintKeywordStyle : Option KeywordStyle := none
  indentSteps : Option Nat := none
  logLevel : Option String := none
deriving DecidableEq

/-- Adds a word at the end of a list that does not have it. -/
def addWord (words : List String) (word : String) : List String :=
  if words.contains word then words else words ++ [word]

def addWords (words added : List String) : List String :=
  added.foldl addWord words

def Settings.merge (settings : Settings) (overlay : Overlay) : Settings where
  lexer := {
    starExpansion := overlay.starExpansion.getD settings.lexer.starExpansion
    extraKeywords := addWords settings.lexer.extraKeywords overlay.extraKeywords
    keywordStyle := overlay.keywordStyle.getD settings.lexer.keywordStyle }
  lint := {
    commaPosition := overlay.commaPosition.getD settings.lint.commaPosition
    keywordStyle := overlay.lintKeywordStyle.getD settings.lint.keywordStyle
    indentSteps := overlay.indentSteps.getD settings.lint.indentSteps }
  logging := { level := overlay.logLevel.getD settings.logging.level }

/-- The variables of an environment with their values. -/
abbrev Environment := List (String × String)

/-- The value of a variable, read by a parser; a variable that is not set gives none. -/
def Environment.read {Value : Type} (environment : Environment) (name : String)
    (parse : String → Except Fault Value) : Except Fault (Option Value) :=
  match environment.lookup name with
  | none => .ok none
  | some text => (parse text).map some

/-- The overlay of an environment. The first variable with a fault decides the fault. -/
def Overlay.ofEnvironment (environment : Environment) : Except Fault Overlay := do
  let starExpansion ← environment.read "BQLEX_STAR_EXPANSION" StarExpansion.parse
  let keywordStyle ← environment.read "BQLEX_KEYWORD_STYLE" KeywordStyle.parse
  let commaPosition ← environment.read "BQLEX_COMMA_POSITION" CommaPosition.parse
  let indentSteps ← environment.read "BQLEX_INDENT_STEPS" parseIndentSteps
  let logLevel := environment.lookup "BQLEX_LOG_LEVEL"
  return { starExpansion, keywordStyle, commaPosition, indentSteps, logLevel }

/-- The default settings under the overlay of an environment. -/
def Settings.ofEnvironment (environment : Environment) : Except Fault Settings := do
  let overlay ← Overlay.ofEnvironment environment
  (({} : Settings).merge overlay).validate

end SqlLint
