import SqlLint.Settings
import SqlLint.Toml.Document
import SqlLint.Toml.Printer

/-!
# Settings files

Settings are kept in a TOML file with one table for each part. A table or a key that the file does
not have leaves the default, keys that are no setting are ignored, and the settings of a file are
validated before they are used.
-/

set_option autoImplicit false

namespace SqlLint

namespace Toml

namespace Value

/-- The values of some keys: those of a table, or those of a list in the order of the keys. A date
or a time counts as a table without any of them. -/
def looseFields? (keys : List String) : Value → Option (List (Option Value))
  | .table _ entries => some (keys.map fun key => entries.lookup key)
  | .array _ elements =>
      some ((List.range keys.length).map fun place => elements[place]?)
  | .moment => some (keys.map fun _ => none)
  | _ => none

def text? : Value → Option String
  | .string text => some text
  | _ => none

def word? : Value → Option Nat
  | .integer value => if 0 ≤ value ∧ value ≤ Text.maxWord then some value.toNat else none
  | _ => none

def texts? : Value → Option (List String)
  | .array _ elements => elements.mapM text?
  | _ => none

/-- A value without content. -/
def isEmpty : Value → Bool
  | .table _ [] => true
  | .array _ [] => true
  | _ => false

/-- The name of a choice: a text, or the only key of a table, which carries nothing. -/
def choiceName? : Value → Option String
  | .string name => some name
  | .table _ [(name, carried)] => if carried.isEmpty then some name else none
  | _ => none

/-- A choice by its canonical name. -/
def choice? {Choice : Type} (all : List Choice) (name : Choice → String) (value : Value) :
    Option Choice :=
  value.choiceName?.bind fun chosen => all.find? (name · == chosen)

end Value

/-- The value of a field that may be left out. -/
def orDefault {Setting : Type} (read : Value → Option Setting) (default : Setting) :
    Option Value → Option Setting
  | none => some default
  | some value => read value

end Toml

open Toml (Value orDefault)

def LexerSettings.ofToml? (value : Value) : Option LexerSettings :=
  let default : LexerSettings := {}
  match value.looseFields? ["star_expansion", "extra_keywords", "keyword_style"] with
  | some [starExpansion, extraKeywords, keywordStyle] => do
      return ⟨← orDefault (Value.choice? StarExpansion.all StarExpansion.name)
          default.starExpansion starExpansion,
        ← orDefault Value.texts? default.extraKeywords extraKeywords,
        ← orDefault (Value.choice? KeywordStyle.all KeywordStyle.name)
          default.keywordStyle keywordStyle⟩
  | _ => none

def LintSettings.ofToml? (value : Value) : Option LintSettings :=
  let default : LintSettings := {}
  match value.looseFields? ["comma_position", "keyword_style", "indent_steps"] with
  | some [commaPosition, keywordStyle, indentSteps] => do
      return ⟨← orDefault (Value.choice? CommaPosition.all CommaPosition.name)
          default.commaPosition commaPosition,
        ← orDefault (Value.choice? KeywordStyle.all KeywordStyle.name)
          default.keywordStyle keywordStyle,
        ← orDefault Value.word? default.indentSteps indentSteps⟩
  | _ => none

def LogSettings.ofToml? (value : Value) : Option LogSettings :=
  match value.looseFields? ["level"] with
  | some [level] => (orDefault Value.text? ({} : LogSettings).level level).map LogSettings.mk
  | _ => none

namespace Settings

/-- Reads all settings from the entries of a file. -/
def ofToml? (entries : Toml.Entries) : Option Settings := do
  return ⟨← orDefault LexerSettings.ofToml? {} (entries.lookup "lexer"),
    ← orDefault LintSettings.ofToml? {} (entries.lookup "lint"),
    ← orDefault LogSettings.ofToml? {} (entries.lookup "logging")⟩

/-- The settings of a file's text, validated. -/
def ofTomlText (text : String) : Except Fault Settings :=
  match (Toml.read? text).bind ofToml? with
  | some settings => settings.validate
  | none => .error .malformedToml

/-- The sections under which settings are written. -/
def sections (settings : Settings) : List Toml.Section :=
  [⟨"lexer",
      [("star_expansion", .text settings.lexer.starExpansion.name),
        ("extra_keywords", .texts settings.lexer.extraKeywords),
        ("keyword_style", .text settings.lexer.keywordStyle.name)]⟩,
    ⟨"lint",
      [("comma_position", .text settings.lint.commaPosition.name),
        ("keyword_style", .text settings.lint.keywordStyle.name),
        ("indent_steps", .number settings.lint.indentSteps)]⟩,
    ⟨"logging", [("level", .text settings.logging.level)]⟩]

def toTomlText (settings : Settings) : String :=
  Toml.print settings.sections

end Settings

end SqlLint
