import SqlLint.Json.Record
import SqlLint.Settings

/-!
# Settings in JSON

Settings are written as records and can be read back. A setting that is left out has its default
value, and a list of settings may be cut short.
-/

set_option autoImplicit false

namespace SqlLint

def StarExpansion.ofJson? : Json → Option StarExpansion :=
  Json.choice? StarExpansion.all StarExpansion.name

def KeywordStyle.ofJson? : Json → Option KeywordStyle :=
  Json.choice? KeywordStyle.all KeywordStyle.name

def CommaPosition.ofJson? : Json → Option CommaPosition :=
  Json.choice? CommaPosition.all CommaPosition.name

namespace LexerSettings

def toJson (settings : LexerSettings) : Json :=
  .object
    [("star_expansion", .string settings.starExpansion.name),
      ("extra_keywords", Json.ofList .string settings.extraKeywords),
      ("keyword_style", .string settings.keywordStyle.name)]

def ofJson? (json : Json) : Option LexerSettings :=
  let default : LexerSettings := {}
  match json.looseFields? ["star_expansion", "extra_keywords", "keyword_style"] with
  | some [starExpansion, extraKeywords, keywordStyle] => do
      return ⟨← Json.orDefault StarExpansion.ofJson? default.starExpansion starExpansion,
        ← Json.orDefault (Json.list? Json.text?) default.extraKeywords extraKeywords,
        ← Json.orDefault KeywordStyle.ofJson? default.keywordStyle keywordStyle⟩
  | _ => none

end LexerSettings

namespace LintSettings

def toJson (settings : LintSettings) : Json :=
  .object
    [("comma_position", .string settings.commaPosition.name),
      ("keyword_style", .string settings.keywordStyle.name),
      ("indent_steps", .natural settings.indentSteps)]

def ofJson? (json : Json) : Option LintSettings :=
  let default : LintSettings := {}
  match json.looseFields? ["comma_position", "keyword_style", "indent_steps"] with
  | some [commaPosition, keywordStyle, indentSteps] => do
      return ⟨← Json.orDefault CommaPosition.ofJson? default.commaPosition commaPosition,
        ← Json.orDefault KeywordStyle.ofJson? default.keywordStyle keywordStyle,
        ← Json.orDefault Json.word? default.indentSteps indentSteps⟩
  | _ => none

end LintSettings

namespace LogSettings

def toJson (settings : LogSettings) : Json :=
  .object [("level", .string settings.level)]

def ofJson? (json : Json) : Option LogSettings :=
  match json.looseFields? ["level"] with
  | some [level] => (Json.orDefault Json.text? ({} : LogSettings).level level).map LogSettings.mk
  | _ => none

end LogSettings

namespace Settings

def toJson (settings : Settings) : Json :=
  .object
    [("lexer", settings.lexer.toJson), ("lint", settings.lint.toJson),
      ("logging", settings.logging.toJson)]

/-- Reads all settings, which are not validated. -/
def ofJson? (json : Json) : Option Settings :=
  match json.looseFields? ["lexer", "lint", "logging"] with
  | some [lexer, lint, logging] => do
      return ⟨← Json.orDefault LexerSettings.ofJson? {} lexer,
        ← Json.orDefault LintSettings.ofJson? {} lint,
        ← Json.orDefault LogSettings.ofJson? {} logging⟩
  | _ => none

end Settings

end SqlLint
