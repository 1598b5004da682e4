import SqlLint.Settings.Choice
import SqlLint.Text.Blank
import SqlLint.Text.Natural
import SqlLint.Text.Word

/-!
# Settings

What a user can set: how the lexer works, what the style check asks for and how much is logged.
Settings that come from a file or from several layers are accepted only if `validate` finds no
fault in them.
-/

set_option autoImplicit false

namespace SqlLint

structure LexerSettings where
  starExpansion : StarExpansion := .anywhere
  /-- Words that are keywords besides the built-in ones. -/
  extraKeywords : List String := []
  /-- The letter case in which keywords are shown. -/
  keywordStyle : KeywordStyle := .preserve
deriving DecidableEq

structure LintSettings where
  /-- Where a comma outside brackets belongs. -/
  commaPosition : CommaPosition := .atEnd
  /-- The letter case that keywords must have; `preserve` asks for none. -/
  keywordStyle : KeywordStyle := .lower
  /-- The number of blanks of which an indentation must be a multiple. -/
  indentSteps : Nat := 4
deriving DecidableEq

structure LogSettings where
  level : String := "warn"
deriving DecidableEq

structure Settings where
  lexer : LexerSettings := {}
  lint : LintSettings := {}
  logging : LogSettings := {}
deriving DecidableEq

/-- Reads a number of indentation steps given by hand; blanks around it do not matter. -/
def parseIndentSteps (text : String) : Except Fault Nat :=
  match Text.parseWord? (Text.trim text.toList) with
  | some steps => .ok steps
  | none => .error (.indentStepsNotNumber text)

def logLevels : List String :=
  ["off", "error", "warn", "info", "debug", "trace"]

/-- The fault of an extra keyword, if it has one. -/
def extraKeywordFault? (word : String) : Option Fault :=
  if word.isEmpty then some .emptyExtraKeyword
  else if word.toList.all Text.isWordChar then none
  else some (.brokenExtraKeyword word)

namespace Settings

/-- The first fault of some settings: of an extra keyword, of the indentation steps, or of the
log level. -/
def fault? (settings : Settings) : Option Fault :=
  match settings.lexer.extraKeywords.findSome? extraKeywordFault? with
  | some fault => some fault
  | none =>
      if settings.lint.indentSteps = 0 then some .zeroIndentSteps
      else if logLevels.contains (Text.lower settings.logging.level) then none
      else some (.unknownLogLevel settings.logging.level)

def validate (settings : Settings) : Except Fault Settings :=
  match settings.fault? with
  | some fault => .error fault
  | none => .ok settings

end Settings

end SqlLint
