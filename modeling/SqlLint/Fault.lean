import SqlLint.Token.Category

/-!
# Faults

A document never fails to be processed: what cannot be read is reported as a diagnostic. Faults
arise only from values given by hand, from settings and from files. A `Fault` is a cause, and its
wording is decided in one place.
-/

set_option autoImplicit false

namespace SqlLint

/-- Why a file could not be read or written. -/
inductive FileFault
  | notFound
  | isDirectory
  | notText
deriving DecidableEq

def FileFault.message : FileFault → String
  | notFound => "No such file or directory (os error 2)"
  | isDirectory => "Is a directory (os error 21)"
  | notText => "stream did not contain valid UTF-8"

/-- Why a value, a setting or a file was refused. -/
inductive Fault
  | unknownCategory (name : String)
  | emptyToken (category : TokenCategory)
  | unknownStarExpansion (text : String)
  | unknownKeywordStyle (text : String)
  | unknownCommaPosition (text : String)
  | indentStepsNotNumber (text : String)
  | emptyExtraKeyword
  | brokenExtraKeyword (word : String)
  | zeroIndentSteps
  | unknownLogLevel (level : String)
  | file (fault : FileFault)
  | malformedJson
  | malformedToml
deriving DecidableEq

inductive FaultKind
  | validation
  | configuration
  | file
  | json
  | toml
deriving DecidableEq

namespace Fault

def kind : Fault → FaultKind
  | unknownCategory _ | emptyToken _ | emptyExtraKeyword | brokenExtraKeyword _
  | zeroIndentSteps | unknownLogLevel _ => .validation
  | unknownStarExpansion _ | unknownKeywordStyle _ | unknownCommaPosition _
  | indentStepsNotNumber _ => .configuration
  | file _ => .file
  | malformedJson => .json
  | malformedToml => .toml

/-- What went wrong, without the family. -/
def detail : Fault → String
  | unknownCategory name => "Unknown token category: " ++ name
  | emptyToken category => category.name ++ " token requires a non-empty text span"
  | unknownStarExpansion text => "Unsupported star expansion policy: " ++ text
  | unknownKeywordStyle text => "Unsupported keyword style: " ++ text
  | unknownCommaPosition text => "Unsupported comma position: " ++ text
  | indentStepsNotNumber text => "Indent steps must be a number: " ++ text
  | emptyExtraKeyword => "Extra keyword cannot be empty"
  | brokenExtraKeyword word => "Extra keyword must be a single word of [A-Za-z0-9_]: " ++ word
  | zeroIndentSteps => "Indent steps must be greater than 0"
  | unknownLogLevel level => "Unknown log level: " ++ level
  | file fault => fault.message
  | malformedJson => "malformed JSON"
  | malformedToml => "malformed TOML"

end Fault

/-- How a family of faults is announced. -/
def FaultKind.heading : FaultKind → String
  | validation => "Validation error: "
  | configuration => "Configuration error: "
  | file => "I/O error: "
  | json => "Serialization error: "
  | toml => "TOML parse error: "

def Fault.message (fault : Fault) : String :=
  fault.kind.heading ++ fault.detail

end SqlLint
