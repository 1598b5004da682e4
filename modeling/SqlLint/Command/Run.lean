import SqlLint.Command.Invocation
import SqlLint.Document.Run
import SqlLint.Settings.File
import SqlLint.Style.Checker

/-!
# Running commands

A command reads its settings in layers, from the settings file, the environment and the options,
and then its input. Its result is an exit code and what it prints.
-/

set_option autoImplicit false

namespace SqlLint.Command

/-- What a command line is run in. -/
structure Surroundings where
  directory : Directory
  environment : Environment
  standardInput : ByteArray

/-- What a command leaves behind. -/
structure Outcome where
  exitCode : Nat
  output : String
deriving DecidableEq

/-- The settings file that is read if no other is named. -/
def defaultSettingsFile : String := "bqlex.toml"

/-- The exit code if lines could not be read and that matters. -/
def strictExitCode : Nat := 2

/-- The exit code if the style check objects to something. -/
def violationExitCode : Nat := 1

def SourceKind.report (kind : SourceKind) (settings : Settings) (source : String) :
    DocumentReport :=
  let table := RuleTable.ofSettings settings.lexer
  match kind with
  | .markup => DocumentReport.ofMarkupFile table source
  | .sql => DocumentReport.ofText table source

namespace Surroundings

/-- The text of an input: of a file, or of the standard input if none is named. -/
def readInput (surroundings : Surroundings) : Option String → Except Fault String
  | some path => surroundings.directory.readText path
  | none => (Directory.decode surroundings.standardInput).mapError .file

end Surroundings

namespace Invocation

/-- The settings of the file that the invocation names. Without one, the default file counts if
it is there. -/
def fileSettings (invocation : Invocation) (directory : Directory) : Except Fault Settings :=
  match invocation.settingsFile with
  | some path => Settings.load directory path
  | none =>
      if directory.holds defaultSettingsFile then Settings.load directory defaultSettingsFile
      else .ok {}

/-- The input that an invocation names, if it reads one at all. -/
def input? (invocation : Invocation) : Option (Option String) :=
  match invocation.task with
  | .lex _ options => some options.input
  | .check options => some options.input
  | .keywords | .settings => none

def paths (invocation : Invocation) : List String :=
  invocation.settingsFile.getD defaultSettingsFile :: (invocation.input?.bind id).toList

def readsStandardInput (invocation : Invocation) : Bool :=
  invocation.input? == some none

/-- The settings of an invocation: the file, under the environment, under the options. -/
def settings (invocation : Invocation) (surroundings : Surroundings) : Except Fault Settings := do
  let file ← invocation.fileSettings surroundings.directory
  let environment ← Overlay.ofEnvironment surroundings.environment
  ((file.merge environment).merge invocation.overlay).validate

def executeLex (source : SourceKind) (options : LexOptions) (settings : Settings)
    (surroundings : Surroundings) : Except Fault Outcome := do
  let report := source.report settings (← surroundings.readInput options.input)
  let degraded := !report.diagnostics.isEmpty
  return ⟨if degraded && options.strict then strictExitCode else 0,
    report.print options.format settings.lexer.keywordStyle⟩

def executeCheck (options : CheckOptions) (settings : Settings) (surroundings : Surroundings) :
    Except Fault Outcome := do
  let report := options.source.report settings (← surroundings.readInput options.input)
  let violations ← (Style.check settings.lint report).mapError fun
    | .zeroIndentSteps => .zeroIndentSteps
  return ⟨if violations.isEmpty then 0 else violationExitCode,
    Violation.printAll options.format violations⟩

/-- The keywords under some settings, one on each line. -/
def keywordListing (settings : Settings) : String :=
  String.join ((KeywordSet.withExtra settings.lexer.extraKeywords).listing.map endLine)

/-- Does what an invocation asks for, under some settings. -/
def execute (invocation : Invocation) (settings : Settings) (surroundings : Surroundings) :
    Except Fault Outcome :=
  match invocation.task with
  | .lex source options => executeLex source options settings surroundings
  | .check options => executeCheck options settings surroundings
  | .keywords => .ok ⟨0, keywordListing settings⟩
  | .settings => .ok ⟨0, settings.toTomlText⟩

end Invocation

/-- How the run of a command line ends. -/
inductive Ending
  /-- The words ask for nothing that can be done. -/
  | refused (fault : ArgumentFault)
  | notConfigured (fault : Fault)
  | failed (fault : Fault)
  | finished (settings : Settings) (outcome : Outcome)

def Invocation.run (invocation : Invocation) (surroundings : Surroundings) : Ending :=
  match invocation.settings surroundings with
  | .error fault => .notConfigured fault
  | .ok settings =>
      match invocation.execute settings surroundings with
      | .error fault => .failed fault
      | .ok outcome => .finished settings outcome

def run (surroundings : Surroundings) (words : List String) : Ending :=
  match Invocation.parse words with
  | .error fault => .refused fault
  | .ok invocation => invocation.run surroundings

/-- The variables of the environment that hold settings. -/
def settingVariables : List String :=
  ["BQLEX_STAR_EXPANSION", "BQLEX_KEYWORD_STYLE", "BQLEX_COMMA_POSITION", "BQLEX_INDENT_STEPS",
    "BQLEX_LOG_LEVEL"]

def versionLine : String := endLine "bqlex 0.1.0"

/-- What a finished program leaves: its exit code and what it writes to both outputs. -/
structure Exit where
  code : Nat
  output : String := ""
  errors : String := ""
deriving DecidableEq

/-- The message of a failure, with its cause. -/
def failureText (headline : String) (fault : Fault) : String :=
  "Error: " ++ headline ++ "\n\nCaused by:\n    " ++ endLine fault.message

/-- What the program is for and how it is called. -/
def usageText : String :=
  "Tokenizer for BigQuery Standard SQL and highlighted editor markup\n\n" ++
    "Usage: bqlex [OPTIONS] <COMMAND>\n\nCommands: " ++
    endLine (", ".intercalate topLevel.commands)

/-- What is left by each ending. Help and the version are what was asked for. -/
def Ending.exit : Ending → Exit
  | refused .versionRequested => { code := 0, output := versionLine }
  | refused .helpRequested => { code := 0, output := usageText }
  | refused _ => { code := 2, errors := usageText }
  | notConfigured fault => { code := 1, errors := failureText "failed to load configuration" fault }
  | failed fault => { code := 1, errors := failureText "command failed" fault }
  | finished _ outcome => { code := outcome.exitCode, output := outcome.output }

end SqlLint.Command
