import SqlLint.Command.Arguments

/-!
# Invocations

What a command line asks for: a command with its options, and the settings that the options give.
-/

set_option autoImplicit false

namespace SqlLint.Command

inductive SourceKind
  /-- One fragment of markup on each line. -/
  | markup
  | sql
deriving DecidableEq

/-- The options of the commands that show how a source is lexed. -/
structure LexOptions where
  input : Option String
  format : OutputFormat
  keywordStyle : Option KeywordStyle
  starExpansion : Option StarExpansion
  /-- Lines that could not be read give an exit code of their own. -/
  strict : Bool
deriving DecidableEq

structure CheckOptions where
  input : Option String
  source : SourceKind
  format : OutputFormat
  keywordStyle : Option KeywordStyle
  commaPosition : Option CommaPosition
  indentSteps : Option Nat
  starExpansion : Option StarExpansion
deriving DecidableEq

inductive Task
  | lex (source : SourceKind) (options : LexOptions)
  | check (options : CheckOptions)
  | keywords
  | settings
deriving DecidableEq

/-- What a command line asks for. -/
structure Invocation where
  settingsFile : Option String
  logLevel : Option String
  task : Task
deriving DecidableEq

def commandNames : List String :=
  ["markup", "sql", "check", "keywords", "config"]

/-- The command that explains the others. -/
def helpCommand : String := "help"

/-- What may stand before the command. -/
def topLevel : Level :=
  ⟨[.settingsFile, .logLevel, .help, .version], false, commandNames ++ [helpCommand]⟩

/-- What may stand behind a command that lexes a source. -/
def lexLevel : Level :=
  ⟨[.format, .keywordStyle, .starExpansion, .strict, .help], true, []⟩

def checkLevel : Level :=
  ⟨[.markup, .format, .keywordStyle, .commaPosition, .indentSteps, .starExpansion, .help],
    true, []⟩

def plainLevel : Level :=
  ⟨[.help], false, []⟩

def LexOptions.ofGiven (given : Given) : LexOptions :=
  ⟨given.input, given.format.getD .text, given.keywordStyle, given.starExpansion,
    given.strict.isSome⟩

def CheckOptions.ofGiven (given : Given) : CheckOptions :=
  ⟨given.input, if given.markup.isSome then .markup else .sql, given.format.getD .text,
    given.keywordStyle, given.commaPosition, given.indentSteps, given.starExpansion⟩

/-- What may stand behind a command, and the task that it asks for. -/
def taskNamed? : String → Option (Level × (Given → Task))
  | "markup" => some (lexLevel, fun given => .lex .markup (.ofGiven given))
  | "sql" => some (lexLevel, fun given => .lex .sql (.ofGiven given))
  | "check" => some (checkLevel, fun given => .check (.ofGiven given))
  | "keywords" => some (plainLevel, fun _ => .keywords)
  | "config" => some (plainLevel, fun _ => .settings)
  | _ => none

/-- Why a request for help does nothing else. It names at most one command. -/
def helpFault : List String → ArgumentFault
  | [] => .helpRequested
  | [name] => if topLevel.commands.contains name then .helpRequested else .unknownCommand
  | _ => .unknownCommand

namespace Task

/-- Reads the words behind a command. -/
def parse (name : String) (words : List String) : Except ArgumentFault Task :=
  match taskNamed? name with
  | none => .error (helpFault words)
  | some (level, ofGiven) => do
      let (reading, _) ← readWords level false {} words
      return ofGiven (← reading.settle)

end Task

namespace Invocation

/-- Reads the words of a command line. The words behind the command are looked at before a value
that is still pending in front of it. -/
def parse (words : List String) : Except ArgumentFault Invocation := do
  let (reading, command) ← readWords topLevel false {} words
  match command with
  | none =>
      let given ← reading.settle
      if given = {} then throw .nothingGiven else throw .missingCommand
  | some (name, rest) =>
      let task ← Task.parse name rest
      let given ← reading.settle
      return ⟨given.settingsFile, given.logLevel, task⟩

/-- The settings that the options give. The keyword style of the style check is a setting of its
own. -/
def overlay (invocation : Invocation) : Overlay :=
  match invocation.task with
  | .lex _ options =>
      { logLevel := invocation.logLevel
        keywordStyle := options.keywordStyle
        starExpansion := options.starExpansion }
  | .check options =>
      { logLevel := invocation.logLevel
        starExpansion := options.starExpansion
        lintKeywordStyle := options.keywordStyle
        commaPosition := options.commaPosition
        indentSteps := options.indentSteps }
  | .keywords | .settings => { logLevel := invocation.logLevel }

end Invocation

end SqlLint.Command
