import SqlLint.Document.Print
import SqlLint.Settings.Overlay

/-!
# Command-line arguments

A command line has options, a command, and the options and the input of the command. The value of
an option stands behind an equals sign, directly behind the letter of a short option, or in the
next word, if that does not look like an option. A word `--` ends the options.

A value in the next word is looked at only when what follows it shows that it is complete: a known
option, an input, or the end of the words.
-/

set_option autoImplicit false

namespace SqlLint.Command

/-- Why a command line asks for nothing that can be done. -/
inductive ArgumentFault
  /-- An option or an input that is not known here. -/
  | unknownArgument
  /-- A missing value, an empty path, or a form of output that does not exist. -/
  | invalidValue
  /-- A value that stands for nothing. -/
  | refusedValue
  | unknownCommand
  | missingCommand
  | nothingGiven
  | helpRequested
  | versionRequested
  | givenTwice
  | unexpectedValue
deriving DecidableEq

/-- What can be given on a command line, apart from the command. -/
inductive Argument
  | settingsFile
  | logLevel
  | input
  | format
  | keywordStyle
  | starExpansion
  | commaPosition
  | indentSteps
  | strict
  | markup
  | help
  | version
deriving DecidableEq

namespace Argument

/-- The long name of an option. The input is no option. -/
def long? : Argument → Option String
  | settingsFile => some "config"
  | logLevel => some "log-level"
  | input => none
  | format => some "format"
  | keywordStyle => some "keyword-style"
  | starExpansion => some "star-expansion"
  | commaPosition => some "comma-position"
  | indentSteps => some "indent-steps"
  | strict => some "strict"
  | markup => some "markup"
  | help => some "help"
  | version => some "version"

/-- The letter of an option, if it has one. -/
def short? : Argument → Option Char
  | settingsFile => some 'c'
  | format => some 'f'
  | help => some 'h'
  | version => some 'V'
  | _ => none

/-- The option is given without a value. -/
def isSwitch : Argument → Bool
  | strict | markup | help | version => true
  | _ => false

end Argument

/-- What was given, each at most once. -/
structure Given where
  settingsFile : Option String := none
  logLevel : Option String := none
  input : Option String := none
  format : Option OutputFormat := none
  keywordStyle : Option KeywordStyle := none
  starExpansion : Option StarExpansion := none
  commaPosition : Option CommaPosition := none
  indentSteps : Option Nat := none
  strict : Option Unit := none
  markup : Option Unit := none
deriving DecidableEq

/-- Gives an argument a value, unless it has one. -/
def giveOnce {Value : Type} (present : Option Value) (value : Except ArgumentFault Value) :
    Except ArgumentFault (Option Value) :=
  if present.isSome then .error .givenTwice else value.map some

/-- Reads a path, which is not empty. -/
def parsePath (text : String) : Except ArgumentFault String :=
  if text.isEmpty then .error .invalidValue else .ok text

def parseFormat : String → Except ArgumentFault OutputFormat
  | "text" => .ok .text
  | "json" => .ok .json
  | _ => .error .invalidValue

/-- Reads a number of indentation steps, around which no blanks may stand. -/
def parseSteps (text : String) : Except ArgumentFault Nat :=
  match Text.parseWord? text.toList with
  | some steps => .ok steps
  | none => .error .refusedValue

/-- A choice that stands for nothing is refused. -/
def parseChoice {Choice : Type} (parse : String → Except Fault Choice) (text : String) :
    Except ArgumentFault Choice :=
  (parse text).mapError fun _ => .refusedValue

namespace Given

def withValue (given : Given) (text : String) : Argument → Except ArgumentFault Given
  | .settingsFile =>
      (giveOnce given.settingsFile (parsePath text)).map ({ given with settingsFile := · })
  | .logLevel => (giveOnce given.logLevel (.ok text)).map ({ given with logLevel := · })
  | .input => (giveOnce given.input (parsePath text)).map ({ given with input := · })
  | .format => (giveOnce given.format (parseFormat text)).map ({ given with format := · })
  | .keywordStyle =>
      (giveOnce given.keywordStyle (parseChoice KeywordStyle.parse text)).map
        ({ given with keywordStyle := · })
  | .starExpansion =>
      (giveOnce given.starExpansion (parseChoice StarExpansion.parse text)).map
        ({ given with starExpansion := · })
  | .commaPosition =>
      (giveOnce given.commaPosition (parseChoice CommaPosition.parse text)).map
        ({ given with commaPosition := · })
  | .indentSteps =>
      (giveOnce given.indentSteps (parseSteps text)).map ({ given with indentSteps := · })
  | .strict | .markup | .help | .version => .error .unexpectedValue

def withSwitch (given : Given) : Argument → Except ArgumentFault Given
  | .strict => (giveOnce given.strict (.ok ())).map ({ given with strict := · })
  | .markup => (giveOnce given.markup (.ok ())).map ({ given with markup := · })
  | .help => .error .helpRequested
  | .version => .error .versionRequested
  | _ => .error .invalidValue

end Given

/-- Where on a command line words are read: the options that are known there, whether an input may
stand there, and the commands that may follow. -/
structure Level where
  options : List Argument
  takesInput : Bool
  commands : List String

namespace Level

def withName? (level : Level) (name : String) : Option Argument :=
  level.options.find? (·.long? == some name)

def withLetter? (level : Level) (letter : Char) : Option Argument :=
  level.options.find? (·.short? == some letter)

end Level

structure Reading where
  given : Given := {}
  /-- An argument whose value was not looked at yet, or did not come yet. -/
  pending : Option (Argument × Option String) := none
  /-- The input stands before. -/
  hasInput : Bool := false

namespace Reading

/-- Looks at the value that is pending. -/
def settle (reading : Reading) : Except ArgumentFault Given :=
  match reading.pending with
  | none => .ok reading.given
  | some (_, none) => .error .invalidValue
  | some (argument, some text) => reading.given.withValue text argument

def expectsValue (reading : Reading) : Bool :=
  reading.pending.any (·.2.isNone)

/-- Takes an option into account, with the value that is attached to it. -/
def option (reading : Reading) (argument : Argument) (attached : Option String) :
    Except ArgumentFault Reading :=
  if argument.isSwitch then
    match attached with
    | some _ => .error .unexpectedValue
    | none => do
        let given ← reading.settle
        return { reading with given := ← given.withSwitch argument, pending := none }
  else do
    let given ← reading.settle
    match attached with
    | some text =>
        return { reading with given := ← given.withValue text argument, pending := none }
    | none => return { reading with given, pending := some (argument, none) }

/-- Takes a word into account that is no option. -/
def word (reading : Reading) (level : Level) (optionsEnded : Bool) (text : String) :
    Except ArgumentFault Reading :=
  if !optionsEnded && reading.expectsValue then
    .ok { reading with pending := reading.pending.map fun (argument, _) => (argument, some text) }
  else if level.takesInput && !reading.hasInput then do
    let given ← reading.settle
    return { given, pending := some (.input, some text), hasInput := true }
  -- Behind the end of the options even the name of a command is an argument too many.
  else if level.commands.isEmpty || (optionsEnded && level.commands.contains text) then
    .error .unknownArgument
  else .error .unknownCommand

end Reading

/-- A word, as it looks. -/
inductive Word
  | optionsEnd
  | long (name : String) (attached : Option String)
  /-- A short option, with the value that is attached to its letter. -/
  | short (letter : Char) (attached : Option String)
  | plain

namespace Word

/-- The name before the first equals sign, and the value behind it. -/
def splitValue (text : List Char) : String × Option String :=
  match text.dropWhile (· != '=') with
  | [] => (String.ofList text, none)
  | _ :: value => (String.ofList (text.takeWhile (· != '=')), some (String.ofList value))

/-- The value attached to the letter of an option; an equals sign may stand between them. -/
def attachedValue? : List Char → Option String
  | [] => none
  | '=' :: value => some (String.ofList value)
  | value => some (String.ofList value)

/-- How a word looks. A lone hyphen is no option. -/
def ofText (text : String) : Word :=
  match text.toList with
  | ['-', '-'] => optionsEnd
  | '-' :: '-' :: rest => let (name, attached) := splitValue rest; long name attached
  | '-' :: letter :: rest => short letter (attachedValue? rest)
  | _ => plain

end Word

/-- Reads words up to a command. Gives what was given and the command with the words behind it. -/
def readWords (level : Level) (optionsEnded : Bool) (reading : Reading) :
    List String → Except ArgumentFault (Reading × Option (String × List String))
  | [] => .ok (reading, none)
  | text :: words =>
      if optionsEnded then do
        readWords level true (← reading.word level true text) words
      else if !reading.expectsValue && level.commands.contains text then
        .ok (reading, some (text, words))
      else
        match Word.ofText text with
        | .optionsEnd => readWords level true reading words
        | .long name attached =>
            match level.withName? name with
            | none => .error .unknownArgument
            | some argument => do
                readWords level false (← reading.option argument attached) words
        | .short letter attached =>
            match level.withLetter? letter with
            | none => .error .unknownArgument
            | some argument => do
                -- Switches share a hyphen, as in `-hV`; those that have a letter end the reading.
                let attached := if argument.isSwitch then none else attached
                readWords level false (← reading.option argument attached) words
        | .plain => do
            readWords level false (← reading.word level false text) words

end SqlLint.Command
