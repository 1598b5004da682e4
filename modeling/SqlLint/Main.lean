import SqlLint.Command.Run

/-!
# The program

Gathers what a command line is run in, runs it, and writes what it leaves.
-/

set_option autoImplicit false

open SqlLint SqlLint.Command

/-- What is known of a path: the bytes of a file, or why they cannot be read. -/
def readEntry (path : String) : IO (Path × Except FileFault ByteArray) := do
  let content ←
    try
      pure (.ok (← IO.FS.readBinFile path))
    catch
      | .noFileOrDirectory .. => pure (.error .notFound)
      | _ => pure (.error .isDirectory)
  return (Path.parse path, content)

def isPresent (entry : Path × Except FileFault ByteArray) : Bool :=
  match entry.2 with
  | .error .notFound => false
  | _ => true

/-- The value of a variable, if it is set. -/
def readVariable (name : String) : IO (Option (String × String)) := do
  return (← IO.getEnv name).map (name, ·)

/-- What an invocation is run in. -/
def gather (invocation : Invocation) : IO Surroundings := do
  let entries ← invocation.paths.mapM readEntry
  let known ← settingVariables.mapM readVariable
  let standardInput ←
    if invocation.readsStandardInput then (← IO.getStdin).readBinToEnd else pure ByteArray.empty
  return ⟨⟨entries.filter isPresent⟩, known.filterMap id, standardInput⟩

/-- How a command line ends. -/
def runWords (words : List String) : IO Ending := do
  match Invocation.parse words with
  | .error fault => return .refused fault
  | .ok invocation => return invocation.run (← gather invocation)

def main (words : List String) : IO UInt32 := do
  let exit := (← runWords words).exit
  (← IO.getStdout).putStr exit.output
  (← IO.getStderr).putStr exit.errors
  return exit.code.toUInt32
