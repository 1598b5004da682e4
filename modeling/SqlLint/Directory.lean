import SqlLint.Fault

/-!
# Directories

The files that a command works on, as values: what is read from a path, and what the directory
holds after a file was written. A path is a sequence of names; the empty path is the directory.
-/

set_option autoImplicit false

namespace SqlLint

/-- The names on the way to a file. A path that starts with a slash starts with an empty name. -/
abbrev Path := List String

namespace Path

/-- The names between slashes. A name that stays in the same place is left out. -/
def parse (text : String) : Path :=
  match text.splitOn "/" with
  | [] => []
  | first :: others =>
      (if first == "." then [] else [first]) ++ others.filter fun name => name != "" && name != "."

/-- The path leads to the directory itself or out of it to one that holds it. -/
def isUpward (path : Path) : Bool :=
  path.all (· == "..")

end Path

/-- What is known to stand in a directory: the bytes of a file, or why they cannot be read. -/
structure Directory where
  entries : List (Path × Except FileFault ByteArray)

namespace Directory

def ofFiles (files : List (String × ByteArray)) : Directory :=
  ⟨files.map fun (name, bytes) => (Path.parse name, .ok bytes)⟩

def holds (directory : Directory) (path : String) : Bool :=
  let path := Path.parse path
  path.isUpward || (directory.entries.lookup path).isSome

def read (directory : Directory) (path : String) : Except FileFault ByteArray :=
  let path := Path.parse path
  if path.isUpward then .error .isDirectory
  else (directory.entries.lookup path).getD (.error .notFound)

/-- The text that some bytes encode. -/
def decode (bytes : ByteArray) : Except FileFault String :=
  match String.fromUTF8? bytes with
  | some text => .ok text
  | none => .error .notText

def readText (directory : Directory) (path : String) : Except Fault String :=
  ((directory.read path).bind decode).mapError .file

/-- The directory after a text was written to a file, which has a name. There are no directories
inside. -/
def write (directory : Directory) (path : String) (text : String) : Except Fault Directory :=
  let path := Path.parse path
  if path.isUpward then .error (.file .isDirectory)
  else if path.length = 1 && path != [""] then
    .ok ⟨(path, .ok text.toUTF8) :: directory.entries.filter fun entry => entry.1 != path⟩
  else .error (.file .notFound)

end Directory

end SqlLint
