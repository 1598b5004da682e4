import SqlLint.Toml.Statement

/-!
# TOML documents

The entries of a file follow from its statements: each assignment belongs to the table of the last
header before it.
-/

set_option autoImplicit false

namespace SqlLint.Toml

/-- What the statements read so far amount to. -/
structure Progress where
  /-- The path of the last header. -/
  current : List String := []
  root : Entries := []

/-- Takes one more statement into account. -/
def Progress.take? (progress : Progress) : Statement → Option Progress
  | .header path => (openTable? path progress.root).map (⟨path, ·⟩)
  | .arrayHeader path => (openElement? path progress.root).map (⟨path, ·⟩)
  | .assign path value =>
      (assignIn? progress.current path value progress.root).map (⟨progress.current, ·⟩)

/-- The entries that some statements define. -/
def entriesOf? (statements : List Statement) : Option Entries :=
  (statements.foldlM Progress.take? {}).map (·.root)

def read? (text : String) : Option Entries :=
  (statements? text).bind entriesOf?

end SqlLint.Toml
