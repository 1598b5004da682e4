import SqlLint.Toml.Value

/-!
# Building tables

A table comes about by assignments and headers, and each key of it may be defined once. A header
may open a table that was so far only named on the way to another one; a dotted key may add only
to tables that dotted keys opened; a table that was written as a value is closed.
-/

set_option autoImplicit false

namespace SqlLint.Toml

/-- Changes the value of a key, which may not exist yet. -/
def update? (key : String) (change : Option Value → Option Value) : Entries → Option Entries
  | [] => (change none).map fun value => [(key, value)]
  | (found, value) :: rest =>
      if found = key then (change (some value)).map fun value => (found, value) :: rest
      else (update? key change rest).map ((found, value) :: ·)

/-- Changes the entries of a table that a path leads to. Tables on the way that do not exist come
about with an origin of `missing`; tables whose origin is `barred` let no path through. Through an
array of tables a path leads to the last of them. -/
def within? (missing : Origin) (barred : List Origin)
    (change : Origin → Entries → Option Entries) : List String → Origin → Entries → Option Entries
  | [], origin, entries => change origin entries
  | key :: path, _, entries =>
      let enter (origin : Origin) (inner : Entries) : Option Value :=
        (within? missing barred change path origin inner).map (.table origin)
      update? key
        (fun
          | none => enter missing []
          | some (.table origin inner) =>
              if barred.contains origin then none else enter origin inner
          | some (.array true elements) =>
              match elements.getLast? with
              | some (.table origin inner) =>
                  (enter origin inner).map fun last => .array true (elements.dropLast ++ [last])
              | _ => none
          | _ => none)
        entries

/-- Defines a key, which may not be defined yet. -/
def define? (key : String) (value : Value) : Entries → Option Entries :=
  update? key fun
    | none => some value
    | some _ => none

/-- A path without its last part, and that part. -/
def splitPath? (path : List String) : Option (List String × String) :=
  path.getLast?.map (path.dropLast, ·)

/-- Assigns a value to a dotted key of a table. -/
def assign? (path : List String) (value : Value) (origin : Origin) (entries : Entries) :
    Option Entries :=
  match splitPath? path with
  | none => none
  | some (parents, key) =>
      within? .dotted [.inline, .header]
        (fun parent inner =>
          if parents.isEmpty || parent = .dotted then define? key value inner else none)
        parents origin entries

/-- The entries of a table that is written as a value. -/
def inlineEntries? (assignments : List (List String × Value)) : Option Entries :=
  assignments.foldlM (fun entries (path, value) => assign? path value .inline entries) []

/-- Opens a table, which may have been named on the way to another one. -/
def openTable? (path : List String) (root : Entries) : Option Entries :=
  match splitPath? path with
  | none => none
  | some (parents, key) =>
      within? .implicit [.inline]
        (fun _ => update? key fun
          | none => some (.table .header [])
          | some (.table .implicit inner) => some (.table .header inner)
          | some _ => none)
        parents .header root

/-- Opens one more table of an array of tables. -/
def openElement? (path : List String) (root : Entries) : Option Entries :=
  match splitPath? path with
  | none => none
  | some (parents, key) =>
      within? .implicit [.inline]
        (fun _ => update? key fun
          | none => some (.array true [.table .header []])
          | some (.array true elements) => some (.array true (elements ++ [.table .header []]))
          | some _ => none)
        parents .header root

/-- Assigns a value inside the table that the path `current` leads to. -/
def assignIn? (current path : List String) (value : Value) (root : Entries) : Option Entries :=
  within? .implicit [.inline] (assign? path value) current .header root

end SqlLint.Toml
