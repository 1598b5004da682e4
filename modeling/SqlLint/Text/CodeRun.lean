/-!
# Runs of code points

The tables of character properties store code points as arithmetic progressions. A `CodeRun` is a
set of code points, a `CodeShift` is a mapping that moves each member of a run by one distance.
-/

set_option autoImplicit false

namespace SqlLint.Text

/-- The code points `first`, `first + stride`, … up to and including `last`. -/
structure CodeRun where
  first : Nat
  last : Nat
  stride : Nat
deriving DecidableEq

def CodeRun.contains (run : CodeRun) (code : Nat) : Bool :=
  run.first ≤ code && code ≤ run.last && (code - run.first) % run.stride == 0

/-- Membership of a character in the union of some runs. -/
def CodeRun.anyContains (runs : List CodeRun) (c : Char) : Bool :=
  runs.any (·.contains c.toNat)

/-- A run of code points, each of which is mapped to the code point `shift` away from it. -/
structure CodeShift where
  first : Nat
  last : Nat
  stride : Nat
  shift : Int
deriving DecidableEq

/-- The image of a code point, if it belongs to the run. -/
def CodeShift.image? (run : CodeShift) (code : Nat) : Option Nat :=
  if (CodeRun.mk run.first run.last run.stride).contains code then
    some (Int.toNat (code + run.shift))
  else
    none

/-- The image of a character under the first run that holds it; other characters stay. -/
def CodeShift.firstImage (runs : List CodeShift) (c : Char) : Char :=
  match runs.findSome? (·.image? c.toNat) with
  | some code => Char.ofNat code
  | none => c

end SqlLint.Text
