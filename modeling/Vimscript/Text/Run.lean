/-!
# Runs of code points

A property of characters is stored as a table of runs: evenly spaced code points from a first one
to a last one. A case mapping adds the distance that every member of the run moves by.
-/

namespace Vimscript.Text

/-- The code points `first`, `first + step`, and so on up to `last`. -/
structure Run where
  first : Nat
  last : Nat
  step : Nat
deriving Repr

/-- A run whose members all move by the same distance. -/
structure Shift where
  run : Run
  distance : Int
deriving Repr

/-- Whether a code point belongs to a run. -/
def Run.contains (r : Run) (c : Nat) : Bool :=
  r.first ≤ c && c ≤ r.last && (c - r.first) % r.step == 0

/-- Whether a code point belongs to some run of a table. -/
def inRuns (table : Array Run) (c : Nat) : Bool :=
  table.any (·.contains c)

/-- Where a table of shifts sends a code point, if one of its runs holds it. -/
def shifted? (table : Array Shift) (c : Nat) : Option Nat :=
  (table.find? (·.run.contains c)).map fun s => ((c : Int) + s.distance).toNat

/-- The code points that a table of shifts sends to `c`. -/
def shiftSources (table : Array Shift) (c : Nat) : List Nat :=
  table.toList.filterMap fun s =>
    let source := ((c : Int) - s.distance).toNat
    if s.run.contains source && (source : Int) + s.distance == c then some source else none

end Vimscript.Text
