import Vimscript.Decimal.Dyadic
import Vimscript.Heap.Basic
import Vimscript.Text.Case

/-!
# Equality of values

Items of Lists and entries of Dictionaries are equal when they are of one kind and hold the same;
only a Number and a Float may be equal across kinds. Values without cycles are compared with
the number of objects as fuel.
-/

namespace Vimscript

/-- A Number as a Float; a Number out of the range of doubles is a fault. -/
def numberToFloat (n : Int) : Result Float :=
  let x := Decimal.ofInt n
  if x.isInf then faulty .doubleOverflow else .ok x

/-- Texts are equal as they are or in small letters. -/
def textsEqual (ignoreCase : Bool) (a b : String) : Bool :=
  if ignoreCase then Text.lower a == Text.lower b else a == b

/-- Compares the members of two lists one by one, up to the first that differ. -/
def allEqual (eq : Ref → Ref → Result Bool) : List Ref → List Ref → Result Bool
  | a :: as, b :: bs => do
    if ← eq a b then allEqual eq as bs else return false
  | _, _ => return true

/-- Compares the entries of a Dictionary with those of another that has the same keys. -/
def entriesEqual (eq : Ref → Ref → Result Bool) (other : Table) :
    List (String × Ref) → Result Bool
  | [] => return true
  | (k, v) :: rest => do
    match other.get? k with
    | none => return false
    | some w => if ← eq v w then entriesEqual eq other rest else return false

namespace Table

/-- Whether two Dictionaries have the same keys, in whatever order. -/
def sameKeys (a b : Table) : Bool :=
  a.size == b.size && a.keys.all b.contains

end Table

namespace Heap

/-- Equality of two values, following at most `fuel` steps into them. -/
def equalWithin (h : Heap) (ignoreCase : Bool) : Nat → Ref → Ref → Result Bool
  | 0, _, _ => return false
  | fuel + 1, a, b =>
    match h.value a, h.value b with
    | .number m, .float y => do return (← numberToFloat m) == y
    | .float x, .number n => do return x == (← numberToFloat n)
    | .number m, .number n => return m == n
    | .float x, .float y => return x == y
    | .string s, .string t => return textsEqual ignoreCase s t
    | .list xs, .list ys =>
      if a == b then return true
      else if xs.length == ys.length then allEqual (h.equalWithin ignoreCase fuel) xs ys
      else return false
    | .dict s, .dict t =>
      if a == b then return true
      else if s.sameKeys t then entriesEqual (h.equalWithin ignoreCase fuel) t s.entries
      else return false
    | .funcref f, .funcref g =>
      if f.callee == g.callee then do
        if ← h.equalWithin ignoreCase fuel f.arguments g.arguments then return f.self == g.self
        else return false
      else return false
    | .blob s, .blob t => return s == t
    | _, _ => return false

/-- Equality of two values. -/
def equal (h : Heap) (ignoreCase : Bool) (a b : Ref) : Result Bool :=
  h.equalWithin ignoreCase (h.size + 1) a b

/-- Sameness of two values, following at most `fuel` steps: like equality, but a Number is never
the same as a Float, and an item is always the same as itself. -/
def sameWithin (h : Heap) : Nat → Ref → Ref → Bool
  | 0, _, _ => false
  | fuel + 1, a, b =>
    let item (x y : Ref) : Bool := x == y || h.sameWithin fuel x y
    match h.value a, h.value b with
    | .number m, .number n => m == n
    | .float x, .float y => x == y
    | .string s, .string t => s == t
    | .list xs, .list ys => xs.length == ys.length && (xs.zip ys).all fun (x, y) => item x y
    | .dict s, .dict t =>
      s.size == t.size && s.entries.all fun (k, v) => (t.get? k).any fun w => item v w
    | .funcref f, .funcref g =>
      f.callee == g.callee && h.sameWithin fuel f.arguments g.arguments && f.self == g.self
    | .blob s, .blob t => s == t
    | _, _ => false

/-- Sameness of two values. -/
def same (h : Heap) (a b : Ref) : Bool :=
  h.sameWithin (h.size + 1) a b

end Heap

end Vimscript
