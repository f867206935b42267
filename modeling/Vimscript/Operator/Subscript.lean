import Vimscript.Heap.Coerce

/-!
# Items and slices

A List, Blob or String is read at an index or between two inclusive bounds, and a Dictionary at a
key. Negative indexes count from the end.
-/

namespace Vimscript

/-- Counts a negative index from the end. -/
def fromEnd (length : Nat) (i : Int) : Int :=
  if i < 0 then i + length else i

/-- The position an index selects, if there is one. -/
def position? (length : Nat) (i : Int) : Option Nat :=
  let p := fromEnd length i
  if 0 ≤ p ∧ p < length then some p.toNat else none

theorem position?_eq_some_iff {length : Nat} {i : Int} {p : Nat} :
    position? length i = some p ↔ p < length ∧ (i = p ∨ i = (p : Int) - length) := by
  simp only [position?, fromEnd]
  split <;> split <;> simp only [Option.some.injEq, reduceCtorEq, false_iff] <;> omega

/-- An index selects a position exactly when it is one of the `length` ones counted from the start
or one of as many counted from the end. -/
theorem position?_isSome_iff {length : Nat} {i : Int} :
    (position? length i).isSome ↔ -(length : Int) ≤ i ∧ i < length := by
  simp only [position?, fromEnd]
  split <;> split <;> simp <;> omega

/-- The items from position `first` to position `last`, both included. -/
def segment {α : Type} (items : List α) (first last : Int) : List α :=
  if first ≤ last then (items.drop first.toNat).take (last - first + 1).toNat else []

/-- The positions two bounds select, the first of them not before the beginning and the last of
them not behind the end. -/
def sliceBounds (length : Nat) (first last : Int) : Int × Int :=
  (max (fromEnd length first) 0, min (fromEnd length last) (length - 1))

/-- The slice of a list between two bounds. -/
def sliceItems {α : Type} (items : List α) (first last : Int) : List α :=
  let (first, last) := sliceBounds items.length first last
  segment items first last

namespace Op

/-- A Funcref read from a Dictionary is called on that Dictionary unless it was given one. -/
def boundTo (dict r : Ref) : Op Ref := do
  match ← value r with
  | .funcref f => if f.isSelfFixed then return r else alloc (.funcref { f with self := some dict })
  | _ => return r

/-- The item of a value at an index. -/
def index (target key : Ref) : Op Ref := do
  match ← value target with
  | .dict t =>
    let k ← toText key
    match t.get? k with
    | some r => boundTo target r
    | none => fail (.noSuchKey k)
  | .list items =>
    let i ← toNumber key
    match (position? items.length i).bind (items[·]?) with
    | some r => return r
    | none => fail (.listIndex (← orFault (Number.write i)))
  | .blob bytes =>
    let i ← toNumber key
    match (position? bytes.length i).bind (bytes[·]?) with
    | some b => number b.toNat
    | none => fail (.blobIndex (← orFault (Number.write i)))
  | .float _ => fail .floatAsString
  | .funcref _ => fail .indexFuncref
  | v =>
    let s ← v.toText
    let i ← toNumber key
    match if i < 0 then none else s.toList[i.toNat]? with
    | some c => string (String.singleton c)
    | none => string ""

/-- The slice of a list between two optional bounds. -/
def sliceOf {α : Type} (items : List α) (first last : Option Ref) : Op (List α) := do
  let first ← toNumberD 0 first
  let last ← toNumberD (items.length - 1) last
  return sliceItems items first last

/-- The slice of a value between two optional bounds. -/
def slice (target : Ref) (first last : Option Ref) : Op Ref := do
  match ← value target with
  | .list items => list (← sliceOf items first last)
  | .blob bytes => alloc (.blob (← sliceOf bytes first last))
  | .dict _ => fail .sliceDict
  | .float _ => fail .floatAsString
  | .funcref _ => fail .indexFuncref
  | v => do
    let s ← v.toText
    string (String.ofList (← sliceOf s.toList first last))

end Op

end Vimscript
