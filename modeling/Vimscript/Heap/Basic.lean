import Vimscript.Entries
import Vimscript.Function.Builtin
import Vimscript.Stop

/-!
# Values and the heap

Every value, a Number as much as a List, is an object with an identity and a lock flag, and is held
by reference: what is stored through one name is seen through every other. The heap is the
array of all objects made so far; it only grows, and an object keeps its kind.
-/

namespace Vimscript

/-- The identity of a value. -/
structure Ref where
  index : Nat
deriving Repr, DecidableEq, Inhabited

/-- What a Funcref calls: a built-in function, or a declaration with its name. -/
inductive Callee where
  | builtin (b : Builtin)
  | declared (id : Nat) (name : String)
deriving Repr, DecidableEq

/-- The bare name of a function. -/
def Callee.name : Callee → String
  | builtin b => b.name
  | declared _ name => name

/-- How a Funcref was made: by a lambda, by `funcref()`, or by `function()`, which looks its target
up by name at every call. -/
inductive FuncrefKind where
  | lambda
  | funcref
  | function
deriving Repr, DecidableEq

/-- The word for a kind of Funcref. -/
def FuncrefKind.word : FuncrefKind → String
  | lambda => "lambda"
  | funcref => "funcref"
  | function => "function"

/-- A function with captured arguments and, perhaps, a Dictionary it is called on. -/
structure Funcref where
  callee : Callee
  /-- The List of captured arguments. -/
  arguments : Ref
  self : Option Ref := none
  kind : FuncrefKind := .funcref
  /-- The Dictionary was given explicitly and is kept when the Funcref is read from another. -/
  isSelfFixed : Bool := false
deriving Repr, DecidableEq

/-- The entries of a Dictionary in the order in which their keys were added. While the Dictionary
serves as a namespace, `lockedNames` are the variables that `:lockvar` protects. -/
structure Table where
  entries : Entries Ref := []
  lockedNames : List String := []
deriving Repr, DecidableEq, Inhabited

/-- What an object holds. -/
inductive Value where
  | number (n : Int)
  | float (x : Float)
  | string (s : String)
  | list (items : List Ref)
  | dict (table : Table)
  | funcref (f : Funcref)
  | blob (bytes : List UInt8)

instance : Inhabited Value := ⟨.number 0⟩

/-- An object: what it holds and whether it is locked. -/
structure Cell where
  value : Value
  isLocked : Bool := false

instance : Inhabited Cell := ⟨{ value := default }⟩

/-! ## Tables -/

namespace Table

/-- The value of a key. -/
def get? (t : Table) (key : String) : Option Ref := Entries.find? key t.entries

/-- Whether a key is present. -/
def contains (t : Table) (key : String) : Bool := (t.get? key).isSome

/-- Puts a value under a key. -/
def insert (t : Table) (key : String) (value : Ref) : Table :=
  { t with entries := Entries.put key value t.entries }

/-- Removes a key. -/
def erase (t : Table) (key : String) : Table :=
  { t with entries := Entries.remove key t.entries }

/-- The keys in order. -/
def keys (t : Table) : List String := Entries.names t.entries

/-- The values in order. -/
def values (t : Table) : List Ref := t.entries.map (·.2)

/-- The number of entries. -/
def size (t : Table) : Nat := t.entries.length

/-- Whether `:lockvar` protects a name. -/
def isNameLocked (t : Table) (name : String) : Bool := t.lockedNames.contains name

/-- Protects a name. -/
def lockName (t : Table) (name : String) : Table :=
  if t.isNameLocked name then t else { t with lockedNames := name :: t.lockedNames }

/-- Takes the protection of a name away. -/
def unlockName (t : Table) (name : String) : Table :=
  { t with lockedNames := t.lockedNames.filter (· != name) }

theorem contains_iff {t : Table} {name : String} : t.contains name = true ↔ name ∈ t.keys := by
  rw [contains, get?, Option.isSome_iff_ne_none, ne_eq, Entries.find?_eq_none_iff, keys]
  exact Decidable.not_not

end Table

/-! ## The heap -/

/-- All objects. -/
structure Heap where
  cells : Array Cell := #[]

instance : Inhabited Heap := ⟨{}⟩

namespace Heap

/-- The object with an identity. -/
def cell (h : Heap) (r : Ref) : Cell := h.cells.getD r.index default

/-- What an object holds. -/
def value (h : Heap) (r : Ref) : Value := (h.cell r).value

/-- Whether an object is locked. -/
def isLocked (h : Heap) (r : Ref) : Bool := (h.cell r).isLocked

/-- The number of objects. -/
def size (h : Heap) : Nat := h.cells.size

/-- Makes an object. -/
def alloc (h : Heap) (v : Value) : Ref × Heap :=
  (⟨h.cells.size⟩, { cells := h.cells.push { value := v } })

/-- Replaces what an object holds. -/
def setValue (h : Heap) (r : Ref) (v : Value) : Heap :=
  { cells := h.cells.modify r.index fun c => { c with value := v } }

/-- Sets the lock flag of an object. -/
def setLocked (h : Heap) (r : Ref) (isLocked : Bool) : Heap :=
  { cells := h.cells.modify r.index fun c => { c with isLocked } }

/-- The items of a List; none for any other value. -/
def items (h : Heap) (r : Ref) : List Ref :=
  match h.value r with
  | .list items => items
  | _ => []

/-- The entries of a Dictionary; none for any other value. -/
def table (h : Heap) (r : Ref) : Table :=
  match h.value r with
  | .dict t => t
  | _ => {}

/-- Changes the entries of a Dictionary. -/
def modifyTable (h : Heap) (r : Ref) (f : Table → Table) : Heap :=
  h.setValue r (.dict (f (h.table r)))

/-- What a List or Dictionary holds, in order; nothing for any other value. -/
def children (h : Heap) (r : Ref) : List Ref :=
  match h.value r with
  | .list items => items
  | .dict t => t.values
  | _ => []

/-! ### What making and changing objects do to the others -/

theorem cell_alloc (h : Heap) (v : Value) (r : Ref) :
    (h.alloc v).2.cell r = if r = (h.alloc v).1 then { value := v } else h.cell r := by
  obtain ⟨i⟩ := r
  by_cases hi : i = h.cells.size
  · simp [cell, alloc, hi, Array.getD_eq_getD_getElem?]
  · simp [cell, alloc, hi, Array.getD_eq_getD_getElem?, Array.getElem?_push]

theorem size_alloc (h : Heap) (v : Value) : (h.alloc v).2.size = h.size + 1 := by
  simp [size, alloc]

theorem cell_setValue_of_ne (h : Heap) (v : Value) {r s : Ref} (hne : s ≠ r) :
    (h.setValue r v).cell s = h.cell s := by
  have hi : r.index ≠ s.index := fun he => hne (by cases r; cases s; simp_all)
  simp [cell, setValue, Array.getD_eq_getD_getElem?, Array.getElem?_modify, hi]

theorem value_setValue (h : Heap) (v : Value) {r : Ref} (hr : r.index < h.size) :
    (h.setValue r v).value r = v := by
  simp only [size] at hr
  simp [value, cell, setValue, Array.getD_eq_getD_getElem?, Array.getElem_modify, hr]

theorem isLocked_setValue (h : Heap) (v : Value) (r s : Ref) :
    (h.setValue r v).isLocked s = h.isLocked s := by
  by_cases hi : r.index = s.index
  · cases hs : h.cells[s.index]? <;>
      simp [isLocked, cell, setValue, Array.getD_eq_getD_getElem?, Array.getElem?_modify, hi, hs]
  · simp [isLocked, cell, setValue, Array.getD_eq_getD_getElem?, Array.getElem?_modify, hi]

theorem cell_setValue_self (h : Heap) (v : Value) {r : Ref} (hr : r.index < h.size) :
    (h.setValue r v).cell r = { h.cell r with value := v } := by
  calc (h.setValue r v).cell r
      = { value := (h.setValue r v).value r, isLocked := (h.setValue r v).isLocked r } := rfl
    _ = { value := v, isLocked := h.isLocked r } := by
        rw [value_setValue h v hr, isLocked_setValue]

theorem size_setValue (h : Heap) (r : Ref) (v : Value) : (h.setValue r v).size = h.size := by
  simp [size, setValue]

theorem value_setLocked (h : Heap) (b : Bool) (r s : Ref) :
    (h.setLocked r b).value s = h.value s := by
  by_cases hi : r.index = s.index
  · cases hs : h.cells[s.index]? <;>
      simp [value, cell, setLocked, Array.getD_eq_getD_getElem?, Array.getElem?_modify, hi, hs]
  · simp [value, cell, setLocked, Array.getD_eq_getD_getElem?, Array.getElem?_modify, hi]

end Heap

/-! ## Operations on values -/

/-- A computation on the heap. What it did before it stopped short remains. -/
abbrev Op := ExceptT Stop (StateM Heap)

namespace Op

/-- Makes an object. -/
def alloc (v : Value) : Op Ref := modifyGet fun h => h.alloc v

/-- What an object holds. -/
def value (r : Ref) : Op Value := return (← get).value r

/-- Replaces what an object holds. -/
def setValue (r : Ref) (v : Value) : Op Unit := modify fun h => h.setValue r v

/-- Whether an object is locked. -/
def isLocked (r : Ref) : Op Bool := return (← get).isLocked r

/-- A new Number. -/
def number (n : Int) : Op Ref := alloc (.number n)

/-- A new String. -/
def string (s : String) : Op Ref := alloc (.string s)

/-- A new List. -/
def list (items : List Ref) : Op Ref := alloc (.list items)

/-- A truth value as a new Number. -/
def truth (b : Bool) : Op Ref := number (if b then 1 else 0)

/-- Runs a computation that only reads. -/
def reading {α : Type} (f : Heap → Result α) : Op α := do
  match f (← get) with
  | .ok a => return a
  | .error stop => throw stop

end Op

end Vimscript
