import Vimscript.Heap.Basic

/-!
# Copies

A copy to a level makes new objects for the Lists and Dictionaries up to that many steps away and
shares what lies beyond. Within one copy a List or Dictionary is copied only once, so that
sharing and cycles come out as they were.
-/

namespace Vimscript

/-- A copy under way: the heap, and the copies made so far. -/
structure Copying where
  heap : Heap
  memo : List (Ref × Ref) := []

namespace Copying

/-- The copy made of an object. -/
def known? (c : Copying) (r : Ref) : Option Ref :=
  (c.memo.find? fun p => p.1 == r).map (·.2)

/-- Makes an object. -/
def alloc (c : Copying) (v : Value) : Ref × Copying :=
  let (r, heap) := c.heap.alloc v
  (r, { c with heap })

/-- Makes an object that is the copy of `r` from now on. -/
def start (c : Copying) (r : Ref) (v : Value) : Ref × Copying :=
  let (copy, c) := c.alloc v
  (copy, { c with memo := (r, copy) :: c.memo })

/-- Fills in a copy. -/
def fill (c : Copying) (r : Ref) (v : Value) : Copying :=
  { c with heap := c.heap.setValue r v }

end Copying

/-- Maps a list from left to right while a state is threaded through. -/
def mapThread {α β σ : Type} (f : α → σ → β × σ) : List α → σ → List β × σ
  | [], s => ([], s)
  | a :: rest, s =>
    let (b, s) := f a s
    let (bs, s) := mapThread f rest s
    (b :: bs, s)

/-- Copies an object to a level. -/
def copyTo : Nat → Ref → Copying → Ref × Copying
  | 0, r, c => (r, c)
  | level + 1, r, c =>
    match c.heap.value r with
    | .list items =>
      match c.known? r with
      | some copy => (copy, c)
      | none =>
        let (copy, c) := c.start r (.list [])
        let (items, c) := mapThread (copyTo level) items c
        (copy, c.fill copy (.list items))
    | .dict t =>
      match c.known? r with
      | some copy => (copy, c)
      | none =>
        let (copy, c) := c.start r (.dict {})
        let (values, c) := mapThread (copyTo level) t.values c
        (copy, c.fill copy (.dict { entries := t.keys.zip values }))
    | v => c.alloc v

/-- The level of a deep copy. -/
def deepLevel : Int := 100

/-- Copies a value to a level; a level that is not positive shares it. -/
def Op.copy (level : Int) (r : Ref) : Op Ref :=
  modifyGet fun h =>
    let (copy, c) := copyTo level.toNat r { heap := h }
    (copy, c.heap)

end Vimscript
