import Vimscript.Heap.Basic

/-!
# Locks

Locking or unlocking a value to a depth sets the flag of every object that is fewer than that many
steps away through Lists and Dictionaries, and always that of the value itself.
-/

namespace Vimscript.Heap

/-- Sets the lock flag of every object at most `steps` steps away. -/
def lockWithin (isLocked : Bool) : (steps : Nat) → Ref → Heap → Heap
  | 0, r, h => h.setLocked r isLocked
  | steps + 1, r, h =>
    (h.children r).foldl (fun h child => lockWithin isLocked steps child h)
      (h.setLocked r isLocked)

/-- Sets the lock flags to a depth. -/
def lockTo (isLocked : Bool) (depth : Int) (r : Ref) (h : Heap) : Heap :=
  lockWithin isLocked (depth - 1).toNat r h

end Vimscript.Heap
