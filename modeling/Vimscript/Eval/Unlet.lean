import Vimscript.Eval.Assign

/-!
# Removing and locking

`:unlet` removes a variable or an item or slice of a container; `:lockvar` and `:unlockvar` protect
and release a variable, or set the lock flags of any value.
-/

namespace Vimscript

namespace Op

/-- Where a bound of a removed slice cuts a list: a bound that is still negative counts from the end
once more, and any other stops at the end. -/
def cut (length : Nat) (i : Int) : Nat :=
  min (fromEnd length i).toNat length

/-- A list without the part between two cuts. -/
def removeBetween {α : Type} (items : List α) (first last : Int) : List α :=
  let start := cut items.length first
  items.take start ++ items.drop (max start (cut items.length last))

/-- Removes an item of a container. -/
def unletItem (container key : Ref) (bang : Bool) : Op Unit := do
  match ← value container with
  | .dict t =>
    let k ← toText key
    match t.get? k with
    | none => if bang then return () else fail (.noSuchKey k)
    | some r =>
      if (← isLocked container) || (← isLocked r) then fail (.locked k)
      setValue container (.dict (t.erase k))
  | .list items =>
    let i ← toNumber key
    match position? items.length i with
    | none => fail (.listIndex (← orFault (Number.write i)))
    | some p =>
      if ← isLocked container then fail (.locked (itemName i))
      setValue container (.list (items.eraseIdx p))
  | _ => fail .notIndexable

end Op

open Run

/-- Removes what a target names. -/
def unletTarget (M : Machine) (target : Expr) (bang : Bool) (c : Context) : Run Unit := do
  match target with
  | .var _ scope parts =>
    let name ← evalName M parts c
    (← spaces).unlet scope name bang c
  | .index _ target key =>
    let container ← evalExpr M target c
    let k ← evalExpr M key c
    Op.unletItem container k bang
  | .slice _ target first last =>
    let container ← evalExpr M target c
    let length := (← requireList container .notIndexable).length
    if ← Op.isLocked container then fail (.locked "[:]")
    let first ← evalBound M 0 first c
    let last ← evalBound M (length - 1) last c
    let items := (← get).heap.items container
    Op.setValue container
      (.list (Op.removeBetween items (fromEnd length first) (fromEnd length last + 1)))
  | e => faulty (.notRemovable e.form)

/-- Locks or unlocks what a target names. -/
def lockTarget (M : Machine) (isLocked : Bool) (depth : Int) (target : Expr) (c : Context) :
    Run Unit := do
  match target with
  | .var _ scope parts =>
    let name ← evalName M parts c
    (← spaces).setLock isLocked scope name depth c
  | e =>
    let r ← evalExpr M e c
    Run.onHeap (modify fun h => h.lockTo isLocked depth r)

/-- Does something to each target in order. -/
def forEachTarget (act : Expr → Run Unit) : List Expr → Run Unit
  | [] => return ()
  | e :: rest => do
    act e
    forEachTarget act rest

end Vimscript
