import Vimscript.Data.Basic
import Vimscript.Heap.Basic

/-!
# Exchanging values with the host

Plain data becomes new values and values become plain data. Truth values turn into Numbers and
nothing into zero; a Funcref turns into its name. A value that contains itself has no form as
plain data.
-/

namespace Vimscript

mutual

/-- Makes the value of some plain data. -/
def Op.ofData : Data → Op Ref
  | .null => Op.number 0
  | .bool b => Op.truth b
  | .int n => Op.number n
  | .float x => Op.alloc (.float x)
  | .text s => Op.string s
  | .bytes b => Op.alloc (.blob b)
  | .list items => do Op.list (← Op.ofItems items)
  | .map entries => do Op.alloc (.dict { entries := ← Op.ofEntries [] entries })
  | .foreign => faulty (.foreignValue Data.foreign.kind)

/-- Makes the values of some items. -/
def Op.ofItems : List Data → Op (List Ref)
  | [] => return []
  | d :: rest => do
    let r ← Op.ofData d
    return r :: (← Op.ofItems rest)

/-- Makes the values of some entries and adds them to those already made. -/
def Op.ofEntries (made : Entries Ref) : List (Key × Data) → Op (Entries Ref)
  | [] => return made
  | (.text k, d) :: rest => do
    let r ← Op.ofData d
    Op.ofEntries (Entries.put k r made) rest
  | (k, _) :: _ => faulty (.keyNotText k.toData.kind)

end

namespace Heap

/-- The plain data of a value inside the Lists and Dictionaries on `path`, following at most `fuel`
steps. -/
def toDataWithin (h : Heap) : (fuel : Nat) → (path : List Ref) → Ref → Except Fault Data
  | 0, _, _ => .error .recursiveList
  | fuel + 1, path, r =>
    match h.value r with
    | .number n => .ok (.int n)
    | .float x => .ok (.float x)
    | .string s => .ok (.text s)
    | .blob b => .ok (.bytes b)
    | .funcref f => .ok (.text f.callee.name)
    | .list items =>
      if path.contains r then .error .recursiveList
      else do return .list (← items.mapM (h.toDataWithin fuel (r :: path)))
    | .dict t =>
      if path.contains r then .error .recursiveDict
      else do
        let entries ← t.entries.mapM fun (k, v) => do
          return (Key.text k, ← h.toDataWithin fuel (r :: path) v)
        return .map entries

/-- The plain data of a value. -/
def toData (h : Heap) (r : Ref) : Except Fault Data :=
  h.toDataWithin (h.size + 1) [] r

end Heap

/-- The plain data of a value. -/
def Op.toData (r : Ref) : Op Data := do
  match (← get).toData r with
  | .ok d => return d
  | .error f => faulty f

end Vimscript
