import Vimscript.Eval.Expr

/-!
# Assignment

A target is a variable, an item or slice of a container, an option, a register or an environment
variable. `+=` on two Lists extends the List in place; every other compound assignment stores a
new value.
-/

namespace Vimscript

/-! ## Values -/

namespace Op

/-- Extends a List in place. -/
def extendList (r : Ref) (items : List Ref) : Op Unit := do
  modify fun h => h.setValue r (.list (h.items r ++ items))

/-- What a compound assignment stores. `what` names the target in messages. -/
def combine (op : Arith) (current value : Ref) (what : String) : Op Ref := do
  match op, ← Op.value current, ← Op.value value with
  | .add, .list _, .list items =>
    if ← isLocked current then fail (.locked what)
    extendList current items
    return current
  | op, _, _ => op.apply current value

/-- What an assignment stores, given what the target holds. -/
def combined (op : LetOp) (current value : Ref) (what : String) : Op Ref :=
  match op with
  | .set => return value
  | .update op => combine op current value what

/-- The name of an item in messages. -/
def itemName (i : Int) : String := "[" ++ toString i ++ "]"

/-- A `dict` function that is stored in a Dictionary is called on it from then on. -/
def adopted (isDict : Callee → Bool) (dict value : Ref) : Op Ref := do
  match ← Op.value value with
  | .funcref f =>
    if isDict f.callee && !f.isSelfFixed then alloc (.funcref { f with self := some dict })
    else return value
  | _ => return value

/-- Assigns an entry of a Dictionary. A locked entry refuses to be changed, and a locked Dictionary
refuses a new one. -/
def assignEntry (isDict : Callee → Bool) (dict : Ref) (key : String) (op : LetOp) (value : Ref) :
    Op Unit := do
  match ((← get).table dict).get? key, op with
  | none, .update _ => fail (.noSuchKey key)
  | none, .set =>
    if ← isLocked dict then fail (.locked key)
    let value ← adopted isDict dict value
    modify fun h => h.modifyTable dict (·.insert key value)
  | some current, op =>
    let value ← combined op current value key
    if ← isLocked current then fail (.locked key)
    let value ← adopted isDict dict value
    modify fun h => h.modifyTable dict (·.insert key value)

/-- Replaces the item of a List at a position. -/
def setItem (list : Ref) (i : Nat) (value : Ref) : Op Unit :=
  modify fun h => h.setValue list (.list ((h.items list).set i value))

/-- Assigns an item of a container. -/
def assignItem (isDict : Callee → Bool) (container key : Ref) (op : LetOp) (value : Ref) :
    Op Unit := do
  match ← Op.value container with
  | .dict _ => assignEntry isDict container (← toText key) op value
  | .list items =>
    let i ← toNumber key
    match position? items.length i with
    | none => fail (.listIndex (← orFault (Number.write i)))
    | some p =>
      let current := items.getD p default
      let value ← combined op current value (itemName i)
      if ← isLocked current then fail (.locked (itemName i))
      setItem container p value
  | .blob bytes =>
    let i ← toNumber key
    match position? bytes.length i with
    | none => fail (.blobIndex (← orFault (Number.write i)))
    | some p =>
      let value ← match op with
        | .set => pure value
        | .update op => do combine op (← number (bytes.getD p 0).toNat) value (itemName i)
      let n ← toNumber value
      setValue container (.blob (bytes.set p (UInt8.ofNat (n % 256).toNat)))
  | _ => fail .notIndexable

/-- Assigns items of a List one by one from position `i` on; behind the end of the List as it was,
`length`, they are added. -/
def assignRun (container : Ref) (op : LetOp) (length : Nat) : Nat → List Ref → Op Unit
  | _, [] => return ()
  | i, item :: rest => do
    if i < length then
      match ((← get).items container)[i]? with
      | none => faulty .lostItem
      | some current =>
        if ← isLocked current then fail (.locked (itemName i))
        let value ← combined op current item (itemName i)
        setItem container i value
    else
      if ← isLocked container then fail (.locked (itemName i))
      extendList container [item]
    assignRun container op length (i + 1) rest

end Op

open Run

/-! ## Targets -/

/-- The Number of a bound that may be missing. -/
def evalBound (M : Machine) (fallback : Int) (bound : Option Expr) (c : Context) : Run Int := do
  match bound with
  | some e => Op.toNumber (← evalExpr M e c)
  | none => return fallback

/-- The items of a List. -/
def requireList (r : Ref) (cause : Cause) : Run (List Ref) := do
  match ← Op.value r with
  | .list items => return items
  | _ => fail cause

/-- Checks that as many items are given as the slice from `first` to the bound `last` has. -/
def checkSliceCount (length : Nat) (first last : Int) (count : Nat) : Result Unit := do
  let last := fromEnd length last
  if (length : Int) ≤ last then fail (.listIndex (← orFault (Number.write last)))
  else if (count : Int) < last - first + 1 then fail .listTooShort
  else if last - first + 1 < count then fail .listTooLong

/-- Assigns a slice of a List. Without a last bound the List grows as needed. -/
def assignSlice (M : Machine) (target : Expr) (first last : Option Expr) (op : LetOp) (value : Ref)
    (c : Context) : Run Unit := do
  let container ← evalExpr M target c
  let length := (← requireList container .notIndexable).length
  let _ ← requireList value .sliceNeedsList
  let start := fromEnd length (← evalBound M 0 first c)
  if start < 0 ∨ (length : Int) < start then fail (.listIndex (← orFault (Number.write start)))
  let items := (← get).heap.items value
  match last with
  | none => pure ()
  | some e =>
    let last ← Op.toNumber (← evalExpr M e c)
    checkSliceCount length start last items.length
  Op.assignRun container op length start.toNat items

/-- Assigns a value to a target. -/
def assign (M : Machine) (target : Expr) (op : LetOp) (value : Ref) (c : Context) : Run Unit := do
  match target with
  | .var _ scope parts =>
    let name ← evalName M parts c
    let sp ← spaces
    let value ← match op with
      | .set => pure value
      | .update op => do
        Op.combine op (← sp.getOrFail scope name c) value (displayName scope name)
    sp.set scope name value c
  | .index _ target key =>
    let container ← evalExpr M target c
    let k ← evalExpr M key c
    Op.assignItem (← registry).isDict container k op value
  | .slice _ target first last => assignSlice M target first last op value c
  | .option _ _ name =>
    match ← orFault ((← host).option? name) with
    | none => fail (.unknownOption name.asText)
    | some current =>
      let value ← match op with
        | .set => pure value
        | .update op => do Op.combine op (← Op.ofData current) value name.asText
      let data ← Op.toData value
      modifyHost (·.setOption name.asText data)
  | .register _ name =>
    if !Host.isRegisterName name then fail (.invalidRegister name)
    let value ← match op with
      | .set => pure value
      | .update op => do Op.combine op (← Op.string ((← host).register name)) value name
    let text ← Op.toText value
    modifyHost (·.setRegister name text)
  | .environment _ name =>
    let value ← match op with
      | .set => pure value
      | .update op => do Op.combine op (← Op.string (((← host).env? name).getD "")) value name
    let text ← Op.toText value
    modifyHost (·.setEnv name text)
  | e => faulty (.notAssignable e.form)

/-- Assigns items to targets one by one. -/
def assignEach (M : Machine) (op : LetOp) (c : Context) : List (Expr × Ref) → Run Unit
  | [] => return ()
  | (target, item) :: rest => do
    assign M target op item c
    assignEach M op c rest

/-- Assigns the items of a List to as many targets. -/
def unpack (M : Machine) (targets : List Expr) (op : LetOp) (value : Ref) (c : Context) :
    Run Unit := do
  let items ← requireList value .listRequired
  if items.length < targets.length then fail .tooManyTargets
  if targets.length < items.length then fail .tooFewTargets
  assignEach M op c (targets.zip items)

end Vimscript
