import Vimscript.Heap.Copy
import Vimscript.Operator.Subscript
import Vimscript.Number.Word

/-!
# Built-in functions on Lists, Dictionaries and Blobs

Those that change a container refuse a locked one and return the container itself.
-/

namespace Vimscript.Library

/-- What a message calls the container a function was given. -/
def argumentOf (function : String) : Cause := .locked (function ++ " argument")

/-- The low byte of a Number. -/
def lowByte (n : Int) : UInt8 := UInt8.ofNat (n % 256).toNat

/-- Refuses a locked value. -/
def refuseLocked (r : Ref) (cause : Cause) : Op Unit := do
  if ← Op.isLocked r then fail cause

/-- Replaces the items of a List and returns it. -/
def withItems (r : Ref) (items : List Ref) : Op Ref := do
  Op.setValue r (.list items)
  return r

/-- Replaces the bytes of a Blob and returns it. -/
def withBytes (r : Ref) (bytes : List UInt8) : Op Ref := do
  Op.setValue r (.blob bytes)
  return r

/-! ## Kinds and copies -/

/-- The number of a value's kind. -/
def typeOf (r : Ref) : Op Ref := do Op.number (← Op.value r).kindNumber

/-- The length of a text or container. -/
def len (r : Ref) : Op Ref := do
  match ← Op.value r with
  | .string s => Op.number s.length
  | .number n => do Op.number (← orFault (Number.write n)).length
  | .list items => Op.number items.length
  | .dict t => Op.number t.size
  | .blob bytes => Op.number bytes.length
  | _ => fail .noLength

/-- Whether a value is empty or zero; a Funcref never is. -/
def empty (r : Ref) : Op Ref := do
  match ← Op.value r with
  | .list items => Op.truth items.isEmpty
  | .dict t => Op.truth t.entries.isEmpty
  | .blob bytes => Op.truth bytes.isEmpty
  | .string s => Op.truth (s == "")
  | .number n => Op.truth (n == 0)
  | .float x => Op.truth (x == 0.0)
  | .funcref _ => Op.truth false

/-! ## Adding and removing -/

/-- Adds an item at the end. -/
def add (r item : Ref) : Op Ref := do
  match ← Op.value r with
  | .list items =>
    refuseLocked r (argumentOf "add()")
    withItems r (items ++ [item])
  | .blob bytes => withBytes r (bytes ++ [lowByte (← Op.toNumber item)])
  | _ => fail .listOrBlobRequired

/-- A list with an item put in before a position. -/
def insertAt {α : Type} (i : Nat) (item : α) (items : List α) : List α :=
  items.take i ++ item :: items.drop i

/-- The place in a Blob an index stands for: one that is still negative counts from the end once
more, and any other stops at the end. -/
def blobPlace (length : Nat) (i : Int) : Nat :=
  min (fromEnd length i).toNat length

/-- Whether a Number can be the size of something. -/
def isSize (n : Int) : Bool :=
  Number.minValue ≤ n && n ≤ Number.maxValue

/-- Puts an item in before a position. -/
def insert (r item : Ref) (at_ : Option Ref) : Op Ref := do
  match ← Op.value r with
  | .list items =>
    refuseLocked r (argumentOf "insert()")
    let i ← Op.toNumberD 0 at_
    let p := fromEnd items.length i
    if p < 0 ∨ (items.length : Int) < p then fail (.listIndex (← orFault (Number.write i)))
    withItems r (insertAt p.toNat item items)
  | .blob bytes =>
    let i ← Op.toNumberD 0 at_
    let byte := lowByte (← Op.toNumber item)
    let p := fromEnd bytes.length i
    if !isSize p then faulty .placeOverflow
    withBytes r (insertAt (blobPlace bytes.length p) byte bytes)
  | _ => fail .listOrBlobRequired

/-- What happens to a key that both Dictionaries have. -/
inductive ExtendMode where
  | force
  | keep
  | error

/-- The mode with a name. -/
def ExtendMode.ofText? : String → Option ExtendMode
  | "force" => some force
  | "keep" => some keep
  | "error" => some error
  | _ => none

/-- Puts entries into a Dictionary one by one. -/
def extendEntries (mode : ExtendMode) (r : Ref) : List (String × Ref) → Op Unit
  | [] => return ()
  | (key, value) :: rest => do
    match ((← get).table r).get? key, mode with
    | some _, .error => fail (.keyExists key)
    | some _, .keep => pure ()
    | some held, .force =>
      refuseLocked held (.locked key)
      modify fun h => h.modifyTable r (·.insert key value)
    | none, _ =>
      refuseLocked r (argumentOf "extend()")
      modify fun h => h.modifyTable r (·.insert key value)
    extendEntries mode r rest

/-- Adds the items of one List or the entries of one Dictionary to another. -/
def extend (r other : Ref) (how : Option Ref) : Op Ref := do
  match ← Op.value r, ← Op.value other with
  | .list items, .list more =>
    refuseLocked r (argumentOf "extend()")
    match how with
    | none => withItems r (items ++ more)
    | some e =>
      let i ← Op.toNumber e
      let p := fromEnd items.length i
      if p < 0 ∨ (items.length : Int) < p then fail (.listIndex (← orFault (Number.write i)))
      withItems r (items.take p.toNat ++ more ++ items.drop p.toNat)
  | .dict _, .dict more =>
    let mode ← Op.toTextD "force" how
    match ExtendMode.ofText? mode with
    | none => fail (.invalidArgumentValue mode)
    | some mode =>
      extendEntries mode r more.entries
      return r
  | _, _ => fail (.containerArgument "extend()")

/-- Removes an item, a run of items or an entry, and returns what was removed. -/
def remove (r key : Ref) (last : Option Ref) : Op Ref := do
  match ← Op.value r with
  | .list items =>
    refuseLocked r (argumentOf "remove()")
    let i ← Op.toNumber key
    match position? items.length i, last with
    | none, _ => fail (.listIndex (← orFault (Number.write i)))
    | some p, none =>
      Op.setValue r (.list (items.eraseIdx p))
      return items.getD p default
    | some p, some e =>
      let j ← Op.toNumber e
      match position? items.length j with
      | none => fail (.listIndex (← orFault (Number.write j)))
      | some q =>
        if q < p then fail .invalidRange
        Op.setValue r (.list (items.take p ++ items.drop (q + 1)))
        Op.list (segment items p q)
  | .dict t =>
    if last.isSome then fail (.tooManyArguments "remove")
    refuseLocked r (argumentOf "remove()")
    let k ← Op.toText key
    match t.get? k with
    | none => fail (.noSuchKey k)
    | some held =>
      Op.setValue r (.dict (t.erase k))
      return held
  | .blob bytes =>
    let i ← Op.toNumber key
    match position? bytes.length i with
    | none => fail (.blobIndex (← orFault (Number.write i)))
    | some p =>
      Op.setValue r (.blob (bytes.eraseIdx p))
      Op.number (bytes.getD p 0).toNat
  | _ => fail (.indexableArgument "remove()")

/-- Turns the order of a List or Blob around. -/
def reverse (r : Ref) : Op Ref := do
  match ← Op.value r with
  | .list items =>
    refuseLocked r (argumentOf "reverse()")
    withItems r items.reverse
  | .blob bytes => withBytes r bytes.reverse
  | _ => fail .listRequired

/-! ## Looking in -/

/-- A part of a Funcref by its name. -/
def funcrefPart (f : Funcref) (part : String) (fallback : Ref) : Op Ref := do
  match part with
  | "name" => Op.string f.callee.name
  | "func" =>
    let arguments ← Op.list []
    Op.alloc (.funcref { callee := f.callee, arguments, kind := f.kind })
  | "args" => do Op.list ((← get).items f.arguments)
  | "dict" => return f.self.getD fallback
  | _ => fail (.invalidArgumentValue part)

/-- An item, or a default where there is none. -/
def getItem (r key : Ref) (default_ : Option Ref) : Op Ref := do
  let fallback ← match default_ with
    | some d => pure d
    | none => Op.number 0
  match ← Op.value r with
  | .list items =>
    let i ← Op.toNumber key
    return ((position? items.length i).bind (items[·]?)).getD fallback
  | .blob bytes =>
    let i ← Op.toNumber key
    match (position? bytes.length i).bind (bytes[·]?) with
    | some b => Op.number b.toNat
    | none => return fallback
  | .dict t => return (t.get? (← Op.toText key)).getD fallback
  | .funcref f => funcrefPart f (← Op.toText key) fallback
  | _ => fail (.indexableArgument "get()")

/-- The entries of a Dictionary. -/
def requireDict (r : Ref) : Op Table := do
  match ← Op.value r with
  | .dict t => return t
  | _ => fail .dictRequired

/-- Whether a Dictionary has a key. -/
def hasKey (r key : Ref) : Op Ref := do
  let t ← requireDict r
  Op.truth (t.contains (← Op.toText key))

/-- The keys of a Dictionary. -/
def keys (r : Ref) : Op Ref := do
  let t ← requireDict r
  Op.list (← t.keys.mapM Op.string)

/-- The values of a Dictionary. -/
def values (r : Ref) : Op Ref := do
  let t ← requireDict r
  Op.list t.values

/-- The entries of a Dictionary as Lists of key and value. -/
def items (r : Ref) : Op Ref := do
  let t ← requireDict r
  Op.list (← t.entries.mapM fun (k, v) => do Op.list [← Op.string k, v])

/-- The first position, counted from `i`, of an item that satisfies a test. -/
def firstWhere {α : Type} (test : α → Result Bool) : Nat → List α → Result (Option Nat)
  | _, [] => return none
  | i, x :: rest => do if ← test x then return some i else firstWhere test (i + 1) rest

/-- A position as a Number, or -1 where there is none. -/
def positionNumber : Option Nat → Int
  | some i => i
  | none => -1

/-- The first position of an item. -/
def index (r item : Ref) (start ignoreCase : Option Ref) : Op Ref := do
  let ignoreCase ← Op.toBoolD ignoreCase
  match ← Op.value r with
  | .list items =>
    let first := (fromEnd items.length (← Op.toNumberD 0 start)).toNat
    let found ← Op.reading fun h =>
      firstWhere (fun x => h.equal ignoreCase x item) first (items.drop first)
    Op.number (positionNumber found)
  | .blob bytes =>
    let byte ← Op.toNumber item
    let first := (← Op.toNumberD 0 start).toNat
    let test (b : UInt8) : Result Bool := .ok ((b.toNat : Int) == byte)
    let found ← firstWhere test first (bytes.drop first)
    Op.number (positionNumber found)
  | _ => fail .listRequired

/-- How many items satisfy a test. -/
def countWhere (test : Ref → Result Bool) : List Ref → Result Nat
  | [] => return 0
  | x :: rest => do
    let here := if ← test x then 1 else 0
    return here + (← countWhere test rest)

/-- How often a text that is not empty occurs, without overlaps; `skip` characters have been
accounted for already. -/
def occurrences (needle : List Char) : (skip : Nat) → List Char → Nat
  | _, [] => 0
  | skip + 1, _ :: rest => occurrences needle skip rest
  | 0, c :: rest =>
    if needle.isPrefixOf (c :: rest) then 1 + occurrences needle (needle.length - 1) rest
    else occurrences needle 0 rest

/-- How often an item occurs in a container, or a text in a text. -/
def count (r item : Ref) (ignoreCase start : Option Ref) : Op Ref := do
  let ignoreCase ← Op.toBoolD ignoreCase
  let test (h : Heap) (x : Ref) : Result Bool := h.equal ignoreCase x item
  match ← Op.value r with
  | .list items =>
    let i ← Op.toNumberD 0 start
    let first := fromEnd items.length i
    if start.isSome ∧ ¬ (0 ≤ first ∧ first < max items.length 1) then
      fail (.listIndex (← orFault (Number.write i)))
    Op.number (← Op.reading fun h => countWhere (test h) (items.drop first.toNat))
  | .dict t => Op.number (← Op.reading fun h => countWhere (test h) t.values)
  | .string s =>
    let needle ← Op.toText item
    let fold (x : String) : List Char := (if ignoreCase then Text.lower x else x).toList
    Op.number (if needle = "" then 0 else occurrences (fold needle) 0 (fold s))
  | _ => fail (.containerArgument "count()")

end Vimscript.Library
