import Vimscript.Eval.Expr
import Vimscript.Library.MergeSort
import Vimscript.Library.RunSort
import Vimscript.Library.Text
import Vimscript.Syntax.Reader

/-!
# Built-in functions that work with functions

Making Funcrefs, calling them, and the three that call one for every item: `map()`, `filter()` and
`sort()`.
-/

namespace Vimscript.Library

open Run

/-! ## Funcrefs -/

/-- The items of an optional List. -/
def listArgument : Option Ref → Op (Option (List Ref))
  | none => return none
  | some r => do
    match ← Op.value r with
    | .list items => return some items
    | _ => fail .listRequired

/-- Checks that an optional value is a Dictionary. -/
def dictArgument : Option Ref → Op Unit
  | none => return ()
  | some r => do
    match ← Op.value r with
    | .dict _ => return ()
    | _ => fail .dictRequired

/-- A single Dictionary after the name is the one to call the function on, not an argument List. -/
def funcrefOptions (arguments self : Option Ref) : Op (Option Ref × Option Ref) := do
  match arguments, self with
  | some r, none =>
    match ← Op.value r with
    | .dict _ => return (none, some r)
    | _ => return (some r, none)
  | _, _ => return (arguments, self)

/-- A Funcref from a name or from another Funcref, with further arguments and a Dictionary. -/
def makeFuncref (kind : FuncrefKind) (name : Ref) (arguments self : Option Ref) (c : Context) :
    Run Funcref := do
  let (arguments, self) ← funcrefOptions arguments self
  let items ← listArgument arguments
  dictArgument self
  let f ← match ← Op.value name with
    | .funcref f =>
      match items with
      | none => pure f
      | some items => do
        let captured := (← get).heap.items f.arguments
        pure { f with arguments := ← Op.list (captured ++ items) }
    | v => do
      let text ← v.toText
      let (scope, bare) := splitScope text
      match (← registry).lookup? scope (.text bare) c.script with
      | none => fail (.unknownCallee text)
      | some callee => pure { callee, arguments := ← Op.list (items.getD []), kind }
  match self with
  | none => return f
  | some d => return { f with self := some d, isSelfFixed := true }

/-- A new Funcref. -/
def newFuncref (kind : FuncrefKind) (name : Ref) (arguments self : Option Ref) (c : Context) :
    Run Ref := do
  Op.alloc (.funcref (← makeFuncref kind name arguments self c))

/-- Calls a function with the items of a List. -/
def call (M : Machine) (function arguments : Ref) (self : Option Ref) (c : Context) : Run Ref := do
  let args ← match ← Op.value arguments with
    | .list items => pure items
    | _ => fail .listRequired
  dictArgument self
  match ← Op.value function with
  | .funcref f => callFuncref M { f with self := self <|> f.self } args none c
  | .string s =>
    let (scope, name) := splitScope s
    callByName M scope (.text name) args self none c
  | _ => fail .funcrefRequired

/-! ## Callbacks -/

/-- Parses a text as an expression. -/
def parseExpression (text : String) : Run Expr := do
  match (← read).parser with
  | none => fail (.notEditorCommand text)
  | some parser =>
    let tree ← orFault (parser.expression text)
    orFault (Reader.expression tree)

/-- Removes a variable of the editor. -/
def dropVim (name : String) : Run Unit := do
  let vim := (← spaces).vim
  let t := (← get).heap.table vim
  if t.contains name then Op.setValue vim (.dict (t.erase name)) else faulty (.lostEntry name)

/-- Evaluates an expression while `v:key` and `v:val` hold a key and a value. -/
def evalWithItem (M : Machine) (e : Expr) (c : Context) (key value : Ref) : Run Ref := do
  let sp ← spaces
  sp.setVim "key" key
  sp.setVim "val" value
  let result ← attempt (M.evaluate e c)
  dropVim "key"
  dropVim "val"
  ending result

/-- What is done for every item: a Funcref is called, and a text is evaluated. -/
def callback (M : Machine) (function : Ref) (c : Context) : Run (Ref → Ref → Run Ref) := do
  match ← Op.value function with
  | .funcref f => return fun key value => callFuncref M f [key, value] none c
  | v =>
    let e ← parseExpression (← v.toText)
    return evalWithItem M e c

/-- The results of a callback for each item with its position. -/
def mapItems (act : Ref → Ref → Run Ref) : Nat → List Ref → Run (List Ref)
  | _, [] => return []
  | i, item :: rest => do
    let result ← act (← Op.number i) item
    return result :: (← mapItems act (i + 1) rest)

/-- The items for which a callback gives a true result. -/
def filterItems (act : Ref → Ref → Run Ref) : Nat → List Ref → Run (List Ref)
  | _, [] => return []
  | i, item :: rest => do
    let keep ← Op.toBool (← act (← Op.number i) item)
    let kept ← filterItems act (i + 1) rest
    return if keep then item :: kept else kept

/-- Replaces each entry of a Dictionary by the result of a callback. -/
def mapEntries (act : Ref → Ref → Run Ref) (r : Ref) : List (String × Ref) → Run Unit
  | [] => return ()
  | (key, value) :: rest => do
    let result ← act (← Op.string key) value
    Run.onHeap (modify fun h => h.modifyTable r (·.insert key result))
    mapEntries act r rest

/-- Removes each entry of a Dictionary for which a callback gives a false result. -/
def filterEntries (act : Ref → Ref → Run Ref) (r : Ref) : List (String × Ref) → Run Unit
  | [] => return ()
  | (key, value) :: rest => do
    let keep ← Op.toBool (← act (← Op.string key) value)
    if !keep then
      if ((← get).heap.table r).contains key then
        Run.onHeap (modify fun h => h.modifyTable r (·.erase key))
      else faulty (.lostEntry key)
    filterEntries act r rest

/-- Runs a callback over a List or Dictionary, which the results change in place: a List when all
are there, a Dictionary as they come. -/
def overContainer (M : Machine) (fname : String) (r function : Ref) (c : Context)
    (onItems : (Ref → Ref → Run Ref) → Nat → List Ref → Run (List Ref))
    (onEntries : (Ref → Ref → Run Ref) → Ref → List (String × Ref) → Run Unit) : Run Ref := do
  match ← Op.value r with
  | .list items =>
    if ← Op.isLocked r then fail (.locked fname)
    let act ← callback M function c
    Op.setValue r (.list (← onItems act 0 items))
    return r
  | .dict t =>
    if ← Op.isLocked r then fail (.locked fname)
    let act ← callback M function c
    onEntries act r t.entries
    return r
  | _ => fail (.containerArgument fname)

/-- Replaces each item by the result of a callback. -/
def map (M : Machine) (r function : Ref) (c : Context) : Run Ref :=
  overContainer M "map()" r function c mapItems mapEntries

/-- Keeps the items for which a callback gives a true result. -/
def filter (M : Machine) (r function : Ref) (c : Context) : Run Ref :=
  overContainer M "filter()" r function c filterItems filterEntries

/-! ## Sorting -/

/-- What `sort()` sorts by. -/
inductive SortKey where
  | text
  | foldedText
  | number
  | leadingNumber
  | float
  /-- By a function that compares two items. -/
  | comparator

/-- The key a mode stands for; any other mode names a function. -/
def SortKey.ofMode : String → SortKey
  | "" | "0" => .text
  | "1" | "i" => .foldedText
  | "n" => .number
  | "N" => .leadingNumber
  | "f" => .float
  | _ => .comparator

/-- The order of two Numbers or Floats; anything else counts as zero. -/
def orderNumeric (a b : Value) : Ordering :=
  let ofFloat (x : Float) (n : Int) : Ordering :=
    match Decimal.Dyadic.ofFloat? x with
    | some d => d.compareInt n
    | none => if x.isNaN then .eq else if Decimal.signBit x then .lt else .gt
  match a, b with
  | .float x, .float y => orderFloats x y
  | .float x, .number n => ofFloat x n
  | .float x, _ => ofFloat x 0
  | .number m, .float y => (ofFloat y m).swap
  | _, .float y => (ofFloat y 0).swap
  | .number m, .number n => compare m n
  | .number m, _ => compare m 0
  | _, .number n => compare 0 n
  | _, _ => .eq

/-- The Number a Number or String stands for, and zero for anything else. -/
def leadingOf : Value → Result Int
  | .number n => .ok n
  | .string s => (Value.string s).toNumber
  | _ => .ok 0

/-- Whether a value is not a number and so compares with nothing. -/
def isUnordered : Value → Bool
  | .float x => x.isNaN
  | _ => false

/-- Sorts items by a key each of them has; items with equal keys keep their order. -/
def sortByKey {κ : Type} (order : κ → κ → Ordering) (items : List (κ × Ref)) : List Ref :=
  (items.mergeSort fun a b => order a.1 b.1 != .gt).map (·.2)

/-- Sorts items by keys of which some, as `unordered` tells, may compare with nothing. -/
def sortByPartialKey {κ : Type} (unordered : κ → Bool) (order : κ → κ → Ordering)
    (items : List (κ × Ref)) : List Ref :=
  if items.any fun e => unordered e.1 then
    (runSort (fun a b => order a.1 b.1 == .lt) items).map (·.2)
  else sortByKey order items

/-- Items with the keys they are sorted by. -/
def keyed {κ : Type} (key : Ref → Result κ) (items : List Ref) : Result (List (κ × Ref)) :=
  items.mapM fun r => do return (← key r, r)

/-- Sorts items without a comparing function. -/
def sortItems (h : Heap) (key : SortKey) (items : List Ref) : Result (List Ref) := do
  match key with
  | .text | .comparator => return sortByKey orderTexts (← keyed h.itemText items)
  | .foldedText =>
    return sortByKey orderTexts (← keyed (fun r => do return Text.lower (← h.itemText r)) items)
  | .number =>
    return sortByPartialKey isUnordered orderNumeric (items.map fun r => (h.value r, r))
  | .leadingNumber => return sortByKey compare (← keyed (fun r => leadingOf (h.value r)) items)
  | .float =>
    return sortByPartialKey Float.isNaN orderFloats (← keyed (fun r => (h.value r).toFloat) items)

/-- How `sort()` was told to sort. -/
def sortMode : Option Ref → Run SortKey
  | none => return .text
  | some r => do
    match ← Op.value r with
    | .funcref _ => return .comparator
    | .string s => return .ofMode s
    | v => return .ofMode (← orFault (Number.write (← v.toNumber)))

/-- The function `sort()` compares with. -/
def comparator (how : Ref) (self : Option Ref) (c : Context) : Run Funcref := do
  let f ← match ← Op.value how with
    | .funcref f => pure f
    | _ => makeFuncref .funcref how none none c
  dictArgument self
  return { f with self := self <|> f.self }

/-- Sorts a List in place. -/
def sort (M : Machine) (r : Ref) (how self : Option Ref) (c : Context) : Run Ref := do
  match ← Op.value r with
  | .list items =>
    if ← Op.isLocked r then fail (.locked "sort() argument")
    let sorted ← match ← sortMode how, how with
      | .comparator, some how => do
        let f ← comparator how self c
        let le (a b : Ref) : Run Bool := do
          return (← Op.toNumber (← callFuncref M f [a, b] none c)) ≤ 0
        mergeSortM le items
      | key, _ => Op.reading fun h => sortItems h key items
    Op.setValue r (.list sorted)
    return r
  | _ => fail (.listArgument "sort()")

end Vimscript.Library
