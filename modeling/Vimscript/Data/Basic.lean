import Vimscript.Decimal.Shortest
import Vimscript.Text.Quoted

/-!
# Plain data

The data a host exchanges with scripts and the documents that hold statement trees: nothing,
truth values, integers, doubles, texts, bytes, lists and maps. A map keeps the order in which
its keys were first given.
-/

namespace Vimscript

/-- A key of a map. Scripts use texts only; documents may hold any scalar. -/
inductive Key where
  | null
  | bool (b : Bool)
  | int (n : Int)
  | float (x : Float)
  | text (s : String)
deriving Repr

/-- Plain data. -/
inductive Data where
  | null
  | bool (b : Bool)
  | int (n : Int)
  | float (x : Float)
  | text (s : String)
  | bytes (b : List UInt8)
  | list (items : List Data)
  | map (entries : List (Key × Data))
  /-- A host object of no supported kind. -/
  | foreign
deriving Repr

instance : Inhabited Data := ⟨.null⟩

/-! ## Numbers whatever they are written as -/

/-- A number apart from how it is written. -/
inductive Quantity where
  | whole (n : Int)
  /-- A double that is no integer, by its bits. -/
  | fraction (bits : UInt64)
deriving Repr, DecidableEq

/-- The quantity of a double; not-a-number has none, since it equals nothing. -/
def Quantity.ofFloat? (x : Float) : Option Quantity :=
  match Decimal.Dyadic.ofFloat? x with
  | some d =>
    some (if d.compareInt d.truncate == .eq then .whole d.truncate else .fraction x.toBits)
  | none => if x.isNaN then none else some (.fraction x.toBits)

/-- The quantity of a truth value. -/
def Quantity.ofBool (b : Bool) : Quantity := .whole (if b then 1 else 0)

/-- The quantity a key is, if it is one. -/
def Key.quantity? : Key → Option Quantity
  | .bool b => some (.ofBool b)
  | .int n => some (.whole n)
  | .float x => Quantity.ofFloat? x
  | .null | .text _ => none

/-- Two keys are the same when they are equal, however they are written: 1, 1.0 and true are. -/
def Key.same : Key → Key → Bool
  | .null, .null => true
  | .text a, .text b => a == b
  | a, b =>
    match a.quantity?, b.quantity? with
    | some x, some y => x == y
    | _, _ => false

/-- The key as data. -/
def Key.toData : Key → Data
  | .null => .null
  | .bool b => .bool b
  | .int n => .int n
  | .float x => .float x
  | .text s => .text s

namespace Data

/-- Data as a key; only scalars can be keys. -/
def key? : Data → Option Key
  | .null => some .null
  | .bool b => some (.bool b)
  | .int n => some (.int n)
  | .float x => some (.float x)
  | .text s => some (.text s)
  | _ => none

/-- Puts an entry into a map: a known key keeps its place and takes the new value. -/
def putEntry (key : Key) (value : Data) : List (Key × Data) → List (Key × Data)
  | [] => [(key, value)]
  | (k, v) :: rest => if k.same key then (k, value) :: rest else (k, v) :: putEntry key value rest

/-- The map given by its entries in writing order. -/
def ofEntries (entries : List (Key × Data)) : Data :=
  .map (entries.foldl (fun acc (k, v) => putEntry k v acc) [])

/-- The value of a text key. -/
def lookup? (name : String) : List (Key × Data) → Option Data
  | [] => none
  | (.text k, v) :: rest => if k = name then some v else lookup? name rest
  | _ :: rest => lookup? name rest

/-- The value of any key. -/
def lookupKey? (key : Key) (entries : List (Key × Data)) : Option Data :=
  (entries.find? fun e => e.1.same key).map (·.2)

/-- The field of a map; nothing for data of another kind. -/
def field? (name : String) : Data → Option Data
  | .map entries => lookup? name entries
  | _ => none

/-- The word for the kind of some data. -/
def kind : Data → String
  | .null => "NoneType"
  | .bool _ => "bool"
  | .int _ => "int"
  | .float _ => "float"
  | .text _ => "str"
  | .bytes _ => "bytes"
  | .list _ => "list"
  | .map _ => "dict"
  | .foreign => "object"

/-- Whether the data counts as true where a flag is expected. -/
def isTruthy : Data → Bool
  | .null => false
  | .bool b => b
  | .int n => n != 0
  | .float x => !(x == 0.0)
  | .text s => s != ""
  | .bytes b => !b.isEmpty
  | .list items => !items.isEmpty
  | .map entries => !entries.isEmpty
  | .foreign => true

mutual

/-- Data as a diagnostic shows it, with texts quoted. -/
def shown : Data → String
  | .null => "None"
  | .bool true => "True"
  | .bool false => "False"
  | .int n => toString n
  | .float x => Decimal.shortest x
  | .text s => Text.quoted s
  | .bytes b => Text.quotedBytes b
  | .list items => "[" ++ ", ".intercalate (shownAll items) ++ "]"
  | .map entries => "\x7b" ++ ", ".intercalate (shownEntries entries) ++ "\x7d"
  | .foreign => "<object>"

/-- The items of a list as a diagnostic shows them. -/
def shownAll : List Data → List String
  | [] => []
  | d :: rest => shown d :: shownAll rest

/-- The entries of a map as a diagnostic shows them. -/
def shownEntries : List (Key × Data) → List String
  | [] => []
  | (k, v) :: rest => (shownKey k ++ ": " ++ shown v) :: shownEntries rest

/-- A key as a diagnostic shows it. -/
def shownKey : Key → String
  | .null => "None"
  | .bool true => "True"
  | .bool false => "False"
  | .int n => toString n
  | .float x => Decimal.shortest x
  | .text s => Text.quoted s

end

mutual

/-- How deeply lists and maps are nested in some data. -/
def depth : Data → Nat
  | .list items => depthAll items + 1
  | .map entries => depthEntries entries + 1
  | _ => 1

/-- The greatest depth of some items. -/
def depthAll : List Data → Nat
  | [] => 1
  | d :: rest => max (depth d) (depthAll rest)

/-- The greatest depth of some entries. -/
def depthEntries : List (Key × Data) → Nat
  | [] => 1
  | (_, d) :: rest => max (depth d) (depthEntries rest)

end

mutual

/-- The greatest number of decimal digits of an integer in some data. -/
def mostDigits : Data → Nat
  | .int n => (Nat.toDigits 10 n.natAbs).length
  | .list items => mostDigitsAll items
  | .map entries => mostDigitsEntries entries
  | _ => 0

/-- The greatest number of digits in some items. -/
def mostDigitsAll : List Data → Nat
  | [] => 0
  | d :: rest => max (mostDigits d) (mostDigitsAll rest)

/-- The greatest number of digits in some entries. -/
def mostDigitsEntries : List (Key × Data) → Nat
  | [] => 0
  | (_, d) :: rest => max (mostDigits d) (mostDigitsEntries rest)

end

/-- Whether data is a number of a given quantity. -/
def sameQuantity (q : Option Quantity) : Data → Bool
  | .bool b => q == some (.ofBool b)
  | .int n => q == some (.whole n)
  | .float x => q.isSome && q == Quantity.ofFloat? x
  | _ => false

mutual

/-- Whether two pieces of data are equal, however their numbers are written. -/
def same : Data → Data → Bool
  | .null, other => match other with
    | .null => true
    | _ => false
  | .bool a, other => sameQuantity (some (.ofBool a)) other
  | .int a, other => sameQuantity (some (.whole a)) other
  | .float a, other => sameQuantity (Quantity.ofFloat? a) other
  | .text a, other => match other with
    | .text b => a == b
    | _ => false
  | .bytes a, other => match other with
    | .bytes b => a == b
    | _ => false
  | .list a, other => match other with
    | .list b => sameAll a b
    | _ => false
  | .map a, other => match other with
    | .map b => a.length == b.length && sameEntries a b
    | _ => false
  | .foreign, _ => false

/-- Whether two lists of data are equal. -/
def sameAll : List Data → List Data → Bool
  | [], [] => true
  | a :: as, b :: bs => same a b && sameAll as bs
  | _, _ => false

/-- Whether some entries are found among others. -/
def sameEntries : List (Key × Data) → List (Key × Data) → Bool
  | [], _ => true
  | (k, v) :: rest, other =>
    (match lookupKey? k other with
      | some w => same v w
      | none => false) && sameEntries rest other

end

/-- Data where a text is expected: a text stands for itself. -/
def asText : Data → String
  | .text s => s
  | d => d.shown

end Data

end Vimscript
