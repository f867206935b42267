import Vimscript.Heap.Equal
import Vimscript.Number.Limit

/-!
# Conversions

Each kind of value decides which conversions it allows; the others fail with an error that names the
kind. A String used as a Number gives the literal it starts with, unless that has too many
digits.
-/

namespace Vimscript

namespace Value

/-- The word for the kind of a value. -/
def kind : Value → String
  | .number _ => "number"
  | .float _ => "float"
  | .string _ => "string"
  | .list _ => "list"
  | .dict _ => "dict"
  | .funcref _ => "funcref"
  | .blob _ => "blob"

/-- The number scripts know the kind of a value by. -/
def kindNumber : Value → Int
  | .number _ => 0
  | .string _ => 1
  | .funcref _ => 2
  | .list _ => 3
  | .dict _ => 4
  | .float _ => 5
  | .blob _ => 10

/-- A value used as a Number. -/
def toNumber : Value → Result Int
  | .number n => .ok n
  | .string s => orFault (Number.readLeading s)
  | .float _ => fail .floatAsNumber
  | .list _ => fail .listAsNumber
  | .dict _ => fail .dictAsNumber
  | .funcref _ => fail .funcrefAsNumber
  | .blob _ => fail .blobAsNumber

/-- A value used as a Float. -/
def toFloat : Value → Result Float
  | .float x => .ok x
  | v => do numberToFloat (← v.toNumber)

/-- A value used as a text. -/
def toText : Value → Result String
  | .number n => orFault (Number.write n)
  | .string s => .ok s
  | .float _ => fail .floatAsString
  | .list _ => fail .listAsString
  | .dict _ => fail .dictAsString
  | .funcref _ => fail .funcrefAsString
  | .blob _ => fail .blobAsString

/-- A value used as a condition. -/
def toBool : Value → Result Bool
  | .number n => .ok (n != 0)
  | v => do return !((← v.toFloat) == 0.0)

/-- Whether a value counts as missing: an empty container does, a Funcref never does. -/
def isFalsy : Value → Result Bool
  | .list items => .ok items.isEmpty
  | .dict t => .ok t.entries.isEmpty
  | .blob bytes => .ok bytes.isEmpty
  | .funcref _ => .ok false
  | v => do return !(← v.toBool)

/-- Whether a value is a Float. -/
def isFloat : Value → Bool
  | .float _ => true
  | _ => false

/-- Whether values of this kind are told apart by identity. -/
def isShared : Value → Bool
  | .list _ | .dict _ | .blob _ => true
  | _ => false

end Value

namespace Op

/-- A value used as a Number. -/
def toNumber (r : Ref) : Op Int := do (← value r).toNumber

/-- A value used as a text. -/
def toText (r : Ref) : Op String := do (← value r).toText

/-- A value used as a condition. -/
def toBool (r : Ref) : Op Bool := do (← value r).toBool

/-- An optional value used as a Number, or what stands in for it. -/
def toNumberD (fallback : Int) : Option Ref → Op Int
  | some r => toNumber r
  | none => return fallback

/-- An optional value used as a text, or what stands in for it. -/
def toTextD (fallback : String) : Option Ref → Op String
  | some r => toText r
  | none => return fallback

/-- An optional value used as a condition, false when it is missing. -/
def toBoolD : Option Ref → Op Bool
  | some r => toBool r
  | none => return false

end Op

end Vimscript
