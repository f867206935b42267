import Vimscript.Heap.Coerce
import Vimscript.Number.Word

/-!
# Arithmetic operators

Two Lists or two Blobs are joined by `+`. Otherwise a Float on either side makes the operation one
on Floats, and without a Float both sides are used as Numbers of 64 bits.
-/

namespace Vimscript

/-- The quotient of two Floats; a zero divisor gives an infinity, or not-a-number for a zero or
undefined dividend. -/
def floatQuotient (a b : Float) : Float :=
  if b == 0.0 then
    if a == 0.0 || a.isNaN then Decimal.notANumber
    else if Decimal.signBit a != Decimal.signBit b then Decimal.negate Decimal.infinity
    else Decimal.infinity
  else a / b

namespace Arith

/-- The operator on Numbers. Only `%` leaves its result as it is: a remainder is never larger than
the dividend. -/
def onNumbers : Arith → Int → Int → Int
  | add, a, b => Number.wrap (a + b)
  | subtract, a, b => Number.wrap (a - b)
  | multiply, a, b => Number.wrap (a * b)
  | divide, a, b => Number.quotient a b
  | modulo, a, b => Number.remainder a b
  | _, a, _ => a

/-- The operator on Floats; there is no remainder of Floats. -/
def onFloats : Arith → Float → Float → Result Float
  | add, a, b => .ok (a + b)
  | subtract, a, b => .ok (a - b)
  | multiply, a, b => .ok (a * b)
  | divide, a, b => .ok (floatQuotient a b)
  | _, _, _ => fail .floatModulo

/-- The value an arithmetic operator gives. -/
def onValues (op : Arith) (a b : Value) : Result Value :=
  match op, a, b with
  | dot, a, b | dotDot, a, b => do return .string ((← a.toText) ++ (← b.toText))
  | add, .list xs, .list ys => .ok (.list (xs ++ ys))
  | add, .blob xs, .blob ys => .ok (.blob (xs ++ ys))
  | op, a, b =>
    if a.isFloat || b.isFloat then
      if op = modulo then fail .floatModulo
      else do return .float (← op.onFloats (← a.toFloat) (← b.toFloat))
    else do return .number (op.onNumbers (← a.toNumber) (← b.toNumber))

/-- Applies an arithmetic operator. -/
def apply (op : Arith) (a b : Ref) : Op Ref := do
  Op.alloc (← op.onValues (← Op.value a) (← Op.value b))

end Arith

end Vimscript
