import Vimscript.Operator.Arithmetic
import Vimscript.Operator.Comparison

/-!
# Operators on evaluated operands

Both operands of `&&` and `||` are given here; where the second one is evaluated only when the first
one calls for it, the evaluator decides that.
-/

namespace Vimscript

/-- Applies a binary operator. -/
def BinaryOp.apply (matcher : Option Matcher) (op : BinaryOp) (a b : Ref) : Op Ref :=
  match op with
  | arith op => op.apply a b
  | compare relation rule => do
    Op.truth (← Op.reading fun h => h.compares matcher relation rule a b)
  | both => do
    if ← Op.toBool a then Op.truth (← Op.toBool b) else Op.truth false
  | either => do
    if ← Op.toBool a then Op.truth true else Op.truth (← Op.toBool b)

/-- Applies a unary operator. A plus sign leaves a Number or Float as the very object it is. -/
def UnaryOp.apply (op : UnaryOp) (a : Ref) : Op Ref := do
  match op, ← Op.value a with
  | not, v => Op.truth !(← v.toBool)
  | minus, .float x => Op.alloc (.float (Decimal.negate x))
  | minus, v => Op.number (Number.wrap (-(← v.toNumber)))
  | plus, .float _ | plus, .number _ => return a
  | plus, v => Op.number (← v.toNumber)

end Vimscript
