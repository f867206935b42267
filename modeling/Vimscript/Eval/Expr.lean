import Vimscript.Eval.Machine
import Vimscript.Heap.Exchange
import Vimscript.Operator.Apply
import Vimscript.Operator.Subscript

/-!
# Evaluating expressions

By recursion on the expression. Operands are evaluated from left to right; `&&`, `||`, `?:` and `??`
leave out what they do not need. Only calls make use of the machine.
-/

namespace Vimscript

open Run

mutual

/-- The value of an expression. -/
def evalExpr (M : Machine) : Expr → Context → Run Ref
  | .int _ n, _ => Op.number n
  | .truth _ b, _ => Op.truth b
  | .float _ x, _ => Op.alloc (.float x)
  | .text _ s, _ => Op.string s
  | .list _ items, c => do Op.list (← evalAll M items c)
  | .dict _ entries, c => do Op.alloc (.dict { entries := ← evalEntries M [] entries c })
  | .var _ scope parts, c => do
    (← spaces).getOrFail scope (← evalName M parts c) c
  | .option _ _ name, _ => do
    match ← orFault ((← host).option? name) with
    | some value => Op.ofData value
    | none => fail (.unknownOption name.asText)
  | .register _ name, _ => do
    if Host.isRegisterName name then Op.string ((← host).register name)
    else fail (.invalidRegister name)
  | .environment _ name, _ => do Op.string (((← host).env? name).getD "")
  | .wholeScope _ scope, c => do (← spaces).space scope c
  | .binary _ .both left right, c => do
    if ← Op.toBool (← evalExpr M left c) then Op.truth (← Op.toBool (← evalExpr M right c))
    else Op.truth false
  | .binary _ .either left right, c => do
    if ← Op.toBool (← evalExpr M left c) then Op.truth true
    else Op.truth (← Op.toBool (← evalExpr M right c))
  | .binary _ op left right, c => do
    let a ← evalExpr M left c
    let b ← evalExpr M right c
    op.apply (some (← read).matcher) a b
  | .unary _ op operand, c => do op.apply (← evalExpr M operand c)
  | .ternary _ condition then_ else_, c => do
    if ← Op.toBool (← evalExpr M condition c) then evalExpr M then_ c else evalExpr M else_ c
  | .falsy _ left right, c => do
    let a ← evalExpr M left c
    if ← (← Op.value a).isFalsy then evalExpr M right c else return a
  | .index _ target key, c => do
    let t ← evalExpr M target c
    let k ← evalExpr M key c
    Op.index t k
  | .slice _ target first last, c => do
    let t ← evalExpr M target c
    let a ← evalOption M first c
    let b ← evalOption M last c
    Op.slice t a b
  | .call _ scope name args, c => do
    callByName M scope name (← evalAll M args c) none none c
  | .funcrefCall _ target args, c => do
    let f ← toFuncref (← evalExpr M target c)
    callFuncref M f (← evalAll M args c) none c
  | .lambda _ params body, c => do Op.alloc (.funcref (← makeLambda params body c))
  | .lambdaCall _ _ params body args, c => do
    let f ← makeLambda params body c
    callFuncref M f (← evalAll M args c) none c

/-- The values of some expressions in order. -/
def evalAll (M : Machine) : List Expr → Context → Run (List Ref)
  | [], _ => return []
  | e :: rest, c => do
    let r ← evalExpr M e c
    return r :: (← evalAll M rest c)

/-- The value of an expression that may be missing. -/
def evalOption (M : Machine) : Option Expr → Context → Run (Option Ref)
  | none, _ => return none
  | some e, c => do return some (← evalExpr M e c)

/-- The entries of a Dictionary after those already made; no key may come twice. -/
def evalEntries (M : Machine) (made : Entries Ref) :
    List (Expr × Expr) → Context → Run (Entries Ref)
  | [], _ => return made
  | (key, value) :: rest, c => do
    let k ← Op.toText (← evalExpr M key c)
    if (Entries.find? k made).isSome then fail (.duplicateKey k)
    let v ← evalExpr M value c
    evalEntries M (Entries.put k v made) rest c

/-- The name its parts make up. -/
def evalName (M : Machine) : List NamePart → Context → Run String
  | [], _ => return ""
  | .plain s :: rest, c => do return s ++ (← evalName M rest c)
  | .computed e :: rest, c => do
    let s ← Op.toText (← evalExpr M e c)
    return s ++ (← evalName M rest c)
  | .misplaced d :: _, _ => faulty (.noEvaluator d.kind)

end

/-- The value of an expression that stands on its own, and is then what is being executed. -/
def evalTop (M : Machine) (e : Expr) (c : Context) : Run Ref := do
  setSite e.site
  evalExpr M e c

/-- Performs the call an expression is, for a range of lines. -/
def evalCall (M : Machine) (range : Option (Int × Int)) : Expr → Context → Run Ref
  | .call _ scope name args, c => do
    callByName M scope name (← evalAll M args c) none range c
  | .funcrefCall _ target args, c => do
    let f ← toFuncref (← evalExpr M target c)
    callFuncref M f (← evalAll M args c) range c
  | .lambdaCall _ _ params body args, c => do
    let f ← makeLambda params body c
    callFuncref M f (← evalAll M args c) range c
  | _, _ => fail .functionNameRequired

end Vimscript
