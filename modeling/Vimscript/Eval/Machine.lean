import Vimscript.Heap.Coerce
import Vimscript.Run.Basic

/-!
# Machines

Calling a function, evaluating a text as an expression and executing one as statements can go on
without end. A machine offers the three with a bounded number of nested steps; everything else
is told in terms of a machine, by recursion on the tree at hand.
-/

namespace Vimscript

/-- A function about to be called. -/
structure Call where
  callee : Callee
  args : List Ref
  /-- The Dictionary it is called on. -/
  self : Option Ref := none
  /-- The lines it is called for. -/
  range : Option (Int × Int) := none
  context : Context

/-- The steps that may go on without end, and how often a loop may still turn. -/
structure Machine where
  fuel : Nat
  invoke : Call → Run Ref
  evaluate : Expr → Context → Run Ref
  execute : List Stmt → Context → Run Signal

/-- The machine that has no steps left. -/
def Machine.halted : Machine where
  fuel := 0
  invoke _ := throw .exhausted
  evaluate _ _ := throw .exhausted
  execute _ _ := throw .exhausted

namespace Run

/-- The Funcref an object holds. -/
def toFuncref (r : Ref) : Run Funcref := do
  match ← Op.value r with
  | .funcref f => return f
  | _ => fail .funcrefRequired

/-- Calls a Funcref: its captured arguments come first. -/
def callFuncref (M : Machine) (f : Funcref) (args : List Ref) (range : Option (Int × Int))
    (c : Context) : Run Ref := do
  let callee ← orFail ((← registry).resolve f c.script)
  let captured := (← get).heap.items f.arguments
  M.invoke { callee, args := captured ++ args, self := f.self, range, context := c }

/-- Calls a function by name. A variable that holds a Funcref can be called by its name, too. -/
def callByName (M : Machine) (scope : Option Scope) (name : Name) (args : List Ref)
    (self : Option Ref) (range : Option (Int × Int)) (c : Context) : Run Ref := do
  let r ← registry
  match ← orFault (r.find? scope name c.script) with
  | some callee =>
    trace ["call", r.displayName callee, "argc", toString args.length]
    M.invoke { callee, args, self, range, context := c }
  | none =>
    let name := name.asText
    match ← (← spaces).get? scope name c with
    | none => fail (.unknownFunction (displayName scope name))
    | some held =>
      match ← Op.value held with
      | .funcref f => callFuncref M { f with self := self <|> f.self } args range c
      | _ => fail (.unknownFunction (displayName scope name))

/-- Makes a lambda: a closure over the frame it is written in. -/
def makeLambda (params : List Name) (body : Expr) (c : Context) : Run Funcref := do
  let callee ← modifyGet fun s =>
    let (callee, registry) := s.registry.declareLambda params body c
    (callee, { s with registry })
  return { callee, arguments := ← Op.list [], kind := .lambda }

end Run

end Vimscript
