import Vimscript.Eval.Stmt
import Vimscript.Library.Apply

/-!
# Calling functions

The number of arguments is checked first, then that a `dict` function has its Dictionary. The body
runs in a frame of its own, in the script that declared the function. Without `abort`, an error
is reported and the next statement of the body runs; with it, the error ends the call.
-/

namespace Vimscript

open Run

/-- Checks a number of arguments against what a function accepts. -/
def checkArity (name : String) (arity : Nat × Option Nat) (count : Nat) : Except Cause Unit :=
  if count < arity.1 then .error (.notEnoughArguments name)
  else if arity.2.any (· < count) then .error (.tooManyArguments name)
  else .ok ()

/-! ## Arguments -/

/-- Binds an argument. -/
def bindArgument (arguments : Ref) (name : String) (value : Ref) : Op Unit :=
  modify fun h => h.modifyTable arguments (·.insert name value)

/-- Binds arguments one by one. -/
def bindEach (arguments : Ref) : List (String × Ref) → Op Unit
  | [] => return ()
  | (name, value) :: rest => do
    bindArgument arguments name value
    bindEach arguments rest

/-- Binds optional parameters: to the arguments left, and then to their default values, which can
refer to the parameters before them. -/
def bindDefaults (M : Machine) (arguments : Ref) (c : Context) :
    List (Name × Expr) → List Ref → Run Unit
  | [], _ => return ()
  | (name, _) :: rest, value :: left => do
    bindArgument arguments name.asText value
    bindDefaults M arguments c rest left
  | (name, e) :: rest, [] => do
    bindArgument arguments name.asText (← evalTop M e c)
    bindDefaults M arguments c rest []

/-- Binds further arguments: all of them in a List, their number, and each under its position. -/
def bindExtra (arguments : Ref) (extra : List Ref) : Op Unit := do
  bindArgument arguments "000" (← Op.list extra)
  bindArgument arguments "0" (← Op.number extra.length)
  bindEach arguments (extra.mapIdx fun i value => (toString (i + 1), value))

/-- Binds the arguments of a call and the lines it is for. -/
def bindArguments (M : Machine) (d : Declaration) (args : List Ref) (arguments : Ref)
    (lines : Int × Int) (c : Context) : Run Unit := do
  let s := d.signature
  bindEach arguments ((s.params.map Data.asText).zip args)
  let left := args.drop s.params.length
  bindDefaults M arguments c s.defaults left
  if s.varargs then bindExtra arguments (left.drop s.defaults.length)
  bindArgument arguments "firstline" (← Op.number lines.1)
  bindArgument arguments "lastline" (← Op.number lines.2)
  let bound := ((← get).heap.table arguments).keys
  trace ["Bind arguments", d.name.asText, "[" ++ ", ".intercalate (bound.map Text.quoted) ++ "]"]

/-! ## Bodies -/

/-- The value of a function without `abort`: errors are reported and the next statement runs. -/
def runThrough : List (Run Signal) → Run Ref
  | [] => Op.number 0
  | s :: rest => do
    match ← attempt s with
    | .ok .success => runThrough rest
    | .ok (.returning value) => return value
    | .ok .breaking =>
      report { cause := .strayBreak }
      runThrough rest
    | .ok .continuing =>
      report { cause := .strayContinue }
      runThrough rest
    | .ok (.failed e) | .error (.error e) =>
      report e
      runThrough rest
    | .error stop => throw stop

/-- The value of a function with `abort`, from how its statements ended. -/
def abortValue : Signal → Run Ref
  | .success => Op.number 0
  | .returning value => return value
  | .breaking => fail .strayBreak
  | .continuing => fail .strayContinue
  | .failed e => do
    report e
    Op.number 0

/-- Runs the body of a function. -/
def runBody (M : Machine) (d : Declaration) (c : Context) : Run Ref := do
  if d.signature.flags.abort then abortValue (← execAll M c d.body)
  else runThrough (d.body.map (exec M c))

/-! ## Calls -/

/-- Marks what stops a call short with the place where it left its first function. -/
def Stop.leaving (place : String) : Stop → Stop
  | .error e => .error { e with throwpoint := e.throwpoint <|> some place }
  | .finish first => .finish (first <|> some place)
  | stop => stop

/-- Marks how a call ended with the place it was at. -/
def located (c : Context) (result : Except Stop Ref) : Run (Except Stop Ref) := do
  let place ← throwpoint c
  return result.mapError (Stop.leaving place)

/-- Runs a computation as a call of a function, which must not be nested too deeply. -/
def withCall (name : String) (c : Context) (x : Run Ref) : Run Ref := do
  if (← read).maxDepth ≤ (← get).calls.length then fail .callDepth
  modify fun s => { s with calls := name :: s.calls }
  let result ← located c (← attempt x)
  modify fun s => { s with calls := s.calls.tail }
  ending result

/-- Makes the frame of a call. -/
def makeFrame (d : Declaration) (self : Option Ref) : Op Frame := do
  let self := if d.signature.flags.dict then self else none
  let locals ← Op.alloc (.dict { entries := (self.map fun r => ("self", r)).toList })
  let arguments ← Op.alloc (.dict {})
  return Frame.enter { locals, arguments } d.signature.flags.closure d.parent self

/-- Calls a declared function once, for some lines. -/
def runDeclared (M : Machine) (d : Declaration) (args : List Ref) (self : Option Ref)
    (lines : Int × Int) : Run Ref := do
  let frame ← makeFrame d self
  let c : Context := { script := d.script, frame := some frame }
  withCall d.displayName c do
    bindArguments M d args frame.own.arguments lines c
    runBody M d c

/-- Calls a function once for each of `count` lines, with the cursor there. -/
def forLines (once : Run Ref) : (count : Nat) → (line : Int) → (last : Ref) → Run Ref
  | 0, _, last => return last
  | count + 1, line, _ => do
    modifyHost (·.setCurrentLine line)
    forLines once count (line + 1) (← once)

/-- Calls a declared function. One without `range` is called for each line of a range. -/
def callDeclared (M : Machine) (d : Declaration) (call : Call) : Run Ref := do
  if d.signature.flags.dict ∧ call.self.isNone then fail (.selfRequired d.displayName)
  match call.range with
  | none =>
    let line := (← host).currentLine
    runDeclared M d call.args call.self (line, line)
  | some (first, last) =>
    let once := runDeclared M d call.args call.self (first, last)
    if d.signature.flags.range then once
    else forLines once (last - first + 1).toNat first (← Op.number 0)

/-- Calls a function. -/
def callFunction (M : Machine) (call : Call) : Run Ref := do
  let r ← registry
  orFail (checkArity (r.displayName call.callee) (r.arity call.callee) call.args.length)
  match call.callee with
  | .builtin b => b.apply M call.args call.context
  | .declared id _ =>
    match r.declaration? id with
    | some d => callDeclared M d call
    | none => fail (.unknownFunction (r.displayName call.callee))

/-- The machine that performs `fuel` nested steps. -/
def Machine.ofFuel : (fuel : Nat) → Machine
  | 0 => Machine.halted
  | fuel + 1 =>
    { fuel := fuel
      invoke := fun call => callFunction (Machine.ofFuel fuel) call
      evaluate := fun e c => evalTop (Machine.ofFuel fuel) e c
      execute := fun body c => execAll (Machine.ofFuel fuel) c body }

end Vimscript
