import Vimscript.Eval.Machine

/-!
# Control flow

Loops and `:try` as combinators of computations, apart from the syntax that gives rise to them. A
loop swallows `:break` and `:continue` and passes every other signal on. What `:try` does is
told in two steps: the body with its handlers, then the clean-up, which runs unless a fault or a
bad pattern ended the first step.
-/

namespace Vimscript

open Run

/-! ## Loops -/

/-- Repeats a body while a condition holds, at most `fuel` times. -/
def whileLoop (condition : Run Bool) (body : Run Signal) : (fuel : Nat) → Run Signal
  | 0 => throw .exhausted
  | fuel + 1 => do
    if ← condition then
      match ← body with
      | .breaking => return .success
      | .success | .continuing => whileLoop condition body fuel
      | signal => return signal
    else return .success

/-- Runs a body for each character of a text. -/
def forText (turn : Ref → Run Signal) : List Char → Run Signal
  | [] => return .success
  | ch :: rest => do
    match ← turn (← Op.string (String.singleton ch)) with
    | .breaking => return .success
    | .success | .continuing => forText turn rest
    | signal => return signal

/-- Runs a body for each item of a List from position `i` on. The List is computed anew after every
turn, so that the loop sees what the body did to it. -/
def forList (again : Run Ref) (turn : Ref → Run Signal) : (fuel : Nat) → (list : Ref) → (i : Nat) →
    Run Signal
  | 0, _, _ => throw .exhausted
  | fuel + 1, list, i => do
    match ((← get).heap.items list)[i]? with
    | none => return .success
    | some item =>
      match ← turn item with
      | .breaking => return .success
      | .success | .continuing =>
        let next ← again
        match ← Op.value next with
        | .list _ => forList again turn fuel next (i + 1)
        | _ => fail .listRequired
      | signal => return signal

/-- Runs a body for each item of what an expression gives. -/
def forEach (again : Run Ref) (turn : Ref → Run Signal) (fuel : Nat) : Run Signal := do
  let first ← again
  match ← Op.value first with
  | .string s => forText turn s.toList
  | .blob _ => faulty .loopOverBlob
  | .list _ => forList again turn fuel first 0
  | _ => fail .notIterable

/-! ## Exceptions -/

/-- A `:catch` clause: its pattern as it was given and what it runs. -/
structure Handler where
  pattern : Data
  body : Run Signal

/-- The pattern without the slashes around it. -/
def barePattern (pattern : String) : String :=
  match pattern.toList with
  | '/' :: rest =>
    if rest.getLast? == some '/' then String.ofList rest.dropLast else pattern
  | _ => pattern

/-- The fault of a pattern that is no text. -/
def patternFault : Data → Fault
  | .list items => .unhashable (Data.list items).kind
  | .map entries =>
    if 1 < entries.length then .absentIndex 0 else .unhashable (Data.map entries).kind
  | d => .noLength d.kind

/-- The text of a pattern; one that counts as false is no pattern. -/
def patternText? : Data → Except Fault (Option String)
  | .text s => .ok (if s = "" then none else some s)
  | d => if d.isTruthy then .error (patternFault d) else .ok none

/-- The body of the first handler that takes a message. One without a pattern takes any. -/
def findHandler (message : String) : List Handler → Run (Option (Run Signal))
  | [] => return none
  | h :: rest => do
    match ← orFault (patternText? h.pattern) with
    | none => return some h.body
    | some pattern =>
      if ← (← read).matcher (barePattern pattern) message then
        trace ["catch matched", Text.quoted pattern, message]
        return some h.body
      else findHandler message rest

/-- Runs a handler for an error. While it runs, `v:exception` is the message of the error. -/
def handle (e : ScriptError) (handler : Run Signal) (c : Context) :
    Run (Except Stop Signal) := do
  setVimText "exception" e.message
  let place ← throwpoint c
  setVimText "throwpoint" (e.throwpoint.getD place)
  let result ← attempt handler
  setVimText "exception" ""
  return result

/-- Whether a clean-up runs before a computation is left this way. -/
def Stop.isOrderly : Stop → Bool
  | .error _ | .finish _ => true
  | .fault _ | .exhausted => false

/-- Leaves at once where no clean-up runs, and otherwise gives how the computation ended. -/
def orderly (result : Except Stop Signal) : Run (Except Stop Signal) :=
  match result with
  | .ok signal => return .ok signal
  | .error stop => if stop.isOrderly then return .error stop else throw stop

/-- How the body of a `:try` ends, after the handler that takes its error. -/
def tryBody (body : Run Signal) (handlers : List Handler) (c : Context) :
    Run (Except Stop Signal) := do
  match ← attempt body with
  | .ok (.failed e) | .error (.error e) =>
    match ← findHandler e.message handlers with
    | none => return .error (.error e)
    | some handler => do orderly (← handle e handler c)
  | result => orderly result

/-- Runs a body with handlers for its errors and a clean-up. A clean-up that does not end in success
decides how the whole ends. -/
def tryWith (body : Run Signal) (handlers : List Handler) (cleanup : Option (Run Signal))
    (c : Context) : Run Signal := do
  let result ← tryBody body handlers c
  match cleanup with
  | none => ending result
  | some final =>
    match ← final with
    | .success => ending result
    | signal => return signal

end Vimscript
