import Vimscript.Function.Registry
import Vimscript.Host.Basic
import Vimscript.Operator.Comparison
import Vimscript.Variables.Store

/-!
# Runs

A run reads a fixed setup and changes the state of the interpreter: the heap, the declared
functions, the host, the calls under way, and what has been shown and reported. It ends with a
result or stops short; either way the state it reached remains.
-/

namespace Vimscript

/-- Turns source text into trees: one table for statements, one for single expressions. -/
structure Parser where
  statements : String → Except Fault Data
  expression : String → Except Fault Data

/-- What does not change while scripts run. -/
structure Setup where
  spaces : Spaces
  /-- How many calls of declared functions may be under way at once. -/
  maxDepth : Int
  parser : Option Parser
  matcher : Matcher
  /-- Whether the steps of a run are written to the trace. -/
  isTracing : Bool

/-- The state of the interpreter. -/
structure State where
  heap : Heap := {}
  registry : Registry := {}
  host : Host := {}
  /-- The names of the functions being called, innermost first. -/
  calls : List String := []
  /-- What is being executed. -/
  site : Option Site := none
  errors : Array ScriptError := #[]
  messages : Array String := #[]
  trace : Array String := #[]
  scriptCount : Nat := 0

/-- A computation of the interpreter. -/
abbrev Run := ReaderT Setup (ExceptT Stop (StateM State))

/-- How a statement ended. -/
inductive Signal where
  | success
  | breaking
  | continuing
  | returning (value : Ref)
  /-- It failed without stopping short, as a command the host refused does. -/
  | failed (e : ScriptError)
deriving Repr

/-- Performs an operation on the heap. -/
def Run.onHeap {α : Type} (op : Op α) : Run α := fun _ s =>
  let heap := s.heap
  let s := { s with heap := {} }
  let (result, heap) := op heap
  (result, { s with heap })

instance (priority := low) : MonadLift Op Run := ⟨Run.onHeap⟩

namespace Run

variable {α : Type}

/-- How a computation ends, as a result. -/
def attempt (x : Run α) : Run (Except Stop α) := fun setup s =>
  let (result, s) := x setup s
  (.ok result, s)

/-- Ends as told. -/
def ending (result : Except Stop α) : Run α := fun _ s => (result, s)

/-- The shared namespaces. -/
def spaces : Run Spaces := return (← read).spaces

/-- The host. -/
def host : Run Host := return (← get).host

/-- Changes the host. -/
def modifyHost (f : Host → Host) : Run Unit :=
  modify fun s => { s with host := f s.host }

/-- Changes the host and takes something from it. -/
def modifyGetHost (f : Host → α × Host) : Run α :=
  modifyGet fun s =>
    let (a, host) := f s.host
    (a, { s with host })

/-- The declared functions. -/
def registry : Run Registry := return (← get).registry

/-- Replaces the declared functions. -/
def setRegistry (registry : Registry) : Run Unit :=
  modify fun s => { s with registry }

/-- Takes note of what is being executed. -/
def setSite (site : Site) : Run Unit :=
  modify fun s => { s with site := some site }

/-- Writes a line to the trace. -/
def trace (parts : List String) : Run Unit := do
  if (← read).isTracing then
    modify fun s => { s with trace := s.trace.push (" ".intercalate ("[DBG]" :: parts)) }

/-- Writes a text into a variable of the editor. -/
def setVimText (name text : String) : Run Unit := do
  (← spaces).setVim name (← Op.string text)

/-- The function or script that runs, and the line where it is known. -/
def throwpoint (c : Context) : Run String := do
  let s ← get
  let place := s.calls.head?.getD c.script.name
  match s.site.bind (·.line?) with
  | some line => return place ++ ", line " ++ line.asText
  | none => return place

/-- Shows a text a script asked to show. -/
def showMessage (text : String) : Run Unit := do
  modify fun s => { s with messages := s.messages.push text }
  modifyHost (·.showMessage text)

/-- Records an error that does not end the run, and shows it. -/
def report (e : ScriptError) : Run Unit := do
  trace ["report_error", e.message]
  let current := (← get).site
  let e := { e with site := e.site <|> current }
  modify fun s => { s with errors := s.errors.push e }
  setVimText "errmsg" e.message
  modifyHost fun h => (h.showMessage e.message).indicateError

/-- Starts a script under a name, or under its number when it has none. -/
def startScript (name : Option String) : Run Script := do
  let id := (← get).scriptCount + 1
  modify fun s => { s with scriptCount := id }
  let space ← Op.alloc (.dict {})
  let name := match name with
    | none | some "" => "<script-" ++ toString id ++ ">"
    | some n => n
  return { id, name, space }

end Run

end Vimscript
