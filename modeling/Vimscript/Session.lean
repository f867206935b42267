import Vimscript.Data.Document
import Vimscript.Eval.Call
import Vimscript.Pattern.Basic
import Vimscript.Text.Utf8

/-!
# Sessions

A session runs scripts against one host. Global variables and functions stay from one script to the
next; each script has variables of its own. A run never fails as a whole: what it showed and
what went wrong is told by its report.
-/

namespace Vimscript

/-- A place in a script that a report points to. -/
structure Token where
  line : Data
  column : Data := .null
  form : String := ""
deriving Repr

/-- The token of what was being executed, where its line is known. -/
def Token.ofSite? (site : Option Site) : Option Token := do
  let s ← site
  let m ← s.mark
  return { line := m.line, column := m.column, form := s.form }

/-- What a run of a script or expression came to. -/
structure Report where
  isError : Bool := false
  value : Option Ref := none
  message : Option String := none
  token : Option Token := none
  messages : Array String := #[]
  errors : Array ScriptError := #[]

namespace Report

/-- The error of a report in one line, with its place where that is known. -/
def formatError (r : Report) : String :=
  if !r.isError then ""
  else
    let message := match r.message with
      | none | some "" => "Unknown error"
      | some m => m
    match r.token with
    | none => message
    | some t =>
      if message.startsWith "Error on line " then message
      else
        let column := match t.column with
          | .null => ""
          | d => ", col " ++ d.asText
        "Error on line " ++ t.line.asText ++ column ++ ": " ++ message

/-- The report on a document that holds no script. -/
def ofUnread (f : Fault) : Report :=
  { isError := true, message := some ("ParseError: " ++ f.message) }

/-- The report on what a state has seen: the first error decides. -/
def ofState (s : State) (value : Option Ref) : Report :=
  match s.errors[0]? with
  | none => { value, messages := s.messages }
  | some e =>
    { isError := true, value, message := some e.message, token := Token.ofSite? e.site,
      messages := s.messages, errors := s.errors }

/-- The report on a run that a fault ended. -/
def ofFault (s : State) (message : String) : Report :=
  { isError := true, message := some ("InternalError: " ++ message),
    token := Token.ofSite? s.site, messages := s.messages, errors := s.errors }

end Report

/-! ## Running scripts -/

/-- How many steps may be nested, and how often a loop may turn. -/
def defaultFuel : Nat := 100000000

/-- The machine that runs everything in a session. -/
def machine : Machine := Machine.ofFuel defaultFuel

/-- Executes the statements of a script. An error is reported and the next statement runs; only
`:finish` ends the script early. -/
def runScript : List (Run Signal) → Run Unit
  | [] => return ()
  | s :: rest => do
    match ← Run.attempt s with
    | .ok .success | .ok (.returning _) => runScript rest
    | .ok .breaking =>
      Run.report { cause := .strayBreak }
      runScript rest
    | .ok .continuing =>
      Run.report { cause := .strayContinue }
      runScript rest
    | .ok (.failed e) | .error (.error e) =>
      Run.report e
      runScript rest
    | .error (.finish _) => return ()
    | .error stop => throw stop

/-- What `:finish` is reported as where there is no script to finish. -/
def finishError (throwpoint : Option String) : ScriptError :=
  { cause := .thrown "finish", throwpoint }

/-- Forgets what earlier runs left behind, but not variables, functions and the host. -/
def resetRun : Run Unit :=
  modify fun s => { s with errors := #[], messages := #[], calls := [], site := none }

/-- The text of a source that is text. -/
def sourceText? : Data → Option String
  | .text s => some s
  | .bytes b => some (Text.decodeUtf8 b)
  | _ => none

/-- The text of a source that is to be parsed: bytes must be well formed. -/
def parsedText (source : Data) (text : String) : Except Fault String :=
  match source with
  | .bytes b =>
    match Text.utf8Flaw? b with
    | some flaw => .error (.notText flaw)
    | none => .ok text
  | _ => .ok text

/-- Reads a script: a tree, or the text of a document that holds one. A parser is asked where the
text is no such document; a document with a number that cannot be read is still one. -/
def loadScript (parser : Option Parser) (source : Data) : Except Fault Program :=
  match sourceText? source with
  | none => Reader.program source
  | some text =>
    match Document.read none text, parser with
    | .ok (.list items), _ => Reader.program (.list items)
    | .ok (.map entries), _ => Reader.program (.map entries)
    | .ok _, some parser | .error (.unreadable _), some parser => do
      Reader.program (← parser.statements (← parsedText source text))
    | .ok _, none => .error .notDocument
    | .error f, _ => .error f

/-- Reads an expression: a tree, or the text of a document that holds one. -/
def loadExpression (source : Data) : Except Fault Expr :=
  match sourceText? source with
  | none => Reader.expression source
  | some text => do Reader.expression (← Document.read none text)

/-- Finishes a run that a fault or lack of fuel ended. -/
def internalReport (stop : Stop) : Run Report := do
  let (word, message) := match stop with
    | .fault f => (f.kind.word, f.message)
    | _ => ("Exhausted", "out of steps")
  Run.trace ["internal error", word, message]
  return Report.ofFault (← get) message

/-- Runs a script. -/
def handleScript (source : Data) (name : Option String) : Run Report := do
  resetRun
  match loadScript (← read).parser source with
  | .error f => return Report.ofUnread f
  | .ok program =>
    let script ← Run.startScript name
    match ← Run.attempt (runScript (program.body.map (exec machine { script }))) with
    | .ok () => return Report.ofState (← get) none
    | .error stop => internalReport stop

/-- Evaluates an expression. -/
def handleExpression (source : Data) : Run Report := do
  resetRun
  match loadExpression source with
  | .error f => return Report.ofUnread f
  | .ok e =>
    let script ← Run.startScript none
    match ← Run.attempt (evalTop machine e { script }) with
    | .ok value => return Report.ofState (← get) (some value)
    | .error (.error e) =>
      Run.report e
      return Report.ofState (← get) none
    | .error (.finish throwpoint) =>
      Run.report (finishError throwpoint)
      return Report.ofState (← get) none
    | .error stop => internalReport stop

/-! ## What the host can ask for -/

/-- Calls a function with plain data and gives plain data back. -/
def callByHost (name : String) (args : List Data) : Run Data := do
  let script ← Run.startScript none
  let args ← Op.ofItems args
  let (scope, bare) := splitScope name
  Op.toData (← Run.callByName machine scope (.text bare) args none none { script })

/-- The plain data of a global variable, or of one of the editor. -/
def getByHost (name : String) : Run (Option Data) := do
  let sp ← Run.spaces
  let (scope, bare) := splitScope name
  let ns := if scope = some .vim then sp.vim else sp.globals
  match ((← get).heap.table ns).get? bare with
  | none => return none
  | some r => return some (← Op.toData r)

/-- Sets a global variable to plain data. -/
def setByHost (name : String) (data : Data) : Run Unit := do
  let sp ← Run.spaces
  match splitScope name with
  | (none, bare) | (some .global, bare) =>
    let value ← Op.ofData data
    Run.onHeap (modify fun h => h.modifyTable sp.globals (·.insert bare value))
  | _ => faulty (.notGlobal name)

/-! ## Setting up -/

/-- How deeply calls may be nested when nothing else is said. -/
def defaultDepth : Int := 100

/-- What a session is started with. -/
structure Options where
  host : Host := { options := Host.defaultOptions }
  maxDepth : Int := defaultDepth
  parser : Option Parser := none
  matcher : Matcher := Pattern.matches?
  isTracing : Bool := false

namespace Options

/-- The variable of the environment that says how deeply calls may be nested. -/
def depthVariable : String := "VIML_MAX_FUNC_DEPTH"

/-- The variable of the environment that asks for traces. -/
def debugVariable : String := "VIML_DEBUG"

/-- How deeply calls may be nested where an environment decides. -/
def depthIn (env : Entries String) : Except Fault Int :=
  match Entries.find? depthVariable env with
  | some text => Number.readInteger text
  | none => .ok defaultDepth

/-- Whether an environment asks for traces. -/
def tracesIn (env : Entries String) : Bool :=
  (Entries.find? debugVariable env).any (· != "")

/-- The options in an environment, which says how deeply calls may be nested if nobody else does,
and whether steps are traced. -/
def within (o : Options) (depth? : Option Int) (env : Entries String) : Except Fault Options := do
  let maxDepth ← match depth? with
    | some depth => pure depth
    | none => depthIn env
  return { o with maxDepth, isTracing := tracesIn env }

end Options

/-- Interpreter and host between two runs. -/
structure Session where
  setup : Setup
  state : State

namespace Session

/-- Starts a session. -/
def start (o : Options) : Session :=
  let (created, heap) := Spaces.create {}
  let spaces := match created with
    | .ok spaces => spaces
    | .error _ => default
  { setup :=
      { spaces, maxDepth := o.maxDepth, parser := o.parser, matcher := o.matcher,
        isTracing := o.isTracing }
    state := { heap, host := o.host } }

/-- Performs a computation in a session. -/
def run {α : Type} (s : Session) (x : Run α) : Except Stop α × Session :=
  let (result, state) := x s.setup s.state
  (result, { s with state })

end Session

end Vimscript
