import Vimscript.Eval.Control
import Vimscript.Eval.Unlet
import Vimscript.Heap.Print
import Vimscript.Syntax.Reader

/-!
# Executing statements

By recursion on the statement. A statement ends with a signal; what fails stops short and is dealt
with by the `:try`, the function or the script around it.
-/

namespace Vimscript

open Run

/-- The texts of some values, separated by blanks. -/
def echoText (M : Machine) (args : List Expr) (c : Context) : Run String := do
  let values ← evalAll M args c
  let texts ← Op.reading fun h => values.mapM h.echoed
  return " ".intercalate texts

/-- Parses a text as statements. -/
def parseStatements (text : String) : Run (List Stmt) := do
  match (← read).parser with
  | none => fail (.notEditorCommand text)
  | some parser =>
    let tree ← orFault (parser.statements text)
    return (← orFault (Reader.program tree)).body

/-- Shows values, or fails with them. -/
def echo (M : Machine) (kind : EchoKind) (args : List Expr) (c : Context) : Run Signal := do
  let text ← echoText M args c
  match kind with
  | .error => fail (.thrown text)
  | .echo | .message =>
    showMessage text
    return .success

/-- Calls a function for its effects, perhaps for a range of lines. -/
def callStatement (M : Machine) (e : Expr) (range : Option (Expr × Expr)) (c : Context) :
    Run Signal := do
  let range ← match range with
    | none => pure none
    | some (first, last) => do
      let first ← Op.toNumber (← evalExpr M first c)
      let last ← Op.toNumber (← evalExpr M last c)
      pure (some (first, last))
  let _ ← evalCall M range e c
  return .success

/-- Executes the text that some values make up. -/
def executeText (M : Machine) (args : List Expr) (c : Context) : Run Signal := do
  let values ← evalAll M args c
  let text := " ".intercalate (← values.mapM fun r => (Op.toText r : Run String))
  trace ["execute", text]
  M.execute (← parseStatements text) c

/-- Fails with a text of the script's own. -/
def throwText (M : Machine) (value : Expr) (c : Context) : Run Signal := do
  let text ← Op.toText (← evalExpr M value c)
  if text.startsWith "Vim" then fail .throwVim else fail (.thrown text)

/-- Leaves a function with a value. -/
def returnValue (M : Machine) (value : Option Expr) (c : Context) : Run Signal := do
  if !c.inFunction then fail .returnOutside
  match value with
  | some e => return .returning (← evalExpr M e c)
  | none => return .returning (← Op.number 0)

/-- Declares a function as an entry of a Dictionary. -/
def declareEntry (dict : Ref) (key : String) (signature : Signature) (bang : Bool)
    (body : List Stmt) (c : Context) : Run Unit := do
  match ← Op.value dict with
  | .dict t =>
    match t.get? key with
    | none => pure ()
    | some held =>
      match ← Op.value held with
      | .funcref _ => if !bang then fail .entryExists
      | _ => fail .funcrefRequired
    if ← Op.isLocked dict then fail (.locked key)
    let callee ← modifyGet fun s =>
      let (callee, registry) := s.registry.declareNumbered signature body c
      (callee, { s with registry })
    let f ← Op.alloc (.funcref { callee, arguments := ← Op.list [], self := some dict })
    Run.onHeap (modify fun h => h.modifyTable dict (·.insert key f))
  | _ => fail .dictRequired

/-- Runs a command of the host. -/
def hostCommand (name : Name) (argument : String) (bang : Bool) : Run Signal := do
  match ← orFault (← modifyGetHost fun h => h.runCommand name argument bang) with
  | .answers true => return .success
  | .answers false => return .failed { cause := .notEditorCommand name.asText }
  | .throws text => fail (.thrown text)

/-- Assigns a value to a target, or its items to a list of targets. -/
def letTarget (M : Machine) (target : Expr) (op : LetOp) (value : Ref) (c : Context) : Run Unit :=
  match target with
  | .list _ targets => unpack M targets op value c
  | target => assign M target op value c

mutual

/-- What a statement does once it is the one being executed. -/
def perform (M : Machine) (c : Context) : Stmt → Run Signal
  | .assign _ target op value => do
    letTarget M target op (← evalExpr M value c) c
    return .success
  | .unlet _ targets bang => do
    forEachTarget (fun e => unletTarget M e bang c) targets
    return .success
  | .lock _ targets depth => do
    forEachTarget (fun e => lockTarget M true depth e c) targets
    return .success
  | .unlock _ targets depth => do
    forEachTarget (fun e => lockTarget M false depth e c) targets
    return .success
  | .echo _ kind args => echo M kind args c
  | .call _ e range => callStatement M e range c
  | .execute _ args => executeText M args c
  | .conditional _ branches otherwise =>
    execBranches M c (execOption M c otherwise) branches
  | .whileLoop _ condition body =>
    let test : Run Bool := do Op.toBool (← evalExpr M condition c)
    whileLoop test (execAll M c body) M.fuel
  | .forLoop _ target iterable body =>
    let turn (item : Ref) : Run Signal := do
      assign M target .set item c
      execAll M c body
    forEach (evalExpr M iterable c) turn M.fuel
  | .forUnpack _ targets iterable body =>
    let turn (item : Ref) : Run Signal := do
      unpack M targets .set item c
      execAll M c body
    forEach (evalExpr M iterable c) turn M.fuel
  | .tryCatch _ body clauses cleanup =>
    tryWith (execAll M c body) (execClauses M c clauses) (execCleanup M c cleanup) c
  | .throw _ value => throwText M value c
  | .returning _ value => returnValue M value c
  | .breaking => return .breaking
  | .continuing => return .continuing
  | .finish => throw (.finish none)
  | .function _ scope name signature bang body => do
    setRegistry (← (← registry).declare scope name signature bang body c)
    return .success
  | .dictFunction _ target key signature bang body => do
    declareEntry (← evalExpr M target c) key.asText signature bang body c
    return .success
  | .delFunction _ scope name bang => do
    setRegistry (← (← registry).delete scope name bang c.script)
    return .success
  | .command _ name argument bang => hostCommand name argument bang

/-- Executes statements in order, up to the first that does not end in success. -/
def execAll (M : Machine) (c : Context) : List Stmt → Run Signal
  | [] => return .success
  | s :: rest => do
    setSite s.site
    match ← perform M c s with
    | .success => execAll M c rest
    | signal => return signal

/-- Executes statements that may be missing. -/
def execOption (M : Machine) (c : Context) : Option (List Stmt) → Run Signal
  | none => return .success
  | some body => execAll M c body

/-- Executes the first branch whose condition holds, or else `otherwise`. -/
def execBranches (M : Machine) (c : Context) (otherwise : Run Signal) : List Branch → Run Signal
  | [] => otherwise
  | .mk condition body :: rest => do
    if ← Op.toBool (← evalExpr M condition c) then execAll M c body
    else execBranches M c otherwise rest

/-- The handlers that some clauses stand for. -/
def execClauses (M : Machine) (c : Context) : List Clause → List Handler
  | [] => []
  | .mk pattern body :: rest =>
    { pattern, body := execAll M c body } :: execClauses M c rest

/-- The clean-up that some statements stand for. -/
def execCleanup (M : Machine) (c : Context) : Option (List Stmt) → Option (Run Signal)
  | none => none
  | some body => some (execAll M c body)

end

/-- Executes a statement. -/
def exec (M : Machine) (c : Context) (s : Stmt) : Run Signal := do
  setSite s.site
  perform M c s

end Vimscript
