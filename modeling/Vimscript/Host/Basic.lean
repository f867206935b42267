import Vimscript.Data.Basic
import Vimscript.Entries
import Vimscript.Fault
import Vimscript.Text.Case
import Vimscript.Text.Class

/-!
# The editor around the interpreter

A host shows messages, has a cursor in a buffer, and keeps options, registers and an environment. A
minimal host has none of these but the messages; a console host also writes every message out
and asks for input.
-/

namespace Vimscript

/-- What a host is able to do. -/
inductive HostKind where
  | minimal
  | buffer
  | console
deriving Repr, DecidableEq

/-- What a command of the host does. -/
inductive Command where
  /-- The host ran it, and says whether it was a command at all. -/
  | answers (known : Bool)
  /-- It fails with an error of its own. -/
  | throws (text : String)
deriving Repr, DecidableEq

/-- A host. -/
structure Host where
  kind : HostKind := .buffer
  lines : List String := [""]
  cursorLine : Int := 1
  cursorColumn : Int := 1
  options : Entries Data := []
  env : Entries String := []
  registers : Entries String := []
  /-- Answers to questions that have been given in advance. -/
  inputs : List String := []
  messages : Array String := #[]
  errorCount : Nat := 0
  commands : Entries Command := []
  /-- Every command a script ran, with its argument and whether it had a bang. -/
  executed : Array (Data × String × Bool) := #[]
  /-- What a console can still read. -/
  unread : List Char := []
  /-- What a console has written. -/
  written : String := ""
  /-- How many lines a console was asked for. -/
  asked : Nat := 0

namespace Host

/-- The options every buffer starts with. -/
def defaultOptions : Entries Data :=
  [("ignorecase", .int 0), ("smartcase", .int 0), ("shiftwidth", .int 8), ("tabstop", .int 8),
   ("expandtab", .int 0), ("maxfuncdepth", .int 100)]

/-! ## Messages -/

/-- Shows a message. -/
def showMessage (h : Host) (text : String) : Host :=
  let h := { h with messages := h.messages.push text }
  if h.kind = .console then { h with written := h.written ++ text ++ "\n" } else h

/-- Takes note of an error that was shown. -/
def indicateError (h : Host) : Host :=
  if h.kind = .minimal then h else { h with errorCount := h.errorCount + 1 }

/-! ## The buffer -/

/-- The line of the cursor; a minimal host stands on the seventh. -/
def currentLine (h : Host) : Int :=
  if h.kind = .minimal then 7 else h.cursorLine

/-- The column of the cursor. -/
def currentColumn (h : Host) : Int :=
  if h.kind = .minimal then 1 else h.cursorColumn

/-- The number of lines. -/
def lineCount (h : Host) : Nat :=
  if h.kind = .minimal then 0 else h.lines.length

/-- The text of a line, empty where there is none. -/
def lineText (h : Host) (line : Int) : String :=
  if h.kind = .minimal ∨ line < 1 then "" else h.lines.getD (line - 1).toNat ""

/-- Moves the cursor to a line, or to the nearest one there is. -/
def setCurrentLine (h : Host) (line : Int) : Host :=
  if h.kind = .minimal then h
  else { h with cursorLine := max 1 (min line h.lines.length) }

/-! ## Options, registers and environment -/

/-- The value of an option, if there is such an option. -/
def optionNamed? (h : Host) (name : String) : Option Data :=
  if h.kind = .minimal then none
  else match Entries.find? name h.options with
    | some .null => none
    | found => found

/-- What is found under a name as it was given. Data that holds other data names nothing. -/
def findNamed {α : Type} (name : Data) (entries : Entries α) : Except Fault (Option α) :=
  match name with
  | .text s => .ok (Entries.find? s entries)
  | .list _ | .map _ => .error (.unhashable name.kind)
  | _ => .ok none

/-- The value of an option by its name as it was given. -/
def option? (h : Host) (name : Data) : Except Fault (Option Data) := do
  if h.kind = .minimal then return none
  else match ← findNamed name h.options with
    | some .null => return none
    | found => return found

/-- Sets an option. -/
def setOption (h : Host) (name : String) (value : Data) : Host :=
  if h.kind = .minimal then h else { h with options := Entries.put name value h.options }

/-- The characters that name a register. -/
def isRegisterName (name : String) : Bool :=
  match name.toList with
  | [c] => c.isAlphanum || "\"-*+.:%#/=_".contains c
  | _ => false

/-- The text in a register. -/
def register (h : Host) (name : String) : String :=
  if h.kind = .minimal then "" else (Entries.find? (Text.lower name) h.registers).getD ""

/-- Fills a register; under a capital letter the text is appended. -/
def setRegister (h : Host) (name text : String) : Host :=
  if h.kind = .minimal then h
  else
    let appended := if name.toList.any Text.isUpper then h.register name ++ text else text
    { h with registers := Entries.put (Text.lower name) appended h.registers }

/-- The value of an environment variable. -/
def env? (h : Host) (name : String) : Option String :=
  Entries.find? name h.env

/-- Sets an environment variable. -/
def setEnv (h : Host) (name value : String) : Host :=
  { h with env := Entries.put name value h.env }

/-! ## Questions and commands -/

/-- What a console reads up to the end of a line, and what is left. -/
def readLine (cs : List Char) : String × List Char :=
  (String.ofList (cs.takeWhile (· != '\n')), (cs.dropWhile (· != '\n')).drop 1)

/-- Asks a question; `fallback` is the answer when none is given. -/
def ask (h : Host) (prompt fallback : String) : String × Host :=
  match h.kind, h.inputs with
  | .minimal, _ => (fallback, h)
  | _, answer :: rest => (answer, { h with inputs := rest })
  | .buffer, [] => (fallback, h)
  | .console, [] =>
    let (line, unread) := readLine h.unread
    (if line = "" then fallback else line,
      { h with unread, written := h.written ++ prompt, asked := h.asked + 1 })

/-- Runs a command by its name as it was given. -/
def runCommand (h : Host) (name : Data) (argument : String) (bang : Bool) :
    Except Fault Command × Host :=
  if h.kind = .minimal then (.ok (.answers false), h)
  else
    let h : Host := { h with executed := h.executed.push (name, argument, bang) }
    ((findNamed name h.commands).map (·.getD (.answers false)), h)

end Host

end Vimscript
