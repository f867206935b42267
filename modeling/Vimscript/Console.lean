import Vimscript.Session

/-!
# The command line

Runs the tree in the file given as the first argument, or the one read from standard input. Messages
are written as they are shown; an error is written apart, and the exit code tells of it. A file
that cannot be read as a document is a fault of its own, and so is a call depth in the environment
that is no number.
-/

namespace Vimscript.Console

/-- What a run of the command line came to. -/
structure Outcome where
  output : String := ""
  errors : String := ""
  exitCode : Nat := 0
  /-- How many lines of input a script asked for. -/
  asked : Nat := 0
deriving Repr, DecidableEq

/-- The file to run; without one, or with a flag in its place, standard input is run. -/
def fileArgument? : List String → Option String
  | path :: _ => if path.startsWith "-" then none else some path
  | [] => none

/-- The steps of a path, without empty and idle ones. -/
def steps (path : String) : List String :=
  (path.splitOn "/").filter fun step => step != "" && step != "."

/-- A path from its steps, which may start at the root. -/
def ofSteps (isRooted : Bool) (steps : List String) : String :=
  let joined := "/".intercalate steps
  if isRooted then "/" ++ joined else if joined = "" then "." else joined

/-- A path without empty and idle steps. -/
def plainPath (path : String) : String :=
  ofSteps (path.startsWith "/") (steps path)

/-- Whether a path leads to a directory, whatever files there are. -/
def isDirectory (path : String) : Bool := (steps path).all (· == "..")

/-- Whether a path goes on behind a file. -/
def passesFile (isFile : String → Bool) (path : String) : Bool :=
  (List.range (steps path).length).any fun n =>
    isFile (ofSteps (path.startsWith "/") ((steps path).take n))

/-- Whether the last step of a path ends in a name for JSON documents. -/
def isJsonPath (path : String) : Bool :=
  let last := ((plainPath path).splitOn "/").getLastD ""
  last.endsWith ".json" && last.length > 5

/-- Runs a script on a console that can read `input`. Traces are written before the error. -/
def runSource (source : Data) (name input : String) (env : Entries String) :
    Except Fault Outcome := do
  let host : Host :=
    { kind := .console, options := Host.defaultOptions, env, unread := input.toList }
  let options ← ({ host } : Options).within none env
  let (result, session) := (Session.start options).run (handleScript source (some name))
  let written := session.state.host
  let traces := String.join (session.state.trace.toList.map (· ++ "\n"))
  let base : Outcome := { output := written.written, errors := traces, asked := written.asked }
  match result with
  | .ok report =>
    if report.isError then
      return { base with errors := traces ++ report.formatError ++ "\n", exitCode := 1 }
    else return base
  | .error _ => return { base with exitCode := 1 }

/-- Runs a file that was read. One that holds no document is a fault. -/
def runFile (path content input : String) (env : Entries String) : Except Fault Outcome := do
  let format := if isJsonPath path then "json" else "yaml"
  runSource (← Document.read (some format) content) (plainPath path) input env

/-- The outcome for a file that is not there. -/
def missingFile (path : String) : Outcome :=
  { errors := "Error: file not found: " ++ path ++ "\n", exitCode := 1 }

/-- Runs what was read from standard input, which leaves nothing for the script to read. -/
def runInput (content : String) (env : Entries String) : Except Fault Outcome :=
  runSource (.text content) "<stdin>" "" env

/-- Runs the command line in an environment, given what files hold and what can be read. -/
def runIn (env : Entries String) (arguments : List String) (content? : String → Option String)
    (input : String) : Except Fault Outcome :=
  match fileArgument? arguments with
  | none => runInput input env
  | some path =>
    match content? (plainPath path) with
    | some content => runFile path content input env
    | none =>
      if isDirectory path then .error (.isDirectory (Text.quoted (plainPath path)))
      else if passesFile (fun p => (content? p).isSome) path then
        .error (.notDirectory (Text.quoted (plainPath path)))
      else .ok (missingFile path)

/-- Runs the command line in an empty environment. -/
def run (arguments : List String) (content? : String → Option String) (input : String) :
    Except Fault Outcome :=
  runIn [] arguments content? input

end Vimscript.Console
