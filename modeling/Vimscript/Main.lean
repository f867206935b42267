import Vimscript.Console

/-!
# The program

Reads what the command line needs, runs it and writes its outcome. Standard input is read only where
it holds the script or the script asks for it.
-/

namespace Vimscript.Console

/-- Writes an outcome and gives its exit code. -/
def finishWith (o : Outcome) : IO UInt32 := do
  IO.print o.output
  IO.eprint o.errors
  return o.exitCode.toUInt32

/-- Reads all of standard input. -/
def readInput : IO String := do
  (← IO.getStdin).readToEnd

/-- The outcome a fault is shown as. -/
def faultOutcome (f : Fault) : Outcome :=
  { errors := f.kind.word ++ ": " ++ f.message ++ "\n", exitCode := 1 }

/-- Writes what a run came to. -/
def finish : Except Fault Outcome → IO UInt32
  | .ok outcome => finishWith outcome
  | .error f => finishWith (faultOutcome f)

/-- The variables of the environment that a session is set up by, where they are set. -/
def readEnvironment : IO (Entries String) :=
  [Options.depthVariable, Options.debugVariable].filterMapM fun name => do
    return (← IO.getEnv name).map (name, ·)

/-- Runs a file; a script that asks for input is run with what can be read. -/
def runPath (path : String) (env : Entries String) : IO UInt32 := do
  try
    let content ← IO.FS.readFile path
    match runFile path content "" env with
    | .error f => finishWith (faultOutcome f)
    | .ok outcome =>
      if outcome.asked = 0 then finishWith outcome
      else finish (runFile path content (← readInput) env)
  catch _ => finishWith (missingFile path)

end Vimscript.Console

/-- Runs the file given as the first argument, or standard input. -/
def main (arguments : List String) : IO UInt32 := do
  let env ← Vimscript.Console.readEnvironment
  match Vimscript.Console.fileArgument? arguments with
  | some path => Vimscript.Console.runPath path env
  | none =>
    Vimscript.Console.finish (Vimscript.Console.runInput (← Vimscript.Console.readInput) env)
