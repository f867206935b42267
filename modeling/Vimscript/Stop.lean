import Vimscript.Error
import Vimscript.Fault

/-!
# Ways a computation stops short

Besides giving a result, a computation of the interpreter can end with an error a script can catch,
with `:finish`, with a fault, or because its fuel ran out. The four are kept apart: only an
error is ever caught, and only an error or `:finish` lets a clean-up block run.
-/

namespace Vimscript

/-- Why a computation gave no result. -/
inductive Stop where
  | error (e : ScriptError)
  /-- A script asked to end; the place is where it left its first function. -/
  | finish (throwpoint : Option String)
  | fault (f : Fault)
  | exhausted
deriving Repr

/-- An error from its cause. -/
def Stop.ofCause (c : Cause) : Stop := .error { cause := c }

/-- A computation that only reads. -/
abbrev Result := Except Stop

/-- Fails with an error of the script. -/
def fail {m : Type → Type} [MonadExceptOf Stop m] {α : Type} (c : Cause) : m α :=
  throwThe Stop (.ofCause c)

/-- Fails with a fault. -/
def faulty {m : Type → Type} [MonadExceptOf Stop m] {α : Type} (f : Fault) : m α :=
  throwThe Stop (.fault f)

/-- Performs an operation that may fail with an error of the script. -/
def orFail {m : Type → Type} [Monad m] [MonadExceptOf Stop m] {α : Type} : Except Cause α → m α
  | .ok a => return a
  | .error cause => fail cause

/-- Performs an operation that may end in a fault. -/
def orFault {m : Type → Type} [Monad m] [MonadExceptOf Stop m] {α : Type} : Except Fault α → m α
  | .ok a => return a
  | .error f => faulty f

end Vimscript
