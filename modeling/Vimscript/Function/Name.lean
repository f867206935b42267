import Vimscript.Data.Basic
import Vimscript.Fault

/-!
# Names of functions

A function is found under its name apart from how the name is written, so that a number names the
same function whichever kind of number it is. Data that holds other data can name nothing.
-/

namespace Vimscript

/-- What a function is found under. -/
inductive FunctionName where
  | text (s : String)
  | number (q : Quantity)
  | null
deriving Repr, DecidableEq

namespace FunctionName

/-- What a function with some data for a name is found under. -/
def ofData : Data → Except Fault FunctionName
  | .text s => .ok (.text s)
  | .null => .ok .null
  | .bool b => .ok (.number (.ofBool b))
  | .int n => .ok (.number (.whole n))
  | .float x => .ok (.number ((Quantity.ofFloat? x).getD (.fraction x.toBits)))
  | d => .error (.unhashable d.kind)

end FunctionName

end Vimscript
