import Vimscript.Decimal.Reader
import Vimscript.Fault
import Vimscript.Number.Literal
import Vimscript.Text.Class

/-!
# Numbers within the limit on digits

Numbers have no bound, but no decimal of more than `maxDigits` digits is ever read or written: to
read or write one is a fault. The limit does not concern octal and hexadecimal literals.
-/

namespace Vimscript.Number

/-- Refuses to read so many digits. -/
def checkDigits (count : Nat) : Except Fault Unit :=
  if maxDigits < count then .error (.tooManyDigits (some count)) else .ok ()

/-- Reads the literal a text starts with, or zero. -/
def readLeading (s : String) : Except Fault Int := do
  checkDigits (decimalDigits s).length
  return leading s

/-- Reads a text that is a literal as a whole. -/
def readWhole? (s : String) : Except Fault (Option Int) := do
  match parse? s with
  | none => return none
  | some n =>
    checkDigits (decimalDigits s).length
    return some n

/-- Reads the literal between white space, or zero for any other text. -/
def readText (s : String) : Except Fault Int := do
  return (← readWhole? (String.ofList (Text.trim s.toList))).getD 0

/-- Reads a text, between white space, that is an integer in decimal as a whole. -/
def readInteger (s : String) : Except Fault Int :=
  let (negative, rest) := Decimal.splitSign (Decimal.trim s.toList)
  match Decimal.spanDigits false rest with
  | (d :: ds, []) => do
    checkDigits (ds.length + 1)
    return signed negative (Decimal.ofDigits (d :: ds))
  | _ => .error (.notInteger (Text.quoted s))

/-- Writes a number in decimal. -/
def write (n : Int) : Except Fault String :=
  if isLong n then .error (.tooManyDigits none) else .ok (toString n)

end Vimscript.Number
