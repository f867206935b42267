import Vimscript.Decimal.Dyadic

/-!
# Floats as a script shows them

A Float is shown with six decimals, the exact value rounded half away from zero, and then without
the zeros it ends with, down to one decimal.
-/

namespace Vimscript.Decimal

/-- The quotient rounded to the nearest natural, a tie going up. -/
def roundHalfUp (num den : Nat) : Nat :=
  (2 * num + den) / (2 * den)

/-- The number of decimals a Float is rounded to. -/
def places : Nat := 6

/-- The decimals of a fraction of `10 ^ width`, without the zeros at the end, but at least one. -/
def decimals (width fraction : Nat) : List Char :=
  let digits := Nat.toDigits 10 fraction
  let padded := List.replicate (width - digits.length) '0' ++ digits
  match (padded.reverse.dropWhile (· == '0')).reverse with
  | [] => ['0']
  | ds => ds

/-- A dyadic number with at most six decimals. -/
def Dyadic.fixed (d : Dyadic) : String :=
  let (num, den) := d.ratio
  let scaled := roundHalfUp (num * Nat.pow 10 places) den
  let whole := Nat.toDigits 10 (scaled / Nat.pow 10 places)
  let sign := if d.negative then ['-'] else []
  String.ofList (sign ++ whole ++ '.' :: decimals places (scaled % Nat.pow 10 places))

/-- A Float as a script shows it. -/
def fixed (x : Float) : String :=
  match Dyadic.ofFloat? x with
  | some d => d.fixed
  | none => if x.isNaN then "nan" else if signBit x then "-inf" else "inf"

end Vimscript.Decimal
