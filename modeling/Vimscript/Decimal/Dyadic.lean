/-!
# Doubles as dyadic rationals

A finite double is a mantissa times a power of two. `Dyadic.ofFloat?` takes a double apart,
`nearest` finds the double closest to a quotient of two naturals, with ties to the even
mantissa, and everything that reads or writes decimals is exact arithmetic between the two.
-/

namespace Vimscript.Decimal

/-- The number `± mantissa * 2 ^ exponent`. -/
structure Dyadic where
  negative : Bool
  mantissa : Nat
  exponent : Int
deriving Repr, DecidableEq

/-- The weight of the bit above the fraction of a double: 2 to the power 52. -/
def fractionUnit : Nat := 4503599627370496

/-- The weight of the sign bit of a double: 2 to the power 63. -/
def signUnit : Nat := 9223372036854775808

/-- The number a finite double stands for; nothing for the infinities and not-a-number. -/
def Dyadic.ofFloat? (x : Float) : Option Dyadic :=
  let bits := x.toBits.toNat
  let negative := bits / signUnit == 1
  let biased : Nat := bits / fractionUnit % 2048
  let fraction : Nat := bits % fractionUnit
  if biased = 2047 then none
  else if biased = 0 then some ⟨negative, fraction, -1074⟩
  else some ⟨negative, fraction + fractionUnit, (biased : Int) - 1075⟩

/-- The magnitude as a quotient of two naturals. -/
def Dyadic.ratio (d : Dyadic) : Nat × Nat :=
  if 0 ≤ d.exponent then (d.mantissa * Nat.pow 2 d.exponent.toNat, 1)
  else (d.mantissa, Nat.pow 2 (-d.exponent).toNat)

/-- The integer next to the number on the side of zero. -/
def Dyadic.truncate (d : Dyadic) : Int :=
  let (num, den) := d.ratio
  if d.negative then -((num / den : Nat) : Int) else (num / den : Nat)

/-- Compares with an integer, exactly. -/
def Dyadic.compareInt (d : Dyadic) (n : Int) : Ordering :=
  let (num, den) := d.ratio
  let value : Int := if d.negative then -(num : Int) else num
  compare value (n * den)

/-- The quotient rounded to the nearest natural, a tie going to the even one. -/
def roundEven (num den : Nat) : Nat :=
  let q := num / den
  let r := num % den
  if den < 2 * r || (2 * r == den && q % 2 == 1) then q + 1 else q

/-- The quotient of two naturals over a power of two, again as a quotient. -/
def overPowerOfTwo (num den : Nat) (e : Int) : Nat × Nat :=
  if 0 ≤ e then (num, den * Nat.pow 2 e.toNat) else (num * Nat.pow 2 (-e).toNat, den)

/-- The exponent at which the quotient has a mantissa of 53 bits, or the least exponent. -/
def mantissaExponent (num den : Nat) : Int :=
  let guess : Int := (num.log2 : Int) - den.log2 - 52
  let (n, d) := overPowerOfTwo num den guess
  max (if n / d < fractionUnit then guess - 1 else guess) (-1074)

/-- The bits of the double nearest to `num / den`; a quotient past the range gives infinity. -/
def nearestBits (num den : Nat) : Nat :=
  if num = 0 then 0
  else
    let e := mantissaExponent num den
    let (n, d) := overPowerOfTwo num den e
    min ((e + 1074).toNat * fractionUnit + roundEven n d) (2047 * fractionUnit)

/-- The double nearest to `± num / den`. -/
def nearest (negative : Bool) (num den : Nat) : Float :=
  Float.ofBits (UInt64.ofNat (nearestBits num den + if negative then signUnit else 0))

/-- The double nearest to an integer; infinite when the integer is out of range. -/
def ofInt (n : Int) : Float :=
  nearest (n < 0) n.natAbs 1

/-- Positive infinity. -/
def infinity : Float := Float.ofBits 0x7ff0000000000000

/-- Not a number. -/
def notANumber : Float := Float.ofBits 0x7ff8000000000000

/-- Whether the sign bit is set. -/
def signBit (x : Float) : Bool :=
  x.toBits.toNat / signUnit == 1

/-- The double with its sign bit turned. -/
def negate (x : Float) : Float :=
  Float.ofBits (x.toBits ^^^ 0x8000000000000000)

/-- The double with its sign bit cleared. -/
def magnitude (x : Float) : Float :=
  Float.ofBits (x.toBits &&& 0x7fffffffffffffff)

end Vimscript.Decimal
