import Vimscript.Decimal.Dyadic

/-!
# The shortest decimal of a double

Documents write a double with the fewest digits that read back as the same double, and of those
the decimal nearest to it, the even one where two are equally near. Decimals from 0.0001 up to,
but not including, 10^16 are written positionally with at least one decimal; all others with an
exponent of at least two digits.
-/

namespace Vimscript.Decimal

/-- The quotient `num / den` over a power of ten, again as a quotient. -/
def overPowerOfTen (num den : Nat) (p : Int) : Nat × Nat :=
  if 0 ≤ p then (num, den * Nat.pow 10 p.toNat) else (num * Nat.pow 10 (-p).toNat, den)

/-- The greatest `p` near `guess` with `10 ^ p ≤ num / den`. -/
def decimalExponent (num den : Nat) : Int :=
  let guess : Int := ((num.log2 : Int) - den.log2) * 30103 / 100000
  let fits (p : Int) : Bool :=
    let (n, d) := overPowerOfTen num den p
    decide (d ≤ n)
  if fits (guess + 1) then guess + 1 else if fits guess then guess else guess - 1

/-- The bits of the double nearest to `digits * 10 ^ p`. -/
def decimalBits (digits : Nat) (p : Int) : Nat :=
  if 0 ≤ p then nearestBits (digits * Nat.pow 10 p.toNat) 1
  else nearestBits digits (Nat.pow 10 (-p).toNat)

/-- The nearer of `low` and its successor to a value that lies `rest / unit` above `low`; halfway
between them the even one. -/
def nearerEven (low rest unit : Nat) : Nat :=
  if 2 * rest < unit then low
  else if unit < 2 * rest then low + 1
  else if low % 2 = 0 then low
  else low + 1

/-- The decimal on the grid of `10 ^ p` that reads back as `bits`, the nearer one if both
neighbours of `num / den` do. -/
def onGrid? (num den bits : Nat) (p : Int) : Option Nat :=
  let (n, d) := overPowerOfTen num den p
  let low := n / d
  let hitLow := decimalBits low p == bits
  let hitHigh := decimalBits (low + 1) p == bits
  if hitLow && hitHigh then some (nearerEven low (n % d) d)
  else if hitLow then some low
  else if hitHigh then some (low + 1)
  else none

/-- Tries ever finer grids, `fuel` of them, starting at `10 ^ p`. -/
def shortestFrom (num den bits : Nat) : Nat → Int → Nat × Int
  | 0, p => (num / den, p)
  | fuel + 1, p =>
    match onGrid? num den bits p with
    | some digits => (digits, p)
    | none => shortestFrom num den bits fuel (p - 1)

/-- The shortest digits of a positive dyadic number and the power of ten they are counted in. -/
def Dyadic.shortest (d : Dyadic) : Nat × Int :=
  let (num, den) := d.ratio
  shortestFrom num den (nearestBits num den) 18 (decimalExponent num den)

/-- How a document lays out the digits `ds` with the point after the first `point` of them. -/
def layout (ds : List Char) (point : Int) : List Char :=
  if -4 < point ∧ point ≤ 16 then
    if point ≤ 0 then '0' :: '.' :: List.replicate (-point).toNat '0' ++ ds
    else
      let whole := ds.take point.toNat ++ List.replicate (point.toNat - ds.length) '0'
      let rest := ds.drop point.toNat
      whole ++ '.' :: if rest.isEmpty then ['0'] else rest
  else
    let e := point - 1
    let exponent := Nat.toDigits 10 e.natAbs
    let padded := List.replicate (2 - exponent.length) '0' ++ exponent
    let mantissa := match ds with
      | [] => []
      | d :: [] => [d]
      | d :: rest => d :: '.' :: rest
    mantissa ++ 'e' :: (if e < 0 then '-' else '+') :: padded

/-- A finite double as a document writes it. -/
def Dyadic.text (d : Dyadic) : String :=
  let sign := if d.negative then ['-'] else []
  if d.mantissa = 0 then String.ofList (sign ++ ['0', '.', '0'])
  else
    let (digits, p) := d.shortest
    let ds := Nat.toDigits 10 digits
    let trimmed := (ds.reverse.dropWhile (· == '0')).reverse
    String.ofList (sign ++ layout trimmed (p + ds.length))

/-- A double as a diagnostic writes it. -/
def shortest (x : Float) : String :=
  match Dyadic.ofFloat? x with
  | some d => d.text
  | none => if x.isNaN then "nan" else if signBit x then "-inf" else "inf"

end Vimscript.Decimal
