/-!
# Arithmetic in 64 bits

Numbers are stored without a bound; the arithmetic operators reduce their result to the signed
64-bit range. Division truncates toward zero and has fixed answers for a zero divisor.
-/

namespace Vimscript.Number

/-- The greatest Number. -/
def maxValue : Int := 9223372036854775807

/-- The least Number. -/
def minValue : Int := -9223372036854775808

/-- The representative modulo 2^64 in the signed 64-bit range. -/
def wrap (n : Int) : Int :=
  n.bmod 18446744073709551616

theorem wrap_mem_range (n : Int) : minValue ≤ wrap n ∧ wrap n ≤ maxValue := by
  have lower := Int.le_bmod (x := n) (m := 18446744073709551616) (by decide)
  have upper := Int.bmod_lt (x := n) (m := 18446744073709551616) (by decide)
  simp only [wrap, minValue, maxValue]
  omega

/-- A Number in the range is its own representative. -/
theorem wrap_eq_self {n : Int} (low : minValue ≤ n) (high : n ≤ maxValue) : wrap n = n := by
  simp only [minValue, maxValue] at low high
  simp only [wrap]
  exact Int.bmod_eq_of_le (by omega) (by omega)

/-- The quotient truncated toward zero. A zero divisor gives the extreme value on the dividend's
side, and the least Number when the dividend is zero too. -/
def quotient (a b : Int) : Int :=
  if b = 0 then
    if a = 0 then minValue else if 0 < a then maxValue else -maxValue
  else wrap (a.tdiv b)

/-- The remainder, which takes the sign of the dividend; zero for a zero divisor. -/
def remainder (a b : Int) : Int :=
  if b = 0 then 0 else a.tmod b

end Vimscript.Number
