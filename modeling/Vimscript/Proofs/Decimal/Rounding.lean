import Mathlib
import Vimscript.Decimal.Fixed
import Vimscript.Proofs.Number.Written

/-!
# Shown Floats

A Float is shown as the decimal it is rounded to. `exact` says which rational
number a finite double stands for, by the sign, the mantissa and the exponent
that the logical model of doubles takes it apart into; the fields of the bits
are the same (`exact_ofFloat?`). `RoundsTo` says what the number is rounded
to: the nearest multiple of a unit, and of two the one away from zero.

The text has the digits of that multiple of a millionth and no more zeros
than it needs. None stands in front of the digits before the point, since
they are those of a natural number, and those that end the digits behind the
point are taken off, down to one. What is taken off weighs nothing, so that
text and number agree (`decimalValue_split`).
-/

namespace Vimscript.Decimal

open Float.Model
open Float.Model.UnpackedFloat (Sign unpackExponent unpackMantissa unpackSign)

/-! ## The value of a double -/

/-- A magnitude with a sign. -/
def withSign (negative : Bool) (q : ℚ) : ℚ := if negative then -q else q

/-- The rational number that a float which was taken apart stands for. -/
def rational : UnpackedFloat → ℚ
  | .finite sign mantissa exponent _ => (sign.apply mantissa : ℚ) * 2 ^ exponent
  | .zero _ | .infinity _ | .notANumber => 0

/-- The rational number that a finite double stands for. -/
def exact (x : Float) : ℚ := rational x.toModel.unpack

/-- The rational number that a dyadic one is. -/
def Dyadic.value (d : Dyadic) : ℚ := withSign d.negative (d.mantissa * 2 ^ d.exponent)

section

variable {b : BitVec Format.binary64.numBits}

theorem isFinite_unpack_of_last (he : unpackExponent b = -1#_) :
    (UnpackedFloat.unpack .binary64 b).isFinite = false := by
  unfold UnpackedFloat.unpack
  dsimp only
  rw [if_pos he]
  split <;> rfl

/-- Zero is one of the numbers with the least exponent, although it is taken apart differently. -/
theorem rational_unpack_subnormal (he : unpackExponent b = 0#_) :
    rational (.unpack .binary64 b) =
      ((Sign.ofBitVec (unpackSign b)).apply (unpackMantissa b).toNat : ℚ) * 2 ^ (-1074 : ℤ) := by
  unfold UnpackedFloat.unpack
  dsimp only
  rw [if_neg (by rw [he]; decide), if_pos he]
  split
  · rename_i hm
    have hzero : (Sign.ofBitVec (unpackSign b)).apply 0 = 0 := by
      cases Sign.ofBitVec (unpackSign b) <;> rfl
    rw [hm]
    change 0 = (((Sign.ofBitVec (unpackSign b)).apply 0 : ℤ) : ℚ) * _
    rw [hzero, Int.cast_zero, zero_mul]
  · rw [he]
    rfl

/-- The other numbers have a bit above the fraction that is not written. -/
theorem rational_unpack_normal (hlast : unpackExponent b ≠ -1#_) (he : unpackExponent b ≠ 0#_) :
    rational (.unpack .binary64 b) =
      ((Sign.ofBitVec (unpackSign b)).apply ((unpackMantissa b).toNat + fractionUnit : ℕ) : ℚ) *
        2 ^ ((unpackExponent b).toNat - 1075 : ℤ) := by
  unfold UnpackedFloat.unpack
  dsimp only
  rw [if_neg hlast, if_neg he]
  have hmantissa : (1#1 ++ unpackMantissa b).toNat = (unpackMantissa b).toNat + fractionUnit := by
    have hlt : (unpackMantissa b).toNat < 2 ^ 52 := (unpackMantissa b).isLt
    rw [BitVec.toNat_append]
    change 1 <<< 52 ||| _ = _
    rw [← Nat.shiftLeft_add_eq_or_of_lt hlt, Nat.add_comm]
    rfl
  rw [← hmantissa]
  rfl

end

section

variable (x : Float)

theorem toNat_unpackExponent : (@unpackExponent .binary64 x.toBits.toBitVec).toNat =
    x.toBits.toNat / fractionUnit % 2048 := by
  rw [unpackExponent, BitVec.toNat_cast, BitVec.extractLsb_toNat, Nat.shiftRight_eq_div_pow]
  rfl

theorem toNat_unpackMantissa : (@unpackMantissa .binary64 x.toBits.toBitVec).toNat =
    x.toBits.toNat % fractionUnit := by
  rw [unpackMantissa, BitVec.toNat_cast, BitVec.extractLsb_toNat]
  rfl

theorem toNat_unpackSign : (@unpackSign .binary64 x.toBits.toBitVec).toNat =
    x.toBits.toNat / signUnit := by
  have hbits := x.toBits.toNat_lt
  rw [unpackSign, BitVec.toNat_cast, BitVec.extractLsb_toNat, Nat.shiftRight_eq_div_pow]
  change x.toBits.toNat / 2 ^ 63 % 2 = x.toBits.toNat / 2 ^ 63
  omega

theorem cast_apply_unpackSign (n : ℕ) :
    (((Sign.ofBitVec (@unpackSign .binary64 x.toBits.toBitVec)).apply n : ℤ) : ℚ) =
      withSign (signBit x) n := by
  have hbits := x.toBits.toNat_lt
  have hsign := toNat_unpackSign x
  by_cases hzero : x.toBits.toNat / signUnit = 0
  · have hbit : signBit x = false := by rw [signBit, hzero]; rfl
    rw [hzero] at hsign
    rw [hbit, Sign.ofBitVec, if_pos (BitVec.toNat_inj.mp hsign)]
    rfl
  · have hone : x.toBits.toNat / signUnit = 1 := by
      unfold signUnit at hzero ⊢
      omega
    have hbit : signBit x = true := by rw [signBit, hone]; rfl
    rw [hbit, Sign.ofBitVec, if_neg]
    · exact Int.cast_neg _
    · intro h
      rw [h, hone] at hsign
      cases hsign

end

theorem withSign_mul (negative : Bool) (p q : ℚ) :
    withSign negative p * q = withSign negative (p * q) := by
  cases negative <;> simp [withSign]

/-- A finite double is taken apart into the number it stands for. -/
theorem exact_ofFloat? {x : Float} (hx : x.isFinite = true) :
    ∃ d, Dyadic.ofFloat? x = some d ∧ d.negative = signBit x ∧ exact x = d.value := by
  have hlast : @unpackExponent .binary64 x.toBits.toBitVec ≠ -1#_ := by
    intro h
    have hinfinite : x.isFinite = false := isFinite_unpack_of_last h
    rw [hx] at hinfinite
    cases hinfinite
  have hbiased : x.toBits.toNat / fractionUnit % 2048 ≠ 2047 := by
    intro h
    refine hlast (BitVec.toNat_inj.mp ?_)
    rw [toNat_unpackExponent, h]
    rfl
  rw [Dyadic.ofFloat?, if_neg hbiased]
  by_cases he : x.toBits.toNat / fractionUnit % 2048 = 0
  · have hzero : @unpackExponent .binary64 x.toBits.toBitVec = 0#_ := by
      refine BitVec.toNat_inj.mp ?_
      rw [toNat_unpackExponent, he]
      rfl
    rw [if_pos he]
    refine ⟨_, rfl, rfl, (rational_unpack_subnormal hzero).trans ?_⟩
    rw [cast_apply_unpackSign, withSign_mul, toNat_unpackMantissa]
    rfl
  · have hzero : @unpackExponent .binary64 x.toBits.toBitVec ≠ 0#_ := by
      intro h
      rw [← toNat_unpackExponent, h] at he
      exact he rfl
    rw [if_neg he]
    refine ⟨_, rfl, rfl, (rational_unpack_normal hlast hzero).trans ?_⟩
    rw [cast_apply_unpackSign, withSign_mul, toNat_unpackMantissa, toNat_unpackExponent]
    rfl

theorem Dyadic.ratio_pos (d : Dyadic) : 0 < d.ratio.2 := by
  unfold ratio
  split
  · exact Nat.one_pos
  · exact Nat.two_pow_pos _

theorem Dyadic.value_eq (d : Dyadic) :
    d.value = withSign d.negative (d.ratio.1 / d.ratio.2 : ℚ) := by
  unfold value ratio
  split
  · rename_i he
    obtain ⟨k, hk⟩ := Int.eq_ofNat_of_zero_le he
    rw [hk]
    simp
  · rename_i he
    obtain ⟨k, hk⟩ := Int.eq_ofNat_of_zero_le (a := -d.exponent) (by omega)
    have hexponent : d.exponent = -(k : ℤ) := by omega
    rw [hk, hexponent, zpow_neg, zpow_natCast]
    simp [div_eq_mul_inv]

/-! ## Rounding -/

/-- A number is rounded to a multiple of a unit: there is none nearer, and if the number lies
halfway between two, it is the one away from zero. -/
structure RoundsTo (unit q y : ℚ) : Prop where
  multiple : ∃ n : ℤ, y = n * unit
  close : |q - y| ≤ unit / 2
  away : |q - y| = unit / 2 → |q| < |y|

variable {unit q y : ℚ}

theorem RoundsTo.neg (h : RoundsTo unit q y) : RoundsTo unit (-q) (-y) where
  multiple := by
    obtain ⟨n, rfl⟩ := h.multiple
    exact ⟨-n, by push_cast; ring⟩
  close := by
    rw [neg_sub_neg, abs_sub_comm]
    exact h.close
  away := by
    rw [neg_sub_neg, abs_sub_comm, abs_neg, abs_neg]
    exact h.away

theorem RoundsTo.withSign (h : RoundsTo unit q y) (negative : Bool) :
    RoundsTo unit (withSign negative q) (withSign negative y) := by
  cases negative
  · exact h
  · exact h.neg

/-- Going up from halfway is going away from zero where there is nothing below zero. -/
theorem roundsTo_of_nonneg {n : ℕ} (hunit : 0 < unit) (hq : 0 ≤ q)
    (hlow : n * unit - unit / 2 ≤ q) (hhigh : q < n * unit + unit / 2) :
    RoundsTo unit q (n * unit) where
  multiple := ⟨n, rfl⟩
  close := abs_le.mpr ⟨by linarith, by linarith⟩
  away htie := by
    have hbelow : q - n * unit < unit / 2 := by linarith
    have htie' : q - n * unit = -(unit / 2) :=
      (eq_or_eq_neg_of_abs_eq htie).resolve_left hbelow.ne
    rw [abs_of_nonneg hq, abs_of_nonneg (by linarith)]
    linarith

theorem roundsTo_roundHalfUp (num : ℕ) {den scale : ℕ} (hden : 0 < den) (hscale : 0 < scale) :
    RoundsTo (1 / scale) (num / den) (roundHalfUp (num * scale) den / scale) := by
  have hden' : (0 : ℚ) < den := by exact_mod_cast hden
  have hscale' : (0 : ℚ) < scale := by exact_mod_cast hscale
  have hlow : roundHalfUp (num * scale) den * (2 * den) ≤ 2 * (num * scale) + den :=
    Nat.div_mul_le_self _ _
  have hhigh : 2 * (num * scale) + den < (roundHalfUp (num * scale) den + 1) * (2 * den) :=
    Nat.lt_mul_of_div_lt (Nat.lt_succ_self _) (by omega)
  generalize roundHalfUp (num * scale) den = n at hlow hhigh ⊢
  have hlow' : (n * (2 * den) : ℚ) ≤ 2 * (num * scale) + den := by exact_mod_cast hlow
  have hhigh' : (2 * (num * scale) + den : ℚ) < (n + 1) * (2 * den) := by exact_mod_cast hhigh
  rw [← mul_one_div (n : ℚ)]
  refine roundsTo_of_nonneg (by positivity) (by positivity) ?_ ?_
  · rw [le_div_iff₀ hden']
    have hunits : (n * (1 / scale) - 1 / scale / 2 : ℚ) * den =
        (n * (2 * den) - den) / (2 * scale) := by
      field_simp
    rw [hunits, div_le_iff₀ (by positivity)]
    linarith
  · rw [div_lt_iff₀ hden']
    have hunits : (n * (1 / scale) + 1 / scale / 2 : ℚ) * den =
        (n * (2 * den) + den) / (2 * scale) := by
      field_simp
    rw [hunits, lt_div_iff₀ (by positivity)]
    linarith

/-! ## Digits -/

/-- Digits of a natural number, without a zero in front. -/
structure IsWhole (ds : List Char) : Prop where
  digits : ∀ c ∈ ds, c.isDigit = true
  ne_nil : ds ≠ []
  lead : ds.head? = some '0' → ds = ['0']

theorem isWhole_toDigits (n : ℕ) : IsWhole (Nat.toDigits 10 n) where
  digits _ hc := Number.isDigit_of_mem hc
  ne_nil := Nat.toDigits_ne_nil
  lead hzero := by
    rcases Nat.eq_zero_or_pos n with rfl | hn
    · rfl
    · exact absurd hzero (Number.head?_toDigits hn)

/-- Digits of a fraction, at most so many, without a zero at the end. -/
structure IsFraction (width : ℕ) (ds : List Char) : Prop where
  digits : ∀ c ∈ ds, c.isDigit = true
  ne_nil : ds ≠ []
  length_le : ds.length ≤ width
  last : ds.getLast? = some '0' → ds = ['0']

/-- The number that digits before and after a point stand for. -/
def decimalValue (whole fraction : List Char) : ℚ :=
  Nat.ofDigitChars 10 whole 0 + Nat.ofDigitChars 10 fraction 0 / 10 ^ fraction.length

/-- All the digits of a fraction. -/
def paddedDigits (width n : ℕ) : List Char :=
  List.replicate (width - (Nat.toDigits 10 n).length) '0' ++ Nat.toDigits 10 n

section

variable {width n : ℕ}

theorem digit_of_mem_paddedDigits {c : Char} (hc : c ∈ paddedDigits width n) :
    c.isDigit = true := by
  rcases List.mem_append.mp hc with hzero | hdigit
  · rw [List.eq_of_mem_replicate hzero]
    rfl
  · exact Number.isDigit_of_mem hdigit

theorem length_paddedDigits (hwidth : 0 < width) (hn : n < 10 ^ width) :
    (paddedDigits width n).length = width := by
  have hlength := (Nat.length_toDigits_le_iff (by decide) hwidth).mpr hn
  rw [paddedDigits, List.length_append, List.length_replicate]
  omega

theorem ofDigitChars_paddedDigits (width n : ℕ) :
    Nat.ofDigitChars 10 (paddedDigits width n) 0 = n := by
  rw [paddedDigits, Nat.ofDigitChars_append, Nat.ofDigitChars_replicate_zero, Nat.mul_zero,
    Nat.ofDigitChars_ten_toDigits]

/-- What is left of the digits of a fraction without the zeros at the end. -/
theorem paddedDigits_eq (width n : ℕ) : ∃ ds zeros,
    paddedDigits width n = ds ++ List.replicate zeros '0' ∧ ds.getLast? ≠ some '0' ∧
      decimals width n = if ds = [] then ['0'] else ds := by
  refine ⟨(paddedDigits width n).rdropWhile (· == '0'),
    ((paddedDigits width n).rtakeWhile (· == '0')).length, ?_, ?_, ?_⟩
  · have hzeros : (paddedDigits width n).rtakeWhile (· == '0') = List.replicate _ '0' :=
      List.eq_replicate_of_mem fun c hc => by simpa using List.mem_rtakeWhile_imp hc
    rw [← hzeros, List.rdropWhile_append_rtakeWhile]
  · intro h
    have hne : (paddedDigits width n).rdropWhile (· == '0') ≠ [] := by
      intro hnil
      rw [hnil] at h
      cases h
    have hlast := List.rdropWhile_last_not (· == '0') _ hne
    rw [List.getLast?_eq_some_getLast hne] at h
    rw [Option.some.inj h] at hlast
    exact hlast rfl
  · unfold decimals
    dsimp only
    split
    · rename_i hnil
      exact (if_pos hnil).symm
    · rename_i hne
      exact (if_neg hne).symm

theorem isFraction_decimals (hwidth : 0 < width) (hn : n < 10 ^ width) :
    IsFraction width (decimals width n) := by
  obtain ⟨ds, zeros, hpadded, hlast, hdecimals⟩ := paddedDigits_eq width n
  have hlength := length_paddedDigits hwidth hn
  rw [hpadded, List.length_append] at hlength
  rw [hdecimals]
  split
  · refine ⟨fun c hc => ?_, nofun, hwidth, fun _ => rfl⟩
    rw [List.mem_singleton.mp hc]
    rfl
  · rename_i hne
    refine ⟨fun c hc => ?_, hne, by omega, fun h => absurd h hlast⟩
    have hmem : c ∈ paddedDigits width n := hpadded ▸ List.mem_append_left _ hc
    exact digit_of_mem_paddedDigits hmem

theorem ofDigitChars_decimals (hwidth : 0 < width) (hn : n < 10 ^ width) :
    (Nat.ofDigitChars 10 (decimals width n) 0 / 10 ^ (decimals width n).length : ℚ) =
      n / 10 ^ width := by
  obtain ⟨ds, zeros, hpadded, -, hdecimals⟩ := paddedDigits_eq width n
  have hlength := length_paddedDigits hwidth hn
  have hvalue := ofDigitChars_paddedDigits width n
  rw [hpadded, Nat.ofDigitChars_append, Nat.ofDigitChars_replicate_zero] at hvalue
  rw [hpadded, List.length_append, List.length_replicate] at hlength
  rw [hdecimals, ← hvalue, ← hlength]
  split
  · rename_i hnil
    rw [hnil]
    simp [Nat.ofDigitChars]
  · push_cast
    rw [pow_add, mul_comm (_ ^ zeros), mul_div_mul_right _ _ (by positivity)]

end

/-! ## The text -/

theorem decimalValue_split (n : ℕ) :
    decimalValue (Nat.toDigits 10 (n / 10 ^ places)) (decimals places (n % 10 ^ places)) =
      n / 10 ^ places := by
  have hplaces : 0 < places := by decide
  have hwhole := Nat.ofDigitChars_ten_toDigits (n := n / 10 ^ places)
  have hfraction := ofDigitChars_decimals hplaces (Nat.mod_lt n (Nat.pow_pos (by decide)))
  have hsplit : (10 ^ places : ℚ) * (n / 10 ^ places : ℕ) + (n % 10 ^ places : ℕ) = n := by
    exact_mod_cast Nat.div_add_mod n (10 ^ places)
  rw [decimalValue, hwhole, hfraction, eq_div_iff (by positivity), add_mul,
    div_mul_cancel₀ _ (by positivity)]
  linarith

/-- A finite double is shown as a sign, digits, a point and up to six more digits, which stand for
the number rounded to a millionth. -/
theorem fixed_is_rounded {x : Float} (hx : x.isFinite = true) :
    ∃ whole fraction,
      fixed x = String.ofList ((if signBit x then ['-'] else []) ++ whole ++ '.' :: fraction) ∧
      IsWhole whole ∧ IsFraction 6 fraction ∧
      RoundsTo (1 / 10 ^ 6) (exact x) (withSign (signBit x) (decimalValue whole fraction)) := by
  obtain ⟨d, hd, hsign, hexact⟩ := exact_ofFloat? hx
  have hscale : 0 < 10 ^ places := by decide
  have hround := (roundsTo_roundHalfUp d.ratio.1 d.ratio_pos hscale).withSign d.negative
  rw [← d.value_eq, ← hexact] at hround
  generalize hscaled : roundHalfUp (d.ratio.1 * 10 ^ places) d.ratio.2 = scaled at hround
  refine ⟨Nat.toDigits 10 (scaled / 10 ^ places), decimals places (scaled % 10 ^ places), ?_,
    isWhole_toDigits _, isFraction_decimals (by decide) (Nat.mod_lt _ hscale), ?_⟩
  · rw [fixed, hd, ← hsign, ← hscaled]
    rfl
  · rw [decimalValue_split, ← hsign]
    exact_mod_cast hround

/-- A negative number halfway between two multiples of a millionth. -/
def halfway : Float := Float.ofBits 0xbf80000000000000

/-- It is shown as the one that is further from zero. -/
theorem halfway_rounded : halfway.isFinite = true ∧ exact halfway = -1 / 2 ^ 7 ∧
    fixed halfway = "-0.007813" ∧ ∃ whole fraction,
      fixed halfway =
        String.ofList ((if signBit halfway then ['-'] else []) ++ whole ++ '.' :: fraction) ∧
      IsWhole whole ∧ IsFraction 6 fraction ∧
      RoundsTo (1 / 10 ^ 6) (exact halfway)
        (withSign (signBit halfway) (decimalValue whole fraction)) := by
  have hexact : exact halfway = ((-2 ^ 52 : ℤ) : ℚ) * 2 ^ (-59 : ℤ) := rfl
  refine ⟨rfl, ?_, by decide +kernel, fixed_is_rounded rfl⟩
  rw [hexact]
  norm_num

end Vimscript.Decimal
