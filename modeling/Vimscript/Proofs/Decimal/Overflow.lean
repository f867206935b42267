import Mathlib
import Vimscript.Decimal.Dyadic

/-!
# Integers out of the range of doubles

The double nearest to an integer is infinite from `overflowLimit` on: half a
unit in the last place above the greatest double, where rounding to the even
mantissa leads to the next power of two. Below it the nearest double is finite.

An integer with `k + 53` binary digits has the mantissa that is left of it
over `2 ^ k`, rounded. The bits of the double grow with `k` and with the
mantissa, so that only `k = 971` has to be looked at closely: there the
double is infinite if the mantissa is rounded up to 54 digits.
-/

namespace Vimscript.Decimal

open Float.Model
open Float.Model.UnpackedFloat (unpackExponent unpackMantissa)

/-! ## Infinite doubles -/

theorem isInf_unpack (b : BitVec Format.binary64.numBits) :
    (UnpackedFloat.unpack .binary64 b).isInf = true
      ↔ unpackExponent b = -1#_ ∧ unpackMantissa b = 0#_ := by
  unfold UnpackedFloat.unpack
  dsimp only
  split
  · rename_i he
    split
    · rename_i hm
      exact ⟨fun _ => ⟨he, hm⟩, fun _ => rfl⟩
    · rename_i hm
      exact ⟨nofun, fun h => absurd h.2 hm⟩
  · rename_i he
    refine ⟨fun h => ?_, fun h => absurd h.1 he⟩
    split at h
    · split at h <;> cases h
    · cases h

/-- Infinity has the greatest exponent and no fraction. -/
theorem isInf_ofBits (b : UInt64) :
    (Float.ofBits b).isInf = true
      ↔ b.toNat / fractionUnit % 2048 = 2047 ∧ b.toNat % fractionUnit = 0 := by
  have hfields : @unpackExponent .binary64 b.toBitVec = -1#_ ∧
      @unpackMantissa .binary64 b.toBitVec = 0#_
        ↔ b.toNat / fractionUnit % 2048 = 2047 ∧ b.toNat % fractionUnit = 0 := by
    rw [UnpackedFloat.unpackExponent_def, UnpackedFloat.unpackMantissa_def, ← BitVec.toNat_inj,
      ← BitVec.toNat_inj, BitVec.extractLsb'_toNat, BitVec.extractLsb'_toNat,
      Nat.shiftRight_eq_div_pow]
    rfl
  change (UnpackedFloat.unpack .binary64
    (UnpackedFloat.pack .binary64 (.unpack .binary64 b.toBitVec))).isInf = true ↔ _
  rw [UnpackedFloat.pack_unpack, ← hfields]
  split
  · rename_i hnan
    rw [UnpackedFloat.isNaNBits, decide_eq_true_eq] at hnan
    rw [UnpackedFloat.unpack_packedNaN]
    exact ⟨nofun, fun h => absurd h.2 hnan.2⟩
  · exact isInf_unpack _

theorem nearestBits_le (num den : Nat) : nearestBits num den ≤ 2047 * fractionUnit := by
  unfold nearestBits
  split
  · exact Nat.zero_le _
  · exact Nat.min_le_right _ _

theorem isInf_nearest (negative : Bool) (num den : Nat) :
    (nearest negative num den).isInf = true ↔ nearestBits num den = 2047 * fractionUnit := by
  have hle := nearestBits_le num den
  rw [nearest, isInf_ofBits, UInt64.toNat_ofNat']
  unfold fractionUnit at hle ⊢
  cases negative <;> simp only [signUnit, Bool.false_eq_true, if_false, if_true] <;> omega

/-! ## Rounding -/

theorem roundEven_one (n : Nat) : roundEven n 1 = n := by
  simp [roundEven, Nat.mod_one]

theorem le_roundEven (num den : Nat) : num / den ≤ roundEven num den := by
  unfold roundEven
  dsimp only
  split <;> omega

theorem roundEven_le (num den : Nat) : roundEven num den ≤ num / den + 1 := by
  unfold roundEven
  dsimp only
  split <;> omega

/-- From an odd quotient, half a unit suffices to round up. -/
theorem roundEven_eq_succ_iff {num den : Nat} (hodd : num / den % 2 = 1) :
    roundEven num den = num / den + 1 ↔ den ≤ 2 * (num % den) := by
  unfold roundEven
  simp only [hodd, Bool.or_eq_true, decide_eq_true_eq, Bool.and_eq_true, beq_iff_eq, and_true]
  split <;> omega

/-! ## Integers -/

/-- The least natural whose nearest double is infinite. -/
def overflowLimit : Nat := 2 ^ 1024 - 2 ^ 970

variable {n k : Nat}

theorem fractionUnit_eq : fractionUnit = 2 ^ 52 := rfl

/-- The double nearest to an integer of at least 53 binary digits. -/
theorem nearestBits_of_large (hlow : 2 ^ (k + 52) ≤ n) (hhigh : n < 2 ^ (k + 53)) :
    nearestBits n 1
      = min ((k + 1074) * fractionUnit + roundEven n (2 ^ k)) (2047 * fractionUnit) := by
  have hpos : n ≠ 0 := Nat.ne_of_gt (Nat.lt_of_lt_of_le (Nat.two_pow_pos _) hlow)
  have hlog : n.log2 = k + 52 := (Nat.log2_eq_iff hpos).mpr ⟨hlow, hhigh⟩
  have hguess : (n.log2 : Int) - ((1 : Nat).log2 : Int) - 52 = k := by
    rw [hlog, show (1 : Nat).log2 = 0 from rfl]
    omega
  have hover : overPowerOfTwo n 1 k = (n, 2 ^ k) := by
    rw [overPowerOfTwo, if_pos (Int.natCast_nonneg k), Int.toNat_natCast, Nat.one_mul, Nat.pow_eq]
  have hdigits : ¬ n / 2 ^ k < fractionUnit := by
    rw [Nat.not_lt, fractionUnit_eq, Nat.le_div_iff_mul_le (Nat.two_pow_pos k), ← Nat.pow_add,
      Nat.add_comm]
    exact hlow
  have hexponent : mantissaExponent n 1 = k := by
    rw [mantissaExponent, hguess]
    dsimp only
    rw [hover]
    dsimp only
    rw [if_neg hdigits]
    omega
  rw [nearestBits, if_neg hpos, hexponent]
  dsimp only
  rw [hover, show ((k : Int) + 1074).toNat = k + 1074 by omega]

theorem nearestBits_of_small (hn : n < 2 ^ 52) : nearestBits n 1 < 2047 * fractionUnit := by
  unfold nearestBits
  split
  · decide
  rename_i hpos
  obtain ⟨hlow, hhigh⟩ := (Nat.log2_eq_iff hpos).mp rfl
  have hlog : n.log2 < 52 := (Nat.log2_lt hpos).mpr hn
  obtain ⟨j, hj⟩ : ∃ j : Nat, n.log2 + j = 52 := ⟨52 - n.log2, by omega⟩
  have hjpos : 0 < j := by omega
  have hguess : (n.log2 : Int) - ((1 : Nat).log2 : Int) - 52 = -(j : Int) := by
    rw [show (1 : Nat).log2 = 0 from rfl]
    omega
  have hover : overPowerOfTwo n 1 (-(j : Int)) = (n * 2 ^ j, 1) := by
    rw [overPowerOfTwo, if_neg (by omega), Int.neg_neg, Int.toNat_natCast, Nat.pow_eq]
  have hdigits : ¬ n * 2 ^ j / 1 < fractionUnit := by
    rw [Nat.not_lt, Nat.div_one, fractionUnit_eq, ← hj, Nat.pow_add]
    exact Nat.mul_le_mul_right _ hlow
  have hmantissa : n * 2 ^ j < 2 * fractionUnit := by
    have hbound : n * 2 ^ j < 2 ^ (n.log2 + 1) * 2 ^ j :=
      Nat.mul_lt_mul_of_pos_right hhigh (Nat.two_pow_pos j)
    rw [← Nat.pow_add, show n.log2 + 1 + j = 53 by omega] at hbound
    exact hbound
  have hexponent : mantissaExponent n 1 = -(j : Int) := by
    rw [mantissaExponent, hguess]
    dsimp only
    rw [hover]
    dsimp only
    rw [if_neg hdigits]
    omega
  rw [hexponent]
  dsimp only
  rw [hover]
  dsimp only
  rw [roundEven_one]
  have hfield : (-(j : Int) + 1074).toNat ≤ 1074 := by omega
  have hle : (-(j : Int) + 1074).toNat * fractionUnit ≤ 1074 * fractionUnit :=
    Nat.mul_le_mul_right _ hfield
  unfold fractionUnit at *
  omega

/-- At the greatest exponent the mantissa has to be rounded up past all its digits. -/
theorem roundEven_overflows_iff {d : Nat} (hd : 0 < d) (hn : n < 2 * fractionUnit * (2 * d)) :
    2 * fractionUnit ≤ roundEven n (2 * d)
      ↔ (2 * fractionUnit - 1) * (2 * d) + d ≤ n := by
  have hq : n / (2 * d) < 2 * fractionUnit := by
    rw [Nat.div_lt_iff_lt_mul (by omega)]
    exact hn
  have hdm : 2 * d * (n / (2 * d)) + n % (2 * d) = n := Nat.div_add_mod n (2 * d)
  have hr : n % (2 * d) < 2 * d := Nat.mod_lt _ (by omega)
  by_cases hlast : n / (2 * d) = 2 * fractionUnit - 1
  · have hodd : n / (2 * d) % 2 = 1 := by rw [hlast]; rfl
    have hup : roundEven n (2 * d) = n / (2 * d) + 1 ↔ 2 * d ≤ 2 * (n % (2 * d)) :=
      roundEven_eq_succ_iff hodd
    have hle := roundEven_le n (2 * d)
    rw [hlast] at hdm hup hle
    rw [Nat.mul_comm (2 * d)] at hdm
    have hunit : 0 < fractionUnit := by decide
    omega
  · have hle := roundEven_le n (2 * d)
    have hsmall : n < (2 * fractionUnit - 1) * (2 * d) := by
      rw [← Nat.div_lt_iff_lt_mul (by omega)]
      exact Nat.lt_of_le_of_ne (Nat.le_sub_one_of_lt hq) hlast
    have hround : roundEven n (2 * d) < 2 * fractionUnit :=
      Nat.lt_of_le_of_lt hle (Nat.lt_of_le_of_ne hq fun h => hlast (by rw [← h]; rfl))
    exact iff_of_false (Nat.not_le.mpr hround) (by omega)

theorem overflowLimit_eq :
    overflowLimit = (2 * fractionUnit - 1) * (2 * 2 ^ 970) + 2 ^ 970 := by
  rw [overflowLimit, fractionUnit_eq]
  decide +kernel

theorem overflowLimit_bounds : 2 ^ 1023 < overflowLimit ∧ overflowLimit ≤ 2 ^ 1024 := by
  decide +kernel

theorem nearestBits_eq_infinity_iff (n : Nat) :
    nearestBits n 1 = 2047 * fractionUnit ↔ overflowLimit ≤ n := by
  obtain ⟨hleast, hmost⟩ := overflowLimit_bounds
  by_cases hsmall : n < 2 ^ 52
  · have hle : (2 : Nat) ^ 52 ≤ 2 ^ 1023 := by decide +kernel
    exact iff_of_false (Nat.ne_of_lt (nearestBits_of_small hsmall)) (by omega)
  have hpos : n ≠ 0 := by
    rintro rfl
    exact hsmall (by decide)
  obtain ⟨k, hk⟩ : ∃ k, n.log2 = k + 52 :=
    ⟨n.log2 - 52, by have := (Nat.le_log2 hpos).mpr (Nat.not_lt.mp hsmall); omega⟩
  obtain ⟨hlow, hhigh⟩ := (Nat.log2_eq_iff hpos).mp hk
  clear hk
  rw [nearestBits_of_large hlow hhigh]
  have hmin : fractionUnit ≤ n / 2 ^ k := by
    rw [fractionUnit_eq, Nat.le_div_iff_mul_le (Nat.two_pow_pos k), ← Nat.pow_add, Nat.add_comm]
    exact hlow
  have hmax : n / 2 ^ k < 2 * fractionUnit := by
    rw [fractionUnit_eq, ← Nat.pow_succ', Nat.div_lt_iff_lt_mul (Nat.two_pow_pos k), ← Nat.pow_add,
      Nat.add_comm]
    exact hhigh
  have hfloor := le_roundEven n (2 ^ k)
  have hceil := roundEven_le n (2 ^ k)
  rcases Nat.lt_trichotomy k 971 with hk | hk | hk
  · -- Too few digits: even rounded up, the number stays in range.
    have hle : (2 : Nat) ^ (k + 52 + 1) ≤ 2 ^ 1023 := by
      rw [Nat.pow_le_pow_iff_right (by decide)]
      omega
    have hbits : (k + 1074) * fractionUnit ≤ 2044 * fractionUnit :=
      Nat.mul_le_mul_right _ (by omega)
    unfold fractionUnit at *
    exact iff_of_false (by omega) (by omega)
  · obtain ⟨j, rfl⟩ : ∃ j, k = j + 1 := ⟨970, hk⟩
    have hj : j = 970 := by omega
    have hlimit : overflowLimit = (2 * fractionUnit - 1) * (2 * 2 ^ j) + 2 ^ j := by
      rw [hj]
      exact overflowLimit_eq
    have hbound : n < 2 * fractionUnit * (2 * 2 ^ j) := by
      rw [← Nat.pow_succ', ← Nat.div_lt_iff_lt_mul (Nat.two_pow_pos (j + 1))]
      exact hmax
    rw [Nat.pow_succ'] at hceil ⊢
    rw [hlimit, ← roundEven_overflows_iff (Nat.two_pow_pos j) hbound]
    unfold fractionUnit at *
    omega
  · -- Too many digits, whatever they are.
    have hle : (2 : Nat) ^ 1024 ≤ 2 ^ (k + 52) := by
      rw [Nat.pow_le_pow_iff_right (by decide)]
      omega
    have hbits : 2046 * fractionUnit ≤ (k + 1074) * fractionUnit :=
      Nat.mul_le_mul_right _ (by omega)
    unfold fractionUnit at *
    exact iff_of_true (by omega) (by omega)

/-- The double nearest to an integer is infinite from the limit on. -/
theorem isInf_ofInt (n : Int) : (ofInt n).isInf = true ↔ overflowLimit ≤ n.natAbs := by
  rw [ofInt, isInf_nearest, nearestBits_eq_infinity_iff]

end Vimscript.Decimal
