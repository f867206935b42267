import Mathlib.Tactic.SplitIfs
import Vimscript.Number.Literal

/-!
# Digits of a base

The digits of a base up to sixteen are those that `Nat.toDigits` writes, and
the same with capital letters in place of small ones (`IsDigitIn`). A digit
has one value, however it is written, and so has a run of digits: the number
whose digits they are (`ofDigits_toDigits`), whatever zeros stand before
them.

Which letters are digits, what a digit is worth and what the small letter for
a capital is are all read off the code of the character.
-/

namespace Vimscript.Number

variable {base d : Nat} {c : Char}

/-! ## Single digits -/

/-- A character is a digit of a base; a letter may be small or capital. -/
def IsDigitIn (base : Nat) (c : Char) : Prop := ∃ d < base, c.toLower = d.digitChar

instance (base : Nat) (c : Char) : Decidable (IsDigitIn base c) :=
  inferInstanceAs (Decidable (∃ d < base, c.toLower = d.digitChar))

theorem toNat_toLower (c : Char) :
    c.toLower.toNat = if 65 ≤ c.toNat ∧ c.toNat ≤ 90 then c.toNat + 32 else c.toNat := by
  have hcapital : c.val ≥ 'A'.val ∧ c.val ≤ 'Z'.val ↔ 65 ≤ c.toNat ∧ c.toNat ≤ 90 := by
    simp [UInt32.le_iff_toNat_le]
  unfold Char.toLower
  split
  · rename_i hc
    rw [hcapital] at hc
    have hadd : (c.val + 32).toNat = (c.toNat + 32) % 2 ^ 32 := UInt32.toNat_add c.val 32
    rw [if_pos hc]
    exact hadd.trans (Nat.mod_eq_of_lt (by omega))
  · rename_i hc
    rw [hcapital] at hc
    rw [if_neg hc]

theorem toNat_digitChar (hd : d < 16) :
    d.digitChar.toNat = if d < 10 then d + 48 else d + 87 := by
  have hall : ∀ d < 16, d.digitChar.toNat = if d < 10 then d + 48 else d + 87 := by decide
  exact hall d hd

theorem isHex_iff : isHex c = true ↔ (48 ≤ c.toNat ∧ c.toNat ≤ 57) ∨
    (97 ≤ c.toNat ∧ c.toNat ≤ 102) ∨ (65 ≤ c.toNat ∧ c.toNat ≤ 70) := by
  simp [isHex, Char.isDigit, Char.le_def, UInt32.le_iff_toNat_le, or_assoc]

theorem digit_eq (c : Char) : digit c =
    if 48 ≤ c.toNat ∧ c.toNat ≤ 57 then c.toNat - 48
    else if 97 ≤ c.toNat ∧ c.toNat ≤ 102 then c.toNat - 97 + 10
    else if 65 ≤ c.toNat ∧ c.toNat ≤ 70 then c.toNat - 65 + 10
    else 0 := by
  simp [digit, Char.isDigit, Char.le_def, UInt32.le_iff_toNat_le]

/-- A character has a value below sixteen if it is the digit with this value. -/
theorem toLower_eq_digitChar_iff (hd : d < 16) :
    c.toLower = d.digitChar ↔ isHex c = true ∧ digit c = d := by
  rw [← Char.toNat_inj, toNat_toLower, toNat_digitChar hd, isHex_iff, digit_eq]
  split_ifs <;> omega

theorem digit_digitChar (hd : d < 16) : digit d.digitChar = d := by
  have hall : ∀ d < 16, digit d.digitChar = d := by decide
  exact hall d hd

theorem digit_toLower (c : Char) : digit c.toLower = digit c := by
  rw [digit_eq, digit_eq, toNat_toLower]
  split_ifs <;> omega

theorem isDigitIn_iff (hbase : base ≤ 16) :
    IsDigitIn base c ↔ isHex c = true ∧ digit c < base := by
  constructor
  · rintro ⟨d, hd, hc⟩
    obtain ⟨hhex, hdigit⟩ := (toLower_eq_digitChar_iff (by omega)).mp hc
    exact ⟨hhex, hdigit ▸ hd⟩
  · rintro ⟨hhex, hdigit⟩
    exact ⟨digit c, hdigit, (toLower_eq_digitChar_iff (by omega)).mpr ⟨hhex, rfl⟩⟩

/-! ## Runs of digits -/

theorem ofDigits_concat (base : Nat) (cs : List Char) (c : Char) :
    ofDigits base (cs ++ [c]) = ofDigits base cs * base + digit c := by
  rw [ofDigits, List.foldl_append]
  rfl

theorem ofDigits_zero_cons (base : Nat) (cs : List Char) :
    ofDigits base ('0' :: cs) = ofDigits base cs := by
  simp [ofDigits, digit]

theorem ofDigits_zeros (base zeros : Nat) (cs : List Char) :
    ofDigits base (List.replicate zeros '0' ++ cs) = ofDigits base cs := by
  induction zeros with
  | zero => rfl
  | succ zeros ih => rw [List.replicate_succ, List.cons_append, ofDigits_zero_cons, ih]

theorem ofDigits_map_toLower (base : Nat) (cs : List Char) :
    ofDigits base (cs.map Char.toLower) = ofDigits base cs := by
  simp only [ofDigits, List.foldl_map, digit_toLower]

/-- The digits of a number stand for it. -/
theorem ofDigits_toDigits (hlow : 1 < base) (hhigh : base ≤ 16) (n : Nat) :
    ofDigits base (Nat.toDigits base n) = n := by
  induction n using Nat.strongRecOn with
  | ind n ih =>
      rw [Nat.toDigits_eq_if hlow]
      split
      · rename_i hlt
        rw [← List.nil_append [n.digitChar], ofDigits_concat, digit_digitChar (by omega)]
        simp [ofDigits]
      · rename_i hge
        have hless : n / base < n := Nat.div_lt_self (by omega) hlow
        have hlast : n % base < base := Nat.mod_lt _ (by omega)
        rw [ofDigits_concat, ih _ hless, digit_digitChar (by omega), Nat.div_add_mod']

theorem isDigitIn_of_mem_toDigits (hlow : 1 < base) {n : Nat}
    (hc : c.toLower ∈ Nat.toDigits base n) : IsDigitIn base c := by
  induction n using Nat.strongRecOn with
  | ind n ih =>
      rw [Nat.toDigits_eq_if hlow] at hc
      split at hc
      · rename_i hlt
        exact ⟨n, hlt, List.mem_singleton.mp hc⟩
      · rename_i hge
        rcases List.mem_append.mp hc with hinit | hlast
        · exact ih _ (Nat.div_lt_self (by omega) hlow) hinit
        · exact ⟨n % base, Nat.mod_lt _ (by omega), List.mem_singleton.mp hlast⟩

end Vimscript.Number
