import Vimscript.Number.Limit
import Vimscript.Proofs.Number.Positional

/-!
# Written numbers

A number is written as its decimal digits, after a minus sign where it is
negative (`toList_toString`). Taking the sign off and reading the digits
gives the number back, so no two numbers are written alike.
-/

namespace Vimscript.Number

/-! ## Digits -/

theorem isDigit_of_mem {n : Nat} {c : Char} (hc : c ∈ Nat.toDigits 10 n) : c.isDigit = true :=
  Nat.isDigit_of_mem_toDigits (by decide) (by decide) hc

theorem ofDigits_ten_toDigits (n : Nat) : ofDigits 10 (Nat.toDigits 10 n) = n :=
  ofDigits_toDigits (by decide) (by decide) n

theorem toString_nat_injective {m n : Nat} (h : toString m = toString n) : m = n := by
  have hdigits : Nat.toDigits 10 m = Nat.toDigits 10 n := by
    simpa using congrArg String.toList h
  rw [← ofDigits_ten_toDigits m, hdigits, ofDigits_ten_toDigits]

/-- Only zero is written with a zero first. -/
theorem head?_toDigits {n : Nat} (hn : 0 < n) : (Nat.toDigits 10 n).head? ≠ some '0' := by
  have hdigit : ∀ m < 10, 0 < m → m.digitChar ≠ '0' := by decide
  induction n using Nat.strongRecOn with
  | ind n ih =>
      rw [Nat.toDigits_eq_if (by decide)]
      split
      · rename_i hlt
        exact fun h => hdigit n hlt hn (Option.some.inj h)
      · rename_i hge
        rw [List.head?_append, Option.or_of_isSome (List.isSome_head?.mpr Nat.toDigits_ne_nil)]
        exact ih (n / 10) (by omega) (by omega)

/-- Numbers that are not too long have no more digits than may be written. -/
theorem length_toDigits_le {n : Int} :
    (Nat.toDigits 10 n.natAbs).length ≤ maxDigits ↔ isLong n = false := by
  rw [Nat.length_toDigits_le_iff (by decide) (by decide), isLong, decide_eq_false_iff_not,
    Nat.not_le, Nat.pow_eq]

/-! ## Signs -/

theorem toList_toString (n : Int) :
    (toString n).toList = (if n < 0 then ['-'] else []) ++ Nat.toDigits 10 n.natAbs := by
  rw [Int.toString_eq_repr, Int.repr_eq_if]
  by_cases hn : 0 ≤ n
  · have habs : n.toNat = n.natAbs := by omega
    rw [if_pos hn, if_neg (Int.not_lt.mpr hn), Nat.toList_repr, List.nil_append, habs]
  · have habs : (-n).toNat = n.natAbs := by omega
    rw [if_neg hn, if_pos (Int.not_le.mp hn), String.toList_append, Nat.toList_repr, habs]
    rfl

theorem splitSign_toDigits (n : Nat) (rest : List Char) :
    splitSign (Nat.toDigits 10 n ++ rest) = (false, Nat.toDigits 10 n ++ rest) := by
  obtain ⟨c, cs, hcs⟩ := List.exists_cons_of_ne_nil (Nat.toDigits_ne_nil (n := n) (b := 10))
  have hc : c ≠ '-' := by
    rintro rfl
    have hdigit := isDigit_of_mem (n := n) (c := '-') (hcs ▸ List.mem_cons_self)
    revert hdigit
    decide
  rw [hcs, List.cons_append, splitSign]
  rintro rest ⟨⟩
  exact hc rfl

/-- Taking the sign off leaves the digits and whatever follows. -/
theorem splitSign_toString (n : Int) (rest : List Char) :
    splitSign ((toString n).toList ++ rest) =
      (decide (n < 0), Nat.toDigits 10 n.natAbs ++ rest) := by
  rw [toList_toString]
  by_cases hn : n < 0
  · rw [if_pos hn, decide_eq_true hn]
    rfl
  · rw [if_neg hn, decide_eq_false hn, List.nil_append, splitSign_toDigits]

theorem signed_natAbs (n : Int) : signed (decide (n < 0)) n.natAbs = n := by
  unfold signed
  split
  · rename_i hn
    rw [decide_eq_true_eq] at hn
    omega
  · rename_i hn
    rw [decide_eq_true_eq] at hn
    omega

theorem toString_injective {m n : Int} (h : toString m = toString n) : m = n := by
  have hsplit : splitSign ((toString m).toList ++ []) = splitSign ((toString n).toList ++ []) := by
    rw [h]
  rw [splitSign_toString, splitSign_toString, List.append_nil, List.append_nil] at hsplit
  obtain ⟨hsign, hdigits⟩ := Prod.mk.inj hsplit
  have habs : m.natAbs = n.natAbs := by
    rw [← ofDigits_ten_toDigits m.natAbs, hdigits, ofDigits_ten_toDigits]
  rw [← signed_natAbs m, hsign, habs, signed_natAbs]

theorem toList_toString_ne_nil (n : Int) : (toString n).toList ≠ [] := by
  rw [toList_toString]
  exact List.append_ne_nil_of_right_ne_nil _ Nat.toDigits_ne_nil

/-- Nothing but digits and a sign. -/
theorem mem_toString {n : Int} {c : Char} (hc : c ∈ (toString n).toList) :
    c.isDigit = true ∨ c = '-' := by
  rw [toList_toString, List.mem_append] at hc
  rcases hc with hc | hc
  · split at hc
    · exact .inr (List.mem_singleton.mp hc)
    · cases hc
  · exact .inl (isDigit_of_mem hc)

end Vimscript.Number
