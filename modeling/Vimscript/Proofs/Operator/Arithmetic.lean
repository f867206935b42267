import Mathlib.Data.Int.ModEq
import Vimscript.Proofs.Eval.Storing

/-!
# Arithmetic of 64 bits

The operands of an arithmetic operator are Numbers, or Strings that stand
for one, and nothing bounds their size. A result has 64 bits: it is the one
integer in that range that is congruent to the exact result. So sums,
differences and products depend on their operands only up to congruence
(`Number.wrap_congr`), and it makes no difference where in a computation a
Number is wrapped. That is also why a quotient, a product and a sum, each of
them wrapped, still take a dividend apart and put it together again
(`Arith.recomposed_makes`).

Division itself does not respect congruence. It is exact on the operands as
they are: `Number.Truncates` says what the quotient and the remainder are,
and only then is the quotient wrapped.

The operators fail for one kind of operand, a String with more leading
digits than a Number is read from.
-/

namespace Vimscript

/-! ## Wrapping -/

namespace Number

/-- An integer of 64 bits stands for another one. -/
structure WrapsTo (n m : Int) : Prop where
  low : minValue ≤ m
  high : m ≤ maxValue
  congruent : m ≡ n [ZMOD 2 ^ 64]

theorem wrap_modEq (n : Int) : wrap n ≡ n [ZMOD 2 ^ 64] := Int.bmod_emod

/-- There is one integer of 64 bits for each. -/
theorem wrap_eq_iff {n m : Int} : wrap n = m ↔ WrapsTo n m := by
  constructor
  · rintro rfl
    exact ⟨(wrap_mem_range n).1, (wrap_mem_range n).2, wrap_modEq n⟩
  · rintro ⟨hlow, hhigh, hcongruent⟩
    have hrange := wrap_mem_range n
    have hsame : wrap n % 2 ^ 64 = m % 2 ^ 64 := (wrap_modEq n).trans hcongruent.symm
    simp only [minValue, maxValue] at hlow hhigh hrange
    omega

theorem wrap_congr {n m : Int} (h : n ≡ m [ZMOD 2 ^ 64]) : wrap n = wrap m :=
  wrap_eq_iff.mpr
    ⟨(wrap_mem_range m).1, (wrap_mem_range m).2, (wrap_modEq m).trans h.symm⟩

/-! ## Dividing -/

/-- A quotient truncated toward zero, and its remainder: they make up the dividend, and the
remainder is smaller than the divisor and on the side of the dividend. -/
structure Truncates (a b q r : Int) : Prop where
  whole : q * b + r = a
  smaller : r.natAbs < b.natAbs
  nonneg : 0 ≤ a → 0 ≤ r
  nonpos : a ≤ 0 → r ≤ 0

variable {a b : Int}

theorem truncates_tdiv (hb : b ≠ 0) : Truncates a b (a.tdiv b) (a.tmod b) where
  whole := Int.tdiv_mul_add_tmod a b
  smaller := by
    rw [Int.natAbs_tmod]
    exact Nat.mod_lt _ (Int.natAbs_pos.mpr hb)
  nonneg := Int.tmod_nonneg b
  nonpos ha := by
    have hneg : 0 ≤ (-a).tmod b := Int.tmod_nonneg b (by omega)
    rw [Int.neg_tmod] at hneg
    omega

end Number

/-! ## Operands -/

namespace Value

/-- The integer that a Number or String stands for, of whatever size. -/
def integer? : Value → Option Int
  | .number n => some n
  | .string s => some (Number.leading s)
  | _ => none

/-- Whether a value is a String with more leading digits than a Number is read from. -/
def isOverlong : Value → Bool
  | .string s => Number.maxDigits < (Number.decimalDigits s).length
  | _ => false

variable {v : Value} {n : Int}

theorem toNumber_of_integer (hv : v.integer? = some n) (hshort : v.isOverlong = false) :
    v.toNumber = .ok n := by
  cases v with
  | number m => exact congrArg Except.ok (Option.some.inj hv)
  | string s =>
      rw [toNumber_string, if_neg (of_decide_eq_false hshort)]
      exact congrArg Except.ok (Option.some.inj hv)
  | float _ | list _ | dict _ | funcref _ | blob _ => cases hv

theorem toNumber_of_isOverlong (hlong : v.isOverlong = true) :
    ∃ count, v.toNumber = .error (.fault (.tooManyDigits (some count))) := by
  cases v with
  | string s =>
      rw [toNumber_string, if_pos (of_decide_eq_true hlong)]
      exact ⟨_, rfl⟩
  | number _ | float _ | list _ | dict _ | funcref _ | blob _ => cases hlong

end Value

/-! ## Operators -/

namespace Op

/-- An operation makes a Number, and does nothing else. -/
def MakesNumber (op : Op Ref) (h : Heap) (n : Int) : Prop :=
  op h = (.ok (h.alloc (.number n)).1, (h.alloc (.number n)).2)

variable {h : Heap} {op : Op Ref} {n m : Int}

theorem MakesNumber.unique (hn : op.MakesNumber h n) (hm : op.MakesNumber h m) : n = m := by
  have hheaps : (h.alloc (.number n)).2 = (h.alloc (.number m)).2 :=
    (Prod.mk.inj (hn.symm.trans hm)).2
  have hvalues : Value.number n = .number m := by
    rw [← h.value_alloc_self (.number n), ← h.value_alloc_self (.number m), hheaps]
    rfl
  exact Value.number.inj hvalues

/-- What an operation makes can be told by any property that one Number has. -/
theorem MakesNumber.iff_wrapsTo (hop : op.MakesNumber h (Number.wrap m)) :
    op.MakesNumber h n ↔ Number.WrapsTo m n := by
  rw [← Number.wrap_eq_iff]
  constructor
  · exact hop.unique
  · rintro rfl
    exact hop

end Op

namespace Heap

/-- An object is a Number, or a String that stands for one. -/
structure Operand (h : Heap) (r : Ref) (n : Int) : Prop where
  index_lt : r.index < h.size
  integer : (h.value r).integer? = some n

/-- An operand that can be read. -/
structure Readable (h : Heap) (r : Ref) (n : Int) : Prop extends Operand h r n where
  short : (h.value r).isOverlong = false

variable {h : Heap} {l r : Ref} {a b : Int}

theorem Readable.toNumber (hr : h.Readable r a) : (h.value r).toNumber = .ok a :=
  Value.toNumber_of_integer hr.integer hr.short

/-- Making an object leaves an operand what it is. -/
theorem Readable.alloc (hr : h.Readable r a) (v : Value) : (h.alloc v).2.Readable r a where
  index_lt := by
    rw [size_alloc]
    exact Nat.lt_succ_of_lt hr.index_lt
  integer := by
    rw [value_alloc_of_lt h v hr.index_lt]
    exact hr.integer
  short := by
    rw [value_alloc_of_lt h v hr.index_lt]
    exact hr.short

theorem readable_made (h : Heap) (n : Int) :
    (h.alloc (.number n)).2.Readable (h.alloc (.number n)).1 n where
  index_lt := by
    rw [size_alloc]
    exact Nat.lt_succ_self _
  integer := by
    rw [value_alloc_self]
    rfl
  short := by
    rw [value_alloc_self]
    rfl

end Heap

namespace Arith

/-- An operator that is not concatenation. -/
def IsNumeric : Arith → Prop
  | add | subtract | multiply | divide | modulo => True
  | dot | dotDot => False

/-- Without a List, Blob or Float an operator works on Numbers. -/
theorem onValues_of_integer {op : Arith} {u v : Value} {a b : Int} (hop : op.IsNumeric)
    (hu : u.integer? = some a) (hv : v.integer? = some b) :
    op.onValues u v = do return .number (op.onNumbers (← u.toNumber) (← v.toNumber)) := by
  cases op with
  | dot | dotDot => exact hop.elim
  | add | subtract | multiply | divide | modulo =>
      cases u <;> cases hu <;> cases v <;> cases hv <;> rfl

variable {h : Heap} {l r : Ref} {a b : Int}

theorem apply_makes (op : Arith) (hop : op.IsNumeric) (hl : h.Readable l a) (hr : h.Readable r b) :
    (op.apply l r).MakesNumber h (op.onNumbers a b) := by
  refine Op.apply_of_ok ?_
  rw [onValues_of_integer hop hl.integer hr.integer, hl.toNumber, hr.toNumber]
  rfl

theorem apply_faults (op : Arith) (hop : op.IsNumeric) (hl : h.Operand l a) (hr : h.Operand r b)
    (hlong : (h.value l).isOverlong = true ∨ (h.value r).isOverlong = true) :
    ∃ count, op.apply l r h = (.error (.fault (.tooManyDigits (some count))), h) := by
  have hvalues := onValues_of_integer hop hl.integer hr.integer
  by_cases hleft : (h.value l).isOverlong = true
  · obtain ⟨count, hcount⟩ := Value.toNumber_of_isOverlong hleft
    exact ⟨count, Op.apply_of_error (by rw [hvalues, hcount]; rfl)⟩
  · obtain ⟨count, hcount⟩ := Value.toNumber_of_isOverlong (hlong.resolve_left hleft)
    have hshort := Value.toNumber_of_integer hl.integer (Bool.eq_false_iff.mpr hleft)
    exact ⟨count, Op.apply_of_error (by rw [hvalues, hshort, hcount]; rfl)⟩

/-- Sums, differences and products depend on their operands only up to congruence. -/
theorem onNumbers_congr {op : Arith} (hop : op = add ∨ op = subtract ∨ op = multiply) {a' b' : Int}
    (ha : a' ≡ a [ZMOD 2 ^ 64]) (hb : b' ≡ b [ZMOD 2 ^ 64]) :
    op.onNumbers a' b' = op.onNumbers a b := by
  rcases hop with rfl | rfl | rfl
  · exact Number.wrap_congr (ha.add hb)
  · exact Number.wrap_congr (ha.sub hb)
  · exact Number.wrap_congr (ha.mul hb)

/-- The result of an operator is an operand for the next one, and its operands are so still. -/
theorem apply_readable (op : Arith) (hop : op.IsNumeric) (hl : h.Readable l a)
    (hr : h.Readable r b) :
    ∃ t h', op.apply l r h = (.ok t, h') ∧ h'.Readable t (op.onNumbers a b) ∧
      ∀ {x n}, h.Readable x n → h'.Readable x n :=
  ⟨_, _, apply_makes op hop hl hr, h.readable_made _, fun hx => hx.alloc _⟩

/-- The quotient times the divisor, and the remainder added: `(a / b) * b + a % b`. -/
def recomposed (l r : Ref) : Op Ref := do
  let quotient ← divide.apply l r
  let product ← multiply.apply quotient r
  let remainder ← modulo.apply l r
  add.apply product remainder

/-- Taken apart and put together again, a dividend is itself up to wrapping. -/
theorem recomposed_makes (hl : h.Readable l a) (hr : h.Readable r b) (hb : b ≠ 0) :
    ∃ t h', recomposed l r h = (.ok t, h') ∧ h'.value t = .number (Number.wrap a) := by
  obtain ⟨q, h₁, hdivide, hq, hkept₁⟩ := apply_readable divide trivial hl hr
  obtain ⟨p, h₂, hmultiply, hp, hkept₂⟩ := apply_readable multiply trivial hq (hkept₁ hr)
  obtain ⟨m, h₃, hmodulo, hm, hkept₃⟩ :=
    apply_readable modulo trivial (hkept₂ (hkept₁ hl)) (hkept₂ (hkept₁ hr))
  have hadd := apply_makes add trivial (hkept₃ hp) hm
  have hrun : recomposed l r h = add.apply p m h₃ := by
    rw [recomposed, Op.bind_of_ok hdivide, Op.bind_of_ok hmultiply, Op.bind_of_ok hmodulo]
  refine ⟨_, _, hrun.trans hadd, ?_⟩
  have hsum : Number.wrap (Number.wrap (a.tdiv b) * b) + a.tmod b ≡ a [ZMOD 2 ^ 64] := by
    calc Number.wrap (Number.wrap (a.tdiv b) * b) + a.tmod b
        ≡ Number.wrap (a.tdiv b) * b + a.tmod b [ZMOD 2 ^ 64] :=
          (Number.wrap_modEq _).add_right _
      _ ≡ a.tdiv b * b + a.tmod b [ZMOD 2 ^ 64] :=
          ((Number.wrap_modEq _).mul_right b).add_right _
      _ = a := Int.tdiv_mul_add_tmod a b
  rw [Heap.value_alloc_self, ← Number.wrap_congr hsum]
  simp only [onNumbers, Number.quotient, Number.remainder, if_neg hb]

end Arith

/-! ## Exactness -/

/-- What the operators do with two operands, in terms of the integers that these stand for. -/
structure Heap.ExactArithmetic (h : Heap) (l r : Ref) (a b : Int) : Prop where
  sum (n : Int) : (Arith.add.apply l r).MakesNumber h n ↔ Number.WrapsTo (a + b) n
  difference (n : Int) : (Arith.subtract.apply l r).MakesNumber h n ↔ Number.WrapsTo (a - b) n
  product (n : Int) : (Arith.multiply.apply l r).MakesNumber h n ↔ Number.WrapsTo (a * b) n
  /-- Either operand of these can be wrapped before. -/
  wrapped {op : Arith} {l' r' : Ref} {a' b' : Int}
    (hop : op = .add ∨ op = .subtract ∨ op = .multiply)
    (hl : h.Readable l' a') (ha : Number.WrapsTo a a')
    (hr : h.Readable r' b') (hb : Number.WrapsTo b b') :
    op.apply l' r h = op.apply l r h ∧ op.apply l r' h = op.apply l r h
  division (hb : b ≠ 0) : ∃ q m, Number.Truncates a b q m ∧
    (∀ n, (Arith.divide.apply l r).MakesNumber h n ↔ Number.WrapsTo q n) ∧
    (Arith.modulo.apply l r).MakesNumber h m
  recomposition (hb : b ≠ 0) : ∃ t h', Arith.recomposed l r h = (.ok t, h') ∧
    ∀ n, h'.value t = .number n ↔ Number.WrapsTo a n
  zeroDivisor (hb : b = 0) :
    (Arith.divide.apply l r).MakesNumber h
      (if a = 0 then -2 ^ 63 else if 0 < a then 2 ^ 63 - 1 else -(2 ^ 63 - 1)) ∧
    (Arith.modulo.apply l r).MakesNumber h 0

section

variable {h : Heap} {l r : Ref} {a b : Int}

theorem Heap.Readable.exactArithmetic (hl : h.Readable l a) (hr : h.Readable r b) :
    h.ExactArithmetic l r a b where
  sum _ := (Arith.apply_makes .add trivial hl hr).iff_wrapsTo
  difference _ := (Arith.apply_makes .subtract trivial hl hr).iff_wrapsTo
  product _ := (Arith.apply_makes .multiply trivial hl hr).iff_wrapsTo
  wrapped {op} _ _ _ _ hop hl' ha hr' hb := by
    have hnumeric : op.IsNumeric := by
      rcases hop with rfl | rfl | rfl <;> trivial
    have hmakes := Arith.apply_makes op hnumeric hl hr
    have hleft := Arith.apply_makes op hnumeric hl' hr
    have hright := Arith.apply_makes op hnumeric hl hr'
    rw [Arith.onNumbers_congr hop ha.congruent rfl] at hleft
    rw [Arith.onNumbers_congr hop rfl hb.congruent] at hright
    exact ⟨hleft.trans hmakes.symm, hright.trans hmakes.symm⟩
  division hb := by
    refine ⟨_, _, Number.truncates_tdiv hb, fun n => ?_, ?_⟩
    · have hdivide := Arith.apply_makes .divide trivial hl hr
      rw [Arith.onNumbers, Number.quotient, if_neg hb] at hdivide
      exact hdivide.iff_wrapsTo
    · have hmodulo := Arith.apply_makes .modulo trivial hl hr
      rwa [Arith.onNumbers, Number.remainder, if_neg hb] at hmodulo
  recomposition hb := by
    obtain ⟨t, h', hrun, hvalue⟩ := Arith.recomposed_makes hl hr hb
    refine ⟨t, h', hrun, fun n => ?_⟩
    rw [hvalue, Value.number.injEq, Number.wrap_eq_iff]
  zeroDivisor hb := by
    have hdivide := Arith.apply_makes .divide trivial hl hr
    have hmodulo := Arith.apply_makes .modulo trivial hl hr
    rw [Arith.onNumbers, Number.quotient, if_pos hb] at hdivide
    rw [Arith.onNumbers, Number.remainder, if_pos hb] at hmodulo
    exact ⟨hdivide, hmodulo⟩

/-- Arithmetic is exact up to wrapping for all Numbers and Strings, unless an operand is a String
that has too many digits to be read: then every operator ends in a fault. -/
theorem arithmetic_exact_iff (hl : h.Operand l a) (hr : h.Operand r b) :
    (h.ExactArithmetic l r a b ↔
      (h.value l).isOverlong = false ∧ (h.value r).isOverlong = false) ∧
    ((h.value l).isOverlong = true ∨ (h.value r).isOverlong = true →
      ∀ op : Arith, op.IsNumeric →
        ∃ count, op.apply l r h = (.error (.fault (.tooManyDigits (some count))), h)) := by
  have hfaults := fun hlong op hop => Arith.apply_faults op hop hl hr hlong
  refine ⟨⟨fun hexact => ?_, fun ⟨hshort, hshort'⟩ => ?_⟩, hfaults⟩
  · by_contra hlong
    have hlong' : (h.value l).isOverlong = true ∨ (h.value r).isOverlong = true := by
      simpa only [Bool.eq_false_iff, ne_eq, not_and_or, not_not] using hlong
    obtain ⟨count, hrun⟩ := hfaults hlong' .add trivial
    have hsum : (Arith.add.apply l r).MakesNumber h (Number.wrap (a + b)) :=
      (hexact.sum _).mpr (Number.wrap_eq_iff.mp rfl)
    rw [Op.MakesNumber, hrun] at hsum
    cases hsum
  · exact Heap.Readable.exactArithmetic ⟨hl, hshort⟩ ⟨hr, hshort'⟩

end

/-- The least Number of 64 bits, the text of minus one, and a text with more digits than a Number is
read from. -/
def extremes : Heap where
  cells := #[{ value := .number Number.minValue }, { value := .string "-1" },
    { value := .string (String.ofList (List.replicate 4301 '9')) }]

/-- The quotient of the least Number and minus one is out of range, and is wrapped. -/
theorem extremes_exact :
    extremes.Operand ⟨0⟩ (-2 ^ 63) ∧ extremes.Operand ⟨1⟩ (-1) ∧
      extremes.ExactArithmetic ⟨0⟩ ⟨1⟩ (-2 ^ 63) (-1) := by
  have hl : extremes.Operand ⟨0⟩ (-2 ^ 63) := ⟨by decide, rfl⟩
  have hr : extremes.Operand ⟨1⟩ (-1) := ⟨by decide, by decide⟩
  refine ⟨hl, hr, ?_⟩
  exact (arithmetic_exact_iff hl hr).1.mpr ⟨rfl, by decide⟩

/-- A String is no Number when it has too many digits: nothing is added to it. -/
theorem overlongText_not_added :
    (∃ n, extremes.Operand ⟨2⟩ n) ∧ extremes.Operand ⟨1⟩ (-1) ∧
      ∃ count, Arith.add.apply ⟨2⟩ ⟨1⟩ extremes =
        (.error (.fault (.tooManyDigits (some count))), extremes) := by
  have hl : extremes.Operand ⟨2⟩ (Number.leading (String.ofList (List.replicate 4301 '9'))) :=
    ⟨by decide, rfl⟩
  have hr : extremes.Operand ⟨1⟩ (-1) := ⟨by decide, by decide⟩
  have hlong : (extremes.value ⟨2⟩).isOverlong = true := by
    change decide (Number.maxDigits <
      (Number.decimalDigits (String.ofList (List.replicate 4301 '9'))).length) = true
    rw [Number.decimalDigits, String.toList_ofList]
    decide +kernel
  exact ⟨⟨_, hl⟩, hr, Arith.apply_faults _ trivial hl hr (.inl hlong)⟩

end Vimscript
