import Vimscript.Operator.Apply
import Vimscript.Proofs.Decimal.Overflow

/-!
# How operators stop short

A conversion that a kind of value does not allow is an error of the script.
The conversions that are allowed have limits of their own: a String is not
read as a Number from too many digits, a Number is not written with too many,
and neither is used as a Float when it is out of the range of doubles. A
value beyond one of these limits `Strains` the conversion, which then ends in
a fault.

Arithmetic and comparison convert their operands and do nothing else that
can stop short, except that a comparison by a pattern asks the matcher.
Equality follows Lists, Dictionaries and Funcrefs, so that the value that
strains it may lie anywhere below the operands: `Heap.Halts` speaks of some
object of the heap.
-/

namespace Vimscript

/-- Whenever a result is missing, the reason satisfies a predicate. -/
def Fails {α : Type} (Q : Stop → Prop) (r : Result α) : Prop := ∀ stop, r = .error stop → Q stop

namespace Fails

variable {α β : Type} {Q Q' : Stop → Prop}

theorem ok (a : α) : Fails Q (.ok a : Result α) := by
  intro stop h
  cases h

theorem error {stop : Stop} (h : Q stop) : Fails Q (.error stop : Result α) := by
  rintro _ ⟨⟩
  exact h

theorem bind {r : Result α} {f : α → Result β} (hr : Fails Q r)
    (hf : ∀ a, r = .ok a → Fails Q (f a)) : Fails Q (r >>= f) := by
  cases r with
  | ok a => exact hf a rfl
  | error stop => exact .error (hr stop rfl)

/-- A result of which something further is computed. -/
theorem map {r : Result α} {f : α → β} (hr : Fails Q r) :
    Fails Q (r >>= fun a => pure (f a)) := hr.bind fun a _ => ok (f a)

theorem mono {r : Result α} (hr : Fails Q r) (hQ : ∀ stop, Q stop → Q' stop) : Fails Q' r :=
  fun stop h => hQ stop (hr stop h)

theorem ite {p : Prop} [Decidable p] {x y : Result α} (hx : Fails Q x) (hy : Fails Q y) :
    Fails Q (if p then x else y) := by
  split
  · exact hx
  · exact hy

end Fails

/-! ## Conversions -/

theorem toNumber_string (text : String) : (Value.string text).toNumber =
    if Number.maxDigits < (Number.decimalDigits text).length then
      faulty (.tooManyDigits (some (Number.decimalDigits text).length))
    else .ok (Number.leading text) := by
  rw [Value.toNumber, Number.readLeading, Number.checkDigits]
  split <;> rfl

theorem exists_numberToFloat (n : Int) :
    (∃ x, numberToFloat n = .ok x) ↔ n.natAbs < Decimal.overflowLimit := by
  rw [← Nat.not_le, ← Decimal.isInf_ofInt, numberToFloat]
  split
  · rename_i hinf
    refine ⟨?_, fun h => absurd hinf h⟩
    rintro ⟨x, hx⟩
    cases hx
  · rename_i hinf
    exact ⟨fun _ => hinf, fun _ => ⟨_, rfl⟩⟩

namespace Value

/-- A value is beyond the limit of a conversion, which ends in a fault. -/
inductive Strains : Value → Fault → Prop
  | read {s : String} : Number.maxDigits < (Number.decimalDigits s).length →
      Strains (.string s) (.tooManyDigits (some (Number.decimalDigits s).length))
  | written {v : Value} {n : Int} : v.toNumber = .ok n → Number.isLong n = true →
      Strains v (.tooManyDigits none)
  | double {v : Value} {n : Int} : v.toNumber = .ok n → (Decimal.ofInt n).isInf = true →
      Strains v .doubleOverflow

/-- The ways in which converting a value can stop short. -/
inductive Refuses (v : Value) : Stop → Prop
  | script (e : ScriptError) : Refuses v (.error e)
  | strained {f : Fault} : v.Strains f → Refuses v (.fault f)

theorem fails_cause {α : Type} (v : Value) (c : Cause) :
    Fails v.Refuses (fail c : Result α) := .error (.script _)

theorem toNumber_fails (v : Value) : Fails v.Refuses v.toNumber := by
  cases v with
  | number n => exact .ok n
  | string s =>
      rw [toNumber_string]
      split
      · rename_i hlong
        exact .error (.strained (.read hlong))
      · exact .ok _
  | float _ | list _ | dict _ | funcref _ | blob _ => exact fails_cause _ _

/-- Only Numbers and Strings are used as Numbers. -/
theorem toNumber_eq_ok {v : Value} {n : Int} (hn : v.toNumber = .ok n) :
    v = .number n ∨ ∃ s, v = .string s ∧ n = Number.leading s := by
  cases v with
  | number k => exact .inl (congrArg Value.number (Except.ok.inj hn))
  | string s =>
      refine .inr ⟨s, rfl, ?_⟩
      rw [toNumber_string] at hn
      split at hn
      · cases hn
      · exact (Except.ok.inj hn).symm
  | float _ | list _ | dict _ | funcref _ | blob _ => cases hn

theorem numberToFloat_fails {v : Value} {n : Int} (hn : v.toNumber = .ok n) :
    Fails v.Refuses (numberToFloat n) := by
  rw [numberToFloat]
  split
  · rename_i hinf
    exact .error (.strained (.double hn hinf))
  · exact .ok _

theorem toFloat_fails (v : Value) : Fails v.Refuses v.toFloat := by
  cases v with
  | float x => exact .ok x
  | number _ | string _ | list _ | dict _ | funcref _ | blob _ =>
      exact (toNumber_fails _).bind fun n hn => numberToFloat_fails hn

theorem write_fails {v : Value} {n : Int} (hn : v.toNumber = .ok n) :
    Fails v.Refuses (orFault (Number.write n) : Result String) := by
  rw [Number.write]
  split
  · rename_i hlong
    exact .error (.strained (.written hn hlong))
  · exact .ok _

theorem toText_fails (v : Value) : Fails v.Refuses v.toText := by
  cases v with
  | number n =>
      rw [toText]
      exact write_fails (by rw [toNumber])
  | string s => exact .ok s
  | float _ | list _ | dict _ | funcref _ | blob _ => exact fails_cause _ _

theorem toBool_fails (v : Value) : Fails v.Refuses v.toBool := by
  cases v with
  | number n => exact .ok _
  | float _ | string _ | list _ | dict _ | funcref _ | blob _ => exact (toFloat_fails _).map

theorem isFalsy_fails (v : Value) : Fails v.Refuses v.isFalsy := by
  cases v with
  | list _ | dict _ | funcref _ | blob _ => exact .ok _
  | number _ | float _ | string _ => exact (toBool_fails _).map

end Value

/-! ## Arithmetic -/

namespace Arith

theorem onFloats_fails (op : Arith) (x y : Float) (v : Value) :
    Fails v.Refuses (op.onFloats x y) := by
  cases op with
  | add | subtract | multiply | divide => exact .ok _
  | modulo | dot | dotDot => exact v.fails_cause _

theorem onValues_fails (op : Arith) (a b : Value) :
    Fails (fun stop => a.Refuses stop ∨ b.Refuses stop) (op.onValues a b) := by
  have hleft : ∀ {α : Type} {r : Result α}, Fails a.Refuses r →
      Fails (fun stop => a.Refuses stop ∨ b.Refuses stop) r := fun h => h.mono fun _ => .inl
  have hright : ∀ {α : Type} {r : Result α}, Fails b.Refuses r →
      Fails (fun stop => a.Refuses stop ∨ b.Refuses stop) r := fun h => h.mono fun _ => .inr
  unfold onValues
  split
  · exact (hleft a.toText_fails).bind fun _ _ => (hright b.toText_fails).map
  · exact (hleft a.toText_fails).bind fun _ _ => (hright b.toText_fails).map
  · exact .ok _
  · exact .ok _
  · refine .ite (.ite (hleft (a.fails_cause _)) ?_) ?_
    · exact (hleft a.toFloat_fails).bind fun _ _ => (hright b.toFloat_fails).bind fun _ _ =>
        Fails.map (hleft (onFloats_fails _ _ _ a))
    · exact (hleft a.toNumber_fails).bind fun _ _ => (hright b.toNumber_fails).map

end Arith

/-! ## The errors of conversions -/

/-- The codes of the errors with which a conversion refuses a kind of value, and of the error with
which `%` refuses a Float. -/
def conversionCodes : List String :=
  ["E703", "E728", "E729", "E730", "E731", "E745", "E804", "E805", "E806", "E974", "E976"]

/-- A conversion or arithmetic stops short: with one of these errors, or with a fault. -/
inductive Unconverted : Stop → Prop
  | refused {c : Cause} {code : String} : c.code = some code → code ∈ conversionCodes →
      Unconverted (.ofCause c)
  | strained (f : Fault) : Unconverted (.fault f)

namespace Unconverted

theorem fails {α : Type} {c : Cause} {code : String} (hc : c.code = some code)
    (hcode : code ∈ conversionCodes) : Fails Unconverted (fail c : Result α) :=
  .error (.refused hc hcode)

theorem orFault_fails {α : Type} (r : Except Fault α) :
    Fails Unconverted (orFault r : Result α) := by
  cases r with
  | ok a => exact .ok a
  | error f => exact .error (.strained f)

theorem toNumber_fails (v : Value) : Fails Unconverted v.toNumber := by
  cases v with
  | number n => exact .ok n
  | string s =>
      rw [Value.toNumber]
      exact orFault_fails _
  | float _ | list _ | dict _ | funcref _ | blob _ => exact fails rfl (by decide)

theorem toFloat_fails (v : Value) : Fails Unconverted v.toFloat := by
  have hnumber : ∀ v : Value, Fails Unconverted (v.toNumber >>= numberToFloat) := by
    intro v
    refine (toNumber_fails v).bind fun n _ => ?_
    rw [numberToFloat]
    exact .ite (.error (.strained _)) (.ok _)
  cases v with
  | float x => exact .ok x
  | number _ | string _ | list _ | dict _ | funcref _ | blob _ => exact hnumber _

theorem toText_fails (v : Value) : Fails Unconverted v.toText := by
  cases v with
  | number n =>
      rw [Value.toText]
      exact orFault_fails _
  | string s => exact .ok s
  | float _ | list _ | dict _ | funcref _ | blob _ => exact fails rfl (by decide)

theorem onFloats_fails (op : Arith) (x y : Float) : Fails Unconverted (op.onFloats x y) := by
  cases op with
  | add | subtract | multiply | divide => exact .ok _
  | modulo | dot | dotDot => exact fails rfl (by decide)

theorem onValues_fails (op : Arith) (a b : Value) : Fails Unconverted (op.onValues a b) := by
  unfold Arith.onValues
  split
  · exact (toText_fails a).bind fun _ _ => (toText_fails b).map
  · exact (toText_fails a).bind fun _ _ => (toText_fails b).map
  · exact .ok _
  · exact .ok _
  · refine .ite (.ite (fails rfl (by decide)) ?_) ?_
    · exact (toFloat_fails a).bind fun _ _ => (toFloat_fails b).bind fun _ _ =>
        Fails.map (onFloats_fails _ _ _)
    · exact (toNumber_fails a).bind fun _ _ => (toNumber_fails b).map

end Unconverted

/-! ## Comparison -/

namespace Heap

/-- The ways in which an operator can stop short: with an error of the script, with a fault because
of some object, or as the matcher does for the texts of two objects. -/
inductive Halts (h : Heap) (m : Matcher) : Stop → Prop
  | script (e : ScriptError) : Halts h m (.error e)
  | strained {r : Ref} {f : Fault} : (h.value r).Strains f → Halts h m (.fault f)
  | matched {a b : Ref} {pattern given text : String} {stop : Stop} :
      (h.value b).toText = .ok given → (h.value a).toText = .ok text →
      pattern = given ∨ pattern = "\\c" ++ given → m pattern text = .error stop → Halts h m stop

variable {h : Heap} {m : Matcher}

theorem halts_of_refuses {r : Ref} {stop : Stop} (hr : (h.value r).Refuses stop) :
    h.Halts m stop := by
  cases hr with
  | script e => exact .script e
  | strained hf => exact .strained hf

/-- What a conversion of an object can do, an operator can do. -/
theorem fails_of_refuses {α : Type} {r : Ref} {x : Result α} (hx : Fails (h.value r).Refuses x) :
    Fails (h.Halts m) x := hx.mono fun _ => halts_of_refuses

theorem fails_script {α : Type} (c : Cause) : Fails (h.Halts m) (fail c : Result α) :=
  .error (.script _)

theorem allEqual_fails {eq : Ref → Ref → Result Bool} (heq : ∀ a b, Fails (h.Halts m) (eq a b)) :
    ∀ as bs : List Ref, Fails (h.Halts m) (allEqual eq as bs)
  | a :: as, b :: bs => by
      rw [allEqual]
      exact (heq a b).bind fun _ _ => .ite (allEqual_fails heq as bs) (.ok false)
  | [], _ | _ :: _, [] => by
      rw [allEqual]
      · exact .ok true
      · nofun

theorem entriesEqual_fails {eq : Ref → Ref → Result Bool}
    (heq : ∀ a b, Fails (h.Halts m) (eq a b)) (other : Table) :
    ∀ entries : List (String × Ref), Fails (h.Halts m) (entriesEqual eq other entries)
  | [] => .ok true
  | (k, v) :: rest => by
      rw [entriesEqual]
      split
      · exact .ok false
      · exact (heq v _).bind fun _ _ => .ite (entriesEqual_fails heq other rest) (.ok false)

theorem equalWithin_fails (ignoreCase : Bool) :
    ∀ (fuel : Nat) (a b : Ref), Fails (h.Halts m) (h.equalWithin ignoreCase fuel a b)
  | 0, _, _ => .ok false
  | fuel + 1, a, b => by
      have heq := equalWithin_fails ignoreCase fuel
      rw [equalWithin]
      split
      · rename_i n _ hn _
        exact Fails.map (fails_of_refuses (r := a) (Value.numberToFloat_fails (by rw [hn]; rfl)))
      · rename_i _ n _ hn
        exact Fails.map (fails_of_refuses (r := b) (Value.numberToFloat_fails (by rw [hn]; rfl)))
      · exact .ok _
      · exact .ok _
      · exact .ok _
      · exact .ite (.ok true) (.ite (allEqual_fails heq _ _) (.ok false))
      · exact .ite (.ok true) (.ite (entriesEqual_fails heq _ _) (.ok false))
      · exact .ite ((heq _ _).bind fun _ _ => .ite (.ok _) (.ok false)) (.ok false)
      · exact .ok _
      · exact .ok false

theorem equal_fails (ignoreCase : Bool) (a b : Ref) :
    Fails (h.Halts m) (h.equal ignoreCase a b) := equalWithin_fails ignoreCase _ a b

theorem identical_fails (ignoreCase : Bool) (a b : Ref) :
    Fails (h.Halts m) (h.identical ignoreCase a b) :=
  .ite (.ok _) (.ite (equal_fails ignoreCase a b) (.ok false))

theorem byEquality_fails (relation : Relation) (refusal : Cause) {eq : Result Bool}
    (heq : Fails (h.Halts m) eq) : Fails (h.Halts m) (byEquality relation refusal eq) := by
  unfold byEquality
  split
  · exact heq
  · exact heq.map
  · exact fails_script refusal

theorem related_fails (relation : Relation) (ignoreCase : Bool) (a b : Ref) :
    Fails (h.Halts m) (h.related relation ignoreCase a b) := by
  have hequal := fun ic => equal_fails (h := h) (m := m) ic a b
  unfold related
  split
  · exact byEquality_fails _ _ (hequal _)
  · exact fails_script _
  · exact fails_script _
  · exact byEquality_fails _ _ (hequal _)
  · exact fails_script _
  · exact fails_script _
  · exact byEquality_fails _ _ (hequal _)
  · exact byEquality_fails _ _ (.ok false)
  · exact byEquality_fails _ _ (.ok false)
  · exact .ok _
  · refine .ite ?_ ?_
    · exact (fails_of_refuses (h.value a).toFloat_fails).bind fun _ _ =>
        (fails_of_refuses (h.value b).toFloat_fails).map
    · exact (fails_of_refuses (h.value a).toNumber_fails).bind fun _ _ =>
        (fails_of_refuses (h.value b).toNumber_fails).map

theorem matching_fails (ignoreCase : Bool) (a b : Ref) :
    Fails (h.Halts m) (h.matching (some m) ignoreCase a b) := by
  unfold matching
  refine (fails_of_refuses (h.value b).toText_fails).bind fun given hgiven => ?_
  refine (fails_of_refuses (h.value a).toText_fails).bind fun text htext => ?_
  intro stop hstop
  refine .matched hgiven htext ?_ hstop
  split
  · exact .inr rfl
  · exact .inl rfl

theorem compares_fails (relation : Relation) (rule : CaseRule) (a b : Ref) :
    Fails (h.Halts m) (h.compares (some m) relation rule a b) := by
  unfold compares
  split
  · exact identical_fails _ a b
  · exact (identical_fails _ a b).map
  · exact matching_fails _ a b
  · exact (matching_fails _ a b).map
  · exact related_fails _ _ a b

end Heap

end Vimscript
