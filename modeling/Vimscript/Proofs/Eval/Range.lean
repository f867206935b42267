import Vimscript.Proofs.Eval.CallFree

/-!
# Numbers in the range of 64 bits

Arithmetic wraps its results, so that Numbers of 64 bits give Numbers of 64
bits. That holds of expressions without calls on the whole, with one gap: a
String can stand for a Number that is out of range, and a plus sign in front
of it, or the remainder of two such Strings, gives a Number without wrapping
it. Where neither occurs, or where no String starts with a Number out of
range, all Numbers stay in range (`numbers_stay_inRange`); the gap is real
(`plusText_out_of_range`).

The proof follows the steps of the evaluation. Each step makes at most one
Number, and `Made` tells where it is from. A String that a step reads is
still there at the end, which is why the condition on Strings is one on the
state that is reached.
-/

namespace Vimscript

/-- A Number of 64 bits. -/
def Number.InRange (n : Int) : Prop := Number.minValue ≤ n ∧ n ≤ Number.maxValue

instance (n : Int) : Decidable (Number.InRange n) := inferInstanceAs (Decidable (_ ∧ _))

/-- A remainder is on the side of the dividend and no larger, and it is smaller than the divisor; so
one of the two being in range is enough. -/
theorem Number.InRange.remainder {m n : Int} (h : InRange m ∨ InRange n) :
    InRange (remainder m n) := by
  unfold Number.remainder
  split
  · decide
  rename_i hn
  have habs : (m.tmod n).natAbs = m.natAbs % n.natAbs := Int.natAbs_tmod m n
  have hlt : m.natAbs % n.natAbs < n.natAbs := Nat.mod_lt _ (Int.natAbs_pos.mpr hn)
  have hle : m.natAbs % n.natAbs ≤ m.natAbs := Nat.mod_le _ _
  have hside : m < 0 → m.tmod n ≤ 0 := by
    intro hm
    have hneg : 0 ≤ (-m).tmod n := Int.tmod_nonneg n (by omega)
    rw [Int.neg_tmod] at hneg
    omega
  unfold InRange Number.minValue Number.maxValue at *
  omega

/-! ## Conditions -/

/-- Whether an expression may give a Number without wrapping it. -/
def Expr.isUnwrapped : Expr → Bool
  | .unary _ .plus _ | .binary _ (.arith .modulo) _ _ => true
  | _ => false

/-- An integer literal is in range. -/
def Expr.LiteralInRange (e : Expr) : Prop := ∀ mark n, e = .int mark n → Number.InRange n

/-- All Numbers in a heap are in range. -/
def Heap.NumbersInRange (h : Heap) : Prop := ∀ r n, h.value r = .number n → Number.InRange n

/-- The Numbers that Strings in a heap stand for are in range. -/
def Heap.TextsInRange (h : Heap) : Prop :=
  ∀ r text, h.value r = .string text → Number.InRange (Number.leading text)

/-- The integers in the options of a host are in range. -/
def Host.OptionsInRange (host : Host) : Prop :=
  ∀ name d n, host.option? name = .ok (some d) → (Data.int n).Occurs d → Number.InRange n

/-- All Numbers in a state are in range. -/
structure State.InRange (s : State) : Prop where
  numbers : s.heap.NumbersInRange
  options : s.host.OptionsInRange

/-! ## Steps -/

theorem Heap.NumbersInRange.alloc {h : Heap} (hh : h.NumbersInRange) {v : Value}
    (hv : ∀ n, v = .number n → Number.InRange n) : (h.alloc v).2.NumbersInRange := by
  intro r n hr
  rw [value, cell_alloc] at hr
  split at hr
  · exact hv n hr
  · exact hh r n hr

/-- An operand is in range if it is a Number, and also if Strings stand for Numbers in range. -/
theorem Heap.NumbersInRange.toNumber {h : Heap} (hh : h.NumbersInRange) (htexts : h.TextsInRange)
    {r : Ref} {n : Int} (hn : (h.value r).toNumber = .ok n) : Number.InRange n := by
  rcases Value.toNumber_eq_ok hn with hr | ⟨text, hr, rfl⟩
  · exact hh r n hr
  · exact htexts r text hr

/-- A String is an object of the heap and stays one. -/
theorem Heap.TextsInRange.of_kept {h h' : Heap} (hk : h.Kept h') (hh : h'.TextsInRange) :
    h.TextsInRange := by
  intro r text hr
  refine hh r text ?_
  rw [hk.value ?_]
  · exact hr
  · refine Nat.lt_of_not_le fun hout => ?_
    rw [value_of_size_le hout] at hr
    cases hr

variable {E : Expr → Prop} {host : Host} {h : Heap}

/-- Where a new Number is from decides whether it is in range. -/
theorem Made.inRange {n : Int} (hmade : Made E host h (.number n))
    (hliterals : ∀ e, E e → e.LiteralInRange) (hh : h.NumbersInRange)
    (hoptions : host.OptionsInRange)
    (hplain : (∀ e, E e → e.isUnwrapped = false) ∨ h.TextsInRange) : Number.InRange n := by
  cases hmade with
  | other hne => exact absurd rfl (hne n)
  | ranged hlow hhigh => exact ⟨hlow, hhigh⟩
  | literal he => exact hliterals _ he _ n rfl
  | setting _ hoption hn => exact hoptions _ _ n hoption hn
  | remainder he hm hn =>
      rcases hplain with hplain | htexts
      · exact absurd (hplain _ he) nofun
      · exact .remainder (.inl (hh.toNumber htexts hm))
  | leading he ha =>
      rcases hplain with hplain | htexts
      · exact absurd (hplain _ he) nofun
      · exact htexts _ _ ha

/-- One step keeps Numbers in range. -/
theorem Step.inRange {s t : State} (hstep : Step E s t) (hliterals : ∀ e, E e → e.LiteralInRange)
    (hplain : (∀ e, E e → e.isUnwrapped = false) ∨ s.heap.TextsInRange) (hs : s.InRange) :
    t.InRange := by
  cases hstep with
  | make hmade =>
      refine ⟨hs.numbers.alloc fun n hn => ?_, hs.options⟩
      subst hn
      exact hmade.inRange hliterals hs.numbers hs.options hplain
  | lambda params body c => exact ⟨hs.numbers, hs.options⟩

/-- So do all steps up to a state, as long as the Strings that are there in the end allow it. -/
theorem Steps.inRange {s t u : State} (hsteps : Steps E s t) (hrest : Steps E t u)
    (hliterals : ∀ e, E e → e.LiteralInRange)
    (hplain : (∀ e, E e → e.isUnwrapped = false) ∨ u.heap.TextsInRange) (hs : s.InRange) :
    t.InRange := by
  induction hsteps with
  | refl => exact hs
  | tail _ hstep ih =>
      have hlater : Steps E _ u := .head hstep hrest
      refine hstep.inRange hliterals ?_ (ih hlater)
      exact hplain.imp id (.of_kept hlater.undisturbed.heap)

/-- Evaluating an expression without calls keeps all Numbers in range, if its literals are in range
and either it has no plus sign and no `%`, or no String that is there in the end starts with a
Number out of range. -/
theorem numbers_stay_inRange (M : Machine) {e : Expr} (hfree : e.CallFree)
    (hliterals : e.Throughout Expr.LiteralInRange) (c : Context) (setup : Setup) {s t : State}
    {result : Except Stop Ref} (hs : s.InRange) (hrun : evalTop M e c setup s = (result, t))
    (hplain : e.Throughout (fun x => x.isUnwrapped = false) ∨ t.heap.TextsInRange) : t.InRange := by
  have hsteps : Steps e.Evaluates { s with site := some e.site } t := by
    have htame := evalExpr_tame hfree.evaluated M e c .refl setup { s with site := some e.site }
    rw [evalTop_eq] at hrun
    have hsteps := htame.steps
    rwa [hrun] at hsteps
  refine hsteps.inRange .refl (fun x hx => hliterals.holds hx) ?_ ⟨hs.numbers, hs.options⟩
  exact hplain.imp (fun hplain x hx => hplain.holds hx) id

/-- A state in which nothing is stored is in range. -/
theorem State.inRange_empty : ({} : State).InRange where
  numbers r n hr := by
    rw [Heap.value_of_size_le (Nat.zero_le _)] at hr
    cases hr
    decide
  options name d n hd := by
    cases name <;> cases hd

/-- A text out of range less one. -/
def textLessOne : Expr :=
  .binary none (.arith .subtract) (.text none "99999999999999999999") (.int none 1)

theorem textLessOne_inRange :
    textLessOne.CallFree ∧ ¬ Number.InRange (Number.leading "99999999999999999999") ∧
      ∃ r t, evalTop Machine.halted textLessOne { script := default } (Session.start {}).setup {} =
          (.ok r, t) ∧ t.InRange := by
  have hleaves {P : Expr → Prop} (h : P textLessOne) (htext : P (.text none "99999999999999999999"))
      (hone : P (.int none 1)) : textLessOne.Throughout P :=
    .pair h rfl (.leaf htext rfl) (.leaf hone rfl)
  have hfree : textLessOne.CallFree := hleaves rfl rfl rfl
  have hliterals : textLessOne.Throughout Expr.LiteralInRange := by
    refine hleaves nofun nofun ?_
    rintro _ _ ⟨⟩
    decide
  have hrun : ∃ r t, evalTop Machine.halted textLessOne { script := default }
      (Session.start {}).setup {} = (.ok r, t) := ⟨_, _, rfl⟩
  obtain ⟨r, t, hrun⟩ := hrun
  refine ⟨hfree, by decide, r, t, hrun, ?_⟩
  exact numbers_stay_inRange _ hfree hliterals _ _ State.inRange_empty hrun
    (.inl (hleaves rfl rfl rfl))

/-- The same text after a plus sign. -/
def plusText : Expr := .unary none .plus (.text none "99999999999999999999")

theorem plusText_out_of_range :
    plusText.CallFree ∧ plusText.Throughout Expr.LiteralInRange ∧ ({} : State).InRange ∧
      ∃ r t, evalTop Machine.halted plusText { script := default } (Session.start {}).setup {} =
          (.ok r, t) ∧
        t.heap.value r = .number 99999999999999999999 ∧ ¬ Number.InRange 99999999999999999999 := by
  have hfree : plusText.CallFree := .single rfl rfl (.leaf rfl rfl)
  have hliterals : plusText.Throughout Expr.LiteralInRange := .single nofun rfl (.leaf nofun rfl)
  exact ⟨hfree, hliterals, State.inRange_empty, _, _, rfl, rfl, by decide⟩

end Vimscript
