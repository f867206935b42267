import Vimscript.Proofs.Run.Result

/-!
# Steps taken in turn

A loop over a list that stops at the first step that gives no result, as
`List.mapM` does. Either every step has given a result, each from where the
one before left off (`Run.Passed`), or some step that has been reached in
this way (`Run.Reached`) has stopped the loop.
-/

namespace Vimscript.Run

variable {α β : Type} {f : α → Run β} {setup : Setup} {s t u : State} {xs : List α} {bs : List β}

/-- A step has been taken for each item, one after the other, and has given a result. -/
inductive Passed (f : α → Run β) (setup : Setup) : List α → State → List β → State → Prop
  | nil {s : State} : Passed f setup [] s [] s
  | cons {x : α} {xs : List α} {b : β} {bs : List β} {s t u : State} :
      f x setup s = (.ok b, t) → Passed f setup xs t bs u →
      Passed f setup (x :: xs) s (b :: bs) u

/-- The step for an item is about to be taken, after those for the items before it. -/
def Reached (f : α → Run β) (setup : Setup) (xs : List α) (s : State) (x : α) (u : State) : Prop :=
  ∃ done rest bs, xs = done ++ x :: rest ∧ Passed f setup done s bs u

theorem not_reached_nil {x : α} : ¬Reached f setup [] s x u := by
  rintro ⟨done, rest, bs, hdone, -⟩
  cases done <;> cases hdone

theorem reached_cons_iff {x y : α} : Reached f setup (x :: xs) s y u ↔
    y = x ∧ u = s ∨ ∃ b t, f x setup s = (.ok b, t) ∧ Reached f setup xs t y u := by
  constructor
  · rintro ⟨_ | ⟨z, done⟩, rest, bs, heq, hdone⟩
    · cases heq
      cases hdone
      exact .inl ⟨rfl, rfl⟩
    · cases heq
      obtain _ | ⟨hx, hdone⟩ := hdone
      exact .inr ⟨_, _, hx, done, rest, _, rfl, hdone⟩
  · rintro (⟨rfl, rfl⟩ | ⟨b, t, hx, done, rest, bs, rfl, hdone⟩)
    · exact ⟨[], xs, [], rfl, .nil⟩
    · exact ⟨x :: done, rest, b :: bs, rfl, .cons hx hdone⟩

theorem Reached.mem {x : α} (hreached : Reached f setup xs s x u) : x ∈ xs := by
  obtain ⟨done, rest, bs, rfl, -⟩ := hreached
  exact List.mem_append_right done List.mem_cons_self

theorem Passed.length_eq (hpassed : Passed f setup xs s bs t) : bs.length = xs.length := by
  induction hpassed with
  | nil => rfl
  | cons _ _ ih => rw [List.length_cons, List.length_cons, ih]

/-- Steps can be followed by more steps. -/
theorem Passed.append {ys : List α} {cs : List β} (hpassed : Passed f setup xs s bs t)
    (hmore : Passed f setup ys t cs u) : Passed f setup (xs ++ ys) s (bs ++ cs) u := by
  induction hpassed with
  | nil => exact hmore
  | cons hx _ ih => exact .cons hx (ih hmore)

theorem mapM_eq_ok_iff : xs.mapM f setup s = (.ok bs, t) ↔ Passed f setup xs s bs t := by
  induction xs generalizing s bs with
  | nil =>
    rw [List.mapM_nil]
    constructor
    · rintro ⟨⟩
      exact .nil
    · rintro ⟨⟩
      rfl
  | cons x xs ih =>
    rw [List.mapM_cons]
    constructor
    · intro h
      obtain ⟨b, u, hx, hrest⟩ := bind_eq_ok h
      obtain ⟨bs, v, hxs, hpure⟩ := bind_eq_ok hrest
      cases hpure
      exact .cons hx (ih.mp hxs)
    · rintro (_ | ⟨hx, hxs⟩)
      rw [bind_of_ok hx, bind_of_ok (ih.mpr hxs)]
      rfl

theorem mapM_eq_error_iff {stop : Stop} : xs.mapM f setup s = (.error stop, t) ↔
    ∃ x u, Reached f setup xs s x u ∧ f x setup u = (.error stop, t) := by
  induction xs generalizing s with
  | nil =>
    rw [List.mapM_nil]
    constructor
    · rintro ⟨⟩
    · rintro ⟨x, u, hreached, -⟩
      exact absurd hreached not_reached_nil
  | cons x xs ih =>
    -- collecting the results cannot stop, so it is either the first step or the rest that does
    have hrest (b : β) (v : State) :
        (xs.mapM f >>= fun bs => pure (b :: bs)) setup v = (.error stop, t) ↔
          ∃ y u, Reached f setup xs v y u ∧ f y setup u = (.error stop, t) := by
      rw [← ih, bind_eq_error_iff]
      constructor
      · rintro (h | ⟨bs, w, -, ⟨⟩⟩)
        exact h
      · exact .inl
    rw [List.mapM_cons, bind_eq_error_iff]
    simp only [hrest, reached_cons_iff]
    constructor
    · rintro (hx | ⟨b, v, hx, y, u, hreached, hy⟩)
      · exact ⟨x, s, .inl ⟨rfl, rfl⟩, hx⟩
      · exact ⟨y, u, .inr ⟨b, v, hx, hreached⟩, hy⟩
    · rintro ⟨y, u, ⟨rfl, rfl⟩ | ⟨b, v, hx, hreached⟩, hy⟩
      · exact .inl hy
      · exact .inr ⟨b, v, hx, y, u, hreached, hy⟩

/-- How a loop ends that is followed by a step which cannot stop. -/
theorem mapM_bind_eq_iff {γ : Type} {g : List β → Run γ} {a : γ} {w : List β → State → State}
    {result : Except Stop γ} (hg : ∀ bs u, g bs setup u = (.ok a, w bs u)) :
    (xs.mapM f >>= g) setup s = (result, t) ↔
      (∃ bs u, Passed f setup xs s bs u ∧ result = .ok a ∧ t = w bs u) ∨
        ∃ x u stop, Reached f setup xs s x u ∧ f x setup u = (.error stop, t) ∧
          result = .error stop := by
  rcases hxs : xs.mapM f setup s with ⟨stop | bs, u⟩
  · rw [bind_of_error hxs]
    constructor
    · rintro ⟨⟩
      obtain ⟨x, v, hreached, hx⟩ := mapM_eq_error_iff.mp hxs
      exact .inr ⟨x, v, stop, hreached, hx, rfl⟩
    · rintro (⟨bs, v, hpassed, -⟩ | ⟨x, v, stop', hreached, hx, rfl⟩)
      · cases hxs.symm.trans (mapM_eq_ok_iff.mpr hpassed)
      · cases hxs.symm.trans (mapM_eq_error_iff.mpr ⟨x, v, hreached, hx⟩)
        rfl
  · rw [bind_of_ok hxs, hg]
    constructor
    · rintro ⟨⟩
      exact .inl ⟨bs, u, mapM_eq_ok_iff.mp hxs, rfl, rfl⟩
    · rintro (⟨bs', v, hpassed, rfl, rfl⟩ | ⟨x, v, stop, hreached, hx, -⟩)
      · cases hxs.symm.trans (mapM_eq_ok_iff.mpr hpassed)
        rfl
      · cases hxs.symm.trans (mapM_eq_error_iff.mpr ⟨x, v, hreached, hx⟩)

/-! ## What holds along the way -/

/-- What every step keeps that is reached holds in the end. -/
theorem Passed.keep {P : State → Prop} (hpassed : Passed f setup xs s bs t)
    (hstep : ∀ x u, Reached f setup xs s x u → P u → ∀ b v, f x setup u = (.ok b, v) → P v)
    (hs : P s) : P t := by
  induction hpassed with
  | nil => exact hs
  | cons hx _ ih =>
    have hfirst := hstep _ _ (reached_cons_iff.mpr (.inl ⟨rfl, rfl⟩)) hs _ _ hx
    refine ih (fun y u hreached => hstep y u ?_) hfirst
    exact reached_cons_iff.mpr (.inr ⟨_, _, hx, hreached⟩)

/-- It also holds wherever a step is reached. -/
theorem Reached.keep {P : State → Prop} {x : α} (hreached : Reached f setup xs s x t)
    (hstep : ∀ x u, Reached f setup xs s x u → P u → ∀ b v, f x setup u = (.ok b, v) → P v)
    (hs : P s) : P t := by
  obtain ⟨done, rest, bs, rfl, hdone⟩ := hreached
  refine hdone.keep (fun y u hreached => hstep y u ?_) hs
  obtain ⟨done', rest', bs', rfl, hdone'⟩ := hreached
  exact ⟨done', rest' ++ x :: rest, bs', by simp, hdone'⟩

end Vimscript.Run
