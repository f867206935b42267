import Vimscript.Run.Basic

/-!
# What computations give

A computation that ends with a result hands it to what follows, and one
that stops short leaves the rest out: `bind_of_ok` and `bind_of_error`
are the two equations, and a proof that follows one particular run uses
nothing else about sequencing.

A proof about all runs states what every result satisfies. `Yields Q x`
says that of the computation `x`; it promises nothing about runs that stop
short, nor about the state.
-/

namespace Vimscript

theorem Op.bind_of_ok {α β : Type} {op : Op α} {f : α → Op β} {h h' : Heap} {a : α}
    (hop : op h = (.ok a, h')) : (op >>= f) h = f a h' := by
  change ExceptT.bindCont f (op h).1 (op h).2 = _
  rw [hop]; rfl

theorem Op.bind_of_error {α β : Type} {op : Op α} {f : α → Op β} {h h' : Heap} {stop : Stop}
    (hop : op h = (.error stop, h')) : (op >>= f) h = (.error stop, h') := by
  change ExceptT.bindCont f (op h).1 (op h).2 = _
  rw [hop]; rfl

namespace Run

variable {α β : Type}

/-! ## Following a run -/

theorem bind_of_ok {x : Run α} {f : α → Run β} {setup : Setup} {s t : State} {a : α}
    (hx : x setup s = (.ok a, t)) : (x >>= f) setup s = f a setup t := by
  change ExceptT.bindCont (fun a => f a setup) (x setup s).1 (x setup s).2 = _
  rw [hx]; rfl

theorem bind_of_error {x : Run α} {f : α → Run β} {setup : Setup} {s t : State} {stop : Stop}
    (hx : x setup s = (.error stop, t)) : (x >>= f) setup s = (.error stop, t) := by
  change ExceptT.bindCont (fun a => f a setup) (x setup s).1 (x setup s).2 = _
  rw [hx]; rfl

/-- Only a first part that gave a result lets the whole give one. -/
theorem bind_eq_ok {x : Run α} {f : α → Run β} {setup : Setup} {s u : State} {b : β}
    (h : (x >>= f) setup s = (.ok b, u)) :
    ∃ a t, x setup s = (.ok a, t) ∧ f a setup t = (.ok b, u) := by
  rcases hx : x setup s with ⟨_ | a, t⟩
  · rw [bind_of_error hx] at h
    cases h
  · rw [bind_of_ok hx] at h
    exact ⟨a, t, rfl, h⟩

/-- A sequence stops where its first part stops, or else where its second part does. -/
theorem bind_eq_error_iff {x : Run α} {f : α → Run β} {setup : Setup} {s u : State}
    {stop : Stop} : (x >>= f) setup s = (.error stop, u) ↔
      x setup s = (.error stop, u) ∨
        ∃ a t, x setup s = (.ok a, t) ∧ f a setup t = (.error stop, u) := by
  rcases hx : x setup s with ⟨stop' | a, t⟩
  · rw [bind_of_error hx]
    constructor
    · rintro ⟨⟩
      exact .inl rfl
    · rintro (h | ⟨b, v, h, -⟩)
      · cases h
        rfl
      · cases h
  · rw [bind_of_ok hx]
    constructor
    · exact fun h => .inr ⟨a, t, rfl, h⟩
    · rintro (h | ⟨b, v, h, hf⟩)
      · cases h
      · cases h
        exact hf

theorem op_of_ok {op : Op α} {setup : Setup} {s : State} {a : α} {h : Heap}
    (hop : op s.heap = (.ok a, h)) :
    (liftM op : Run α) setup s = (.ok a, { s with heap := h }) := by
  change onHeap op setup s = _
  simp only [onHeap, hop]

theorem op_of_error {op : Op α} {setup : Setup} {s : State} {stop : Stop} {h : Heap}
    (hop : op s.heap = (.error stop, h)) :
    (liftM op : Run α) setup s = (.error stop, { s with heap := h }) := by
  change onHeap op setup s = _
  simp only [onHeap, hop]

/-- Operations on the heap can be put together before they are performed. -/
theorem op_bind (op : Op α) (f : α → Op β) :
    (liftM (op >>= f) : Run β) = liftM op >>= fun a => liftM (f a) := by
  funext setup s
  rcases hop : op s.heap with ⟨stop | a, h⟩
  · rw [bind_of_error (op_of_error hop), op_of_error (Op.bind_of_error hop)]
  · rw [bind_of_ok (op_of_ok hop)]
    change onHeap (op >>= f) setup s = onHeap (f a) setup { s with heap := h }
    simp only [onHeap, Op.bind_of_ok hop]

theorem attempt_eq {x : Run α} {setup : Setup} {s t : State} {r : Except Stop α}
    (hx : x setup s = (r, t)) : attempt x setup s = (.ok r, t) := by
  simp only [attempt, hx]

/-- The place a state is at: the innermost call or else the script, and the line if known. -/
def placeOf (c : Context) (s : State) : String :=
  let place := s.calls.head?.getD c.script.name
  match s.site.bind (·.line?) with
  | some line => place ++ ", line " ++ line.asText
  | none => place

theorem throwpoint_eq (c : Context) (setup : Setup) (s : State) :
    throwpoint c setup s = (.ok (placeOf c s), s) := by
  unfold throwpoint placeOf
  rw [bind_of_ok (t := s) rfl]
  cases s.site.bind (·.line?) <;> rfl

/-- The state with a line written to the trace, where there is one. -/
def traced (setup : Setup) (parts : List String) (s : State) : State :=
  if setup.isTracing then
    { s with trace := s.trace.push (" ".intercalate ("[DBG]" :: parts)) }
  else s

theorem trace_eq (parts : List String) (setup : Setup) (s : State) :
    trace parts setup s = (.ok (), traced setup parts s) := by
  unfold trace traced
  rw [bind_of_ok (a := setup) (t := s) rfl]
  split <;> rfl

/-! ## What every result satisfies -/

/-- An ending that is a result satisfies a predicate. -/
def Gives (Q : α → Prop) (r : Except Stop α) : Prop := ∀ a, r = .ok a → Q a

theorem gives_error (Q : α → Prop) (stop : Stop) : Gives Q (.error stop) := by
  rintro a ⟨⟩

theorem gives_ok {Q : α → Prop} {a : α} (ha : Q a) : Gives Q (.ok a) := by
  rintro _ ⟨⟩
  exact ha

theorem Gives.following {Q : β → Prop} {r : Except Stop α} {f : α → Except Stop β}
    (hf : ∀ a, r = .ok a → Gives Q (f a)) : Gives Q (r >>= f) := by
  cases r with
  | error stop => exact gives_error Q stop
  | ok a => exact hf a rfl

/-- Whatever the first part gives, the second decides. -/
theorem Gives.after {Q : β → Prop} {r : Except Stop α} {f : α → Except Stop β}
    (hf : ∀ a, Gives Q (f a)) : Gives Q (r >>= f) := .following fun a _ => hf a

theorem Gives.ite {Q : α → Prop} {p : Prop} [Decidable p] {x y : Except Stop α} (hx : Gives Q x)
    (hy : Gives Q y) : Gives Q (if p then x else y) := by
  split
  · exact hx
  · exact hy

/-- Whenever a computation gives a result, the result satisfies a predicate. -/
def Yields (Q : α → Prop) (x : Run α) : Prop :=
  ∀ setup s a t, x setup s = (.ok a, t) → Q a

variable {P : α → Prop} {Q : β → Prop}

theorem Yields.pure {a : α} (ha : P a) : Yields P (pure a : Run α) := by
  intro setup s b t h
  cases h
  exact ha

theorem Yields.throw (stop : Stop) : Yields P (throw stop : Run α) := by
  intro setup s b t h
  cases h

theorem Yields.fail (c : Cause) : Yields P (fail c : Run α) := .throw _

theorem Yields.faulty (f : Fault) : Yields P (faulty f : Run α) := .throw _

theorem Yields.bind {x : Run α} {f : α → Run β} (hx : Yields P x)
    (hf : ∀ a, P a → Yields Q (f a)) : Yields Q (x >>= f) := by
  intro setup s b u h
  obtain ⟨a, t, ha, hb⟩ := bind_eq_ok h
  exact hf a (hx setup s a t ha) setup t b u hb

/-- Whatever the first part gives, the second decides. -/
theorem Yields.after {x : Run α} {f : α → Run β} (hf : ∀ a, Yields Q (f a)) :
    Yields Q (x >>= f) :=
  .bind (P := fun _ => True) (fun _ _ _ _ _ => trivial) fun a _ => hf a

theorem Yields.ite {p : Prop} [Decidable p] {x y : Run α} (hx : Yields P x) (hy : Yields P y) :
    Yields P (if p then x else y) := by
  split
  · exact hx
  · exact hy

theorem Yields.ending {r : Except Stop α} (hr : Gives P r) : Yields P (ending r) := by
  intro setup s a t h
  cases h
  exact hr a rfl

/-- How a computation ended, where it ended with a result. -/
theorem Yields.attempt {x : Run α} (hx : Yields P x) : Yields (Gives P) (attempt x) := by
  rintro setup s r t h a rfl
  rcases hout : x setup s with ⟨r, u⟩
  rw [attempt_eq hout] at h
  cases h
  exact hx setup s a t hout

end Run

end Vimscript
