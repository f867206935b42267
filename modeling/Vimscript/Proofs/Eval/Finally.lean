import Vimscript.Proofs.Eval.Try
import Vimscript.Session

/-!
# When the clean-up block of `:try` runs

The clean-up block is meant to run whatever happened before it. Taken as
a statement about two programs: a `:try` with a clean-up block does what
the same `:try` does without one and then, unless a fault ended that, what
the block does (`thenFinally`).

There is one way past the block. Handlers are selected after the body has
failed and before the clean-up, and asking a clause can fail by itself: a
matcher that finds a pattern malformed fails with an error of its own,
which leaves the statement at once. That is the only exception, and there
the block never runs, so that the two programs agree for every clean-up
block exactly when no selection fails in this way.
-/

namespace Vimscript

open Run

/-- Runs a computation and then, unless a fault or lack of steps ended it, a clean-up that decides
how the whole ends when it does not end in success itself. -/
def thenFinally (x final : Run Signal) : Run Signal := do
  match ← attempt x with
  | .error (.fault f) => throw (.fault f)
  | .error .exhausted => throw .exhausted
  | result =>
    match ← final with
    | .success => ending result
    | signal => return signal

/-- The body fails and, of the clauses, the first that does not refuse its error cannot be asked:
its pattern is one the matcher fails on. -/
def SelectionFails (M : Machine) (c : Context) (body : List Stmt) (clauses : List Clause)
    (setup : Setup) (s : State) : Prop :=
  ∃ e t before k after stop, Ends setup (execAll M c body) s (.raised e) t ∧
    clauses = before ++ k :: after ∧
    (∀ j ∈ before, j.verdict setup.matcher e.message = .ok false) ∧
    k.verdict setup.matcher e.message = .error stop ∧ stop.isOrderly = true

section

variable {setup : Setup} {s t : State} {x final : Run Signal} {result : Except Stop Signal}

theorem thenFinally_of_stopped {stop : Stop} (hx : x setup s = (.error stop, t))
    (hstop : stop.isOrderly = false) : thenFinally x final setup s = (.error stop, t) := by
  rw [thenFinally, bind_of_ok (attempt_eq hx)]
  cases stop with
  | error e | finish place => cases hstop
  | fault f | exhausted => rfl

theorem thenFinally_of_ended {o : Outcome} (hx : x setup s = (result, t))
    (ho : Outcome.of? result = some o) :
    thenFinally x final setup s = afterwards (some final) result setup t := by
  rw [thenFinally, bind_of_ok (attempt_eq hx)]
  split
  · cases ho
  · cases ho
  · rfl

end

section

variable {M : Machine} {c : Context} {body : List Stmt} {clauses : List Clause} {setup : Setup}
  {s u : State}

/-- A selection that fails ends body and handlers with its own error. -/
theorem tryBody_of_selectionFails (h : SelectionFails M c body clauses setup s) :
    ∃ stop u, tryBody (execAll M c body) (execClauses M c clauses) c setup s = (.error stop, u) ∧
      stop.isOrderly = true := by
  obtain ⟨e, t, before, k, after, stop, ⟨ending, hbody, hb⟩, rfl, hskip, hk, hstop⟩ := h
  refine ⟨stop, t, ?_, hstop⟩
  rw [tryBody_of_raised hbody hb, handleBy, bind_of_error (findHandler_of_error hskip hk)]

/-- Nothing else keeps an error or `:finish` from the clean-up, and what is left for the clean-up
has an outcome. -/
theorem tryBody_of_not_selectionFails (h : ¬SelectionFails M c body clauses setup s) :
    (∃ result o u,
      tryBody (execAll M c body) (execClauses M c clauses) c setup s = (.ok result, u) ∧
      Outcome.of? result = some o) ∨
    (∃ stop u,
      tryBody (execAll M c body) (execClauses M c clauses) c setup s = (.error stop, u) ∧
      stop.isOrderly = false) := by
  rcases hbody : execAll M c body setup s with ⟨ending, t⟩
  rcases htry : tryBody (execAll M c body) (execClauses M c clauses) c setup s with ⟨result, u⟩
  cases tryBody_run hbody htry with
  | stopped _ hstop => exact .inr ⟨_, _, rfl, hstop⟩
  | passed hb _ => exact .inl ⟨_, _, _, rfl, hb⟩
  | uncaught _ _ => exact .inl ⟨_, _, _, rfl, rfl⟩
  | @unasked e before after k stop hb hsplit hskip hk =>
      refine .inr ⟨stop, _, rfl, Bool.eq_false_iff.2 fun hstop => h ?_⟩
      exact ⟨e, _, before, k, after, stop, ⟨ending, hbody, hb⟩, hsplit, hskip, hk, hstop⟩
  | caught _ _ _ _ _ ho => exact .inl ⟨_, _, _, rfl, ho⟩
  | broken hstop => exact .inr ⟨_, _, rfl, hstop⟩

variable {mark : Option Mark} {final : List Stmt}

/-- A failed selection leaves the statement without the clean-up. -/
theorem exec_of_selectionFails
    (h : SelectionFails M c body clauses setup (begun (.tryCatch mark body clauses none) s)) :
    ∃ stop u, stop.isOrderly = true ∧ ∀ cleanup,
      exec M c (.tryCatch mark body clauses cleanup) setup s = (.error stop, u) := by
  obtain ⟨stop, u, htry, hstop⟩ := tryBody_of_selectionFails h
  refine ⟨stop, u, hstop, fun cleanup => ?_⟩
  rw [exec_tryCatch]
  exact bind_of_error htry

/-- Any other run of the statement goes through the clean-up. -/
theorem exec_of_not_selectionFails
    (h : ¬SelectionFails M c body clauses setup (begun (.tryCatch mark body clauses none) s)) :
    exec M c (.tryCatch mark body clauses (some final)) setup s =
      thenFinally (exec M c (.tryCatch mark body clauses none)) (execAll M c final) setup s := by
  have hsome := exec_tryCatch M c mark body clauses (some final) setup s
  have hnone := exec_tryCatch M c mark body clauses none setup s
  simp only [execCleanup] at hsome hnone
  rcases tryBody_of_not_selectionFails h with ⟨result, o, u, htry, ho⟩ | ⟨stop, u, htry, hstop⟩
  · rw [thenFinally_of_ended (hnone.trans (bind_of_ok htry)) ho]
    exact hsome.trans (bind_of_ok htry)
  · rw [thenFinally_of_stopped (hnone.trans (bind_of_error htry)) hstop]
    exact hsome.trans (bind_of_error htry)

end

/-- A clean-up block that breaks shows that it has not run. -/
theorem finally_ne_of_selectionFails {M : Machine} {c : Context} {mark : Option Mark}
    {body : List Stmt} {clauses : List Clause} {setup : Setup} {s : State}
    (h : SelectionFails M c body clauses setup (begun (.tryCatch mark body clauses none) s)) :
    exec M c (.tryCatch mark body clauses (some [.breaking])) setup s ≠
      thenFinally (exec M c (.tryCatch mark body clauses none)) (execAll M c [.breaking])
        setup s := by
  intro heq
  obtain ⟨stop, u, hstop, hexec⟩ := exec_of_selectionFails h
  obtain ⟨o, ho⟩ := Option.isSome_iff_exists.1 ((Outcome.of?_error stop).trans hstop)
  have hbreak : execAll M c [.breaking] setup u = (.ok .breaking, begun .breaking u) := by
    simp only [execAll, perform]
    rfl
  rw [hexec, thenFinally_of_ended (hexec none) ho, afterwards, bind_of_ok hbreak] at heq
  cases heq

/-- A `:try` with a clean-up block does, for every such block, what it does without one followed
by the block, exactly when no selection of a handler fails; and where one fails the block has no
effect. -/
theorem finally_runs_iff (M : Machine) (c : Context) (mark : Option Mark) (body : List Stmt)
    (clauses : List Clause) (setup : Setup) (s : State) :
    ((∀ final, exec M c (.tryCatch mark body clauses (some final)) setup s =
        thenFinally (exec M c (.tryCatch mark body clauses none)) (execAll M c final) setup s) ↔
      ¬SelectionFails M c body clauses setup (begun (.tryCatch mark body clauses none) s)) ∧
    (SelectionFails M c body clauses setup (begun (.tryCatch mark body clauses none) s) →
      ∀ final, exec M c (.tryCatch mark body clauses (some final)) setup s =
        exec M c (.tryCatch mark body clauses none) setup s) := by
  refine ⟨⟨fun hall hfails => ?_, fun h final => exec_of_not_selectionFails h⟩, ?_⟩
  · exact finally_ne_of_selectionFails hfails (hall [.breaking])
  · intro hfails final
    obtain ⟨stop, u, -, hexec⟩ := exec_of_selectionFails hfails
    rw [hexec, hexec]

/-- A text that does not start like an error of the editor can be thrown. -/
theorem throw_ends (M : Machine) (c : Context) (setup : Setup) (s : State) {text : String}
    (htext : text.startsWith "Vim" = false) :
    ∃ t, Ends setup (execAll M c [.throw none (.text none text)]) s
      (.raised { cause := .thrown text }) t := by
  let u := begun (.throw none (.text none text)) s
  let t : State := { u with heap := (u.heap.alloc (.string text)).2 }
  have heval : evalExpr M (.text none text) c setup u =
      (.ok (u.heap.alloc (.string text)).1, t) := by
    rw [evalExpr]
    rfl
  have hvalue : t.heap.value (u.heap.alloc (.string text)).1 = .string text := by
    rw [Heap.value, Heap.cell_alloc, if_pos rfl]
  have hread : (liftM (Op.toText (u.heap.alloc (.string text)).1) : Run String) setup t =
      (.ok text, t) := by
    change ((liftM (t.heap.value (u.heap.alloc (.string text)).1).toText : Run String)) setup t = _
    rw [hvalue]
    rfl
  have hthrow : throwText M (.text none text) c setup u =
      (.error (.ofCause (.thrown text)), t) := by
    rw [throwText, bind_of_ok heval, bind_of_ok hread, htext]
    rfl
  refine ⟨t, .error (.ofCause (.thrown text)), ?_, rfl⟩
  rw [execAll, bind_of_ok (t := u) rfl, perform, bind_of_error hthrow]

/-- An exception, and a clause whose pattern has a count that is never closed. -/
theorem unclosed_count_skips_finally :
    exec (Machine.ofFuel 1) { script := default }
        (.tryCatch none [.throw none (.text none "boom")] [.mk (.text "a\\\x7b2") []]
          (some [.breaking]))
        (Session.start {}).setup (Session.start {}).state ≠
      thenFinally
        (exec (Machine.ofFuel 1) { script := default }
          (.tryCatch none [.throw none (.text none "boom")] [.mk (.text "a\\\x7b2") []] none))
        (execAll (Machine.ofFuel 1) { script := default } [.breaking])
        (Session.start {}).setup (Session.start {}).state := by
  refine finally_ne_of_selectionFails ?_
  obtain ⟨t, hbody⟩ := throw_ends (Machine.ofFuel 1) { script := default } (Session.start {}).setup
    (begun (.tryCatch none [.throw none (.text none "boom")] [.mk (.text "a\\\x7b2") []] none)
      (Session.start {}).state) (by simp : "boom".startsWith "Vim" = false)
  exact ⟨_, t, [], _, [], .ofCause (.invalidPattern "a\\\x7b2"), hbody, rfl, nofun, rfl, rfl⟩

end Vimscript
