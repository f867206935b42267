import Vimscript.Proofs.Eval.Calling
import Vimscript.Proofs.Eval.Handler

/-!
# How `:try` ends

The outcome of a `:try` statement from the outcomes of its parts. Errors
travel in two ways, as a signal and by stopping short, and an `Outcome`
does not tell them apart; a fault or lack of steps is no outcome at all.

The three phases are relations between outcomes and states, written down
as they are documented and not as they are computed: the body ends
somehow; the first clause that takes its error, if there is one, handles
it (`Handled`); the clean-up block runs and either lets the outcome so far
stand or replaces it (`Cleaned`). The statement ends with an outcome in a
state exactly when the three lead there.

That a handler finds the error in `v:exception` needs the namespace of the
editor's variables to be there. It is made when a session starts and
objects are never removed, so it is there in every state of a session.
-/

namespace Vimscript

open Run

/-! ## Outcomes -/

/-- How the execution of statements can end, apart from faults. -/
inductive Outcome where
  | success
  | breaking
  | continuing
  | returning (value : Ref)
  | raised (e : ScriptError)
  | finished (place : Option String)

/-- The outcome of an execution. -/
def Outcome.of? : Except Stop Signal → Option Outcome
  | .ok .success => some .success
  | .ok .breaking => some .breaking
  | .ok .continuing => some .continuing
  | .ok (.returning value) => some (.returning value)
  | .ok (.failed e) | .error (.error e) => some (.raised e)
  | .error (.finish place) => some (.finished place)
  | .error (.fault _) | .error .exhausted => none

/-- Started in the state `s`, a computation ends with an outcome in the state `t`. -/
def Ends (setup : Setup) (x : Run Signal) (s : State) (o : Outcome) (t : State) : Prop :=
  ∃ result, x setup s = (result, t) ∧ Outcome.of? result = some o

theorem Outcome.of?_ok (signal : Signal) : (Outcome.of? (.ok signal)).isSome = true := by
  cases signal <;> rfl

theorem Outcome.of?_error (stop : Stop) :
    (Outcome.of? (.error stop)).isSome = stop.isOrderly := by
  cases stop <;> rfl

theorem Outcome.of?_eq_success {result : Except Stop Signal}
    (h : Outcome.of? result = some .success) : result = .ok .success := by
  unfold Outcome.of? at h
  split at h <;> first | rfl | cases h

/-- What ends without an outcome stopped with a fault or for lack of steps. -/
theorem Outcome.of?_eq_none {result : Except Stop Signal} (h : Outcome.of? result = none) :
    ∃ stop, result = .error stop ∧ stop.isOrderly = false := by
  cases result with
  | ok signal => simpa [h] using Outcome.of?_ok signal
  | error stop => exact ⟨stop, rfl, by rw [← Outcome.of?_error, h]; rfl⟩

/-! ## Handling an error -/

/-- The state with a text written into a variable of the editor. -/
def withVimText (setup : Setup) (name text : String) (s : State) : State :=
  let (r, heap) := s.heap.alloc (.string text)
  { s with heap := heap.modifyTable setup.spaces.vim (·.insert name r) }

theorem setVimText_eq (name text : String) (setup : Setup) (s : State) :
    setVimText name text setup s = (.ok (), withVimText setup name text s) := rfl

/-- The state in which a clause starts to handle an error. -/
def entered (setup : Setup) (c : Context) (e : ScriptError) (k : Clause) (s : State) : State :=
  let s := withVimText setup "exception" e.message (selected setup k e.message s)
  withVimText setup "throwpoint" (e.throwpoint.getD (placeOf c s)) s

/-- A script that reads `v:exception` finds a text there. -/
def ReadsException (M : Machine) (c : Context) (setup : Setup) (s : State) (text : String) : Prop :=
  ∃ r, evalExpr M (.var none (some .vim) [.plain "exception"]) c setup s = (.ok r, s) ∧
    s.heap.value r = .string text

/-- What becomes of the outcome of a body: the first clause that takes its error decides, and
any other outcome passes. A clause is entered with the error in `v:exception`, which is empty
again when the clause has been left. -/
inductive Handled (setup : Setup) (M : Machine) (c : Context) (clauses : List Clause) :
    Outcome → State → Outcome → State → Prop where
  | passed {b : Outcome} {t : State} : (∀ e, b ≠ .raised e) → Handled setup M c clauses b t b t
  | uncaught {e : ScriptError} {t : State} :
      (∀ k ∈ clauses, ¬k.Takes setup.matcher e.message) →
      Handled setup M c clauses (.raised e) t (.raised e) t
  | caught {e : ScriptError} {t u : State} {before after : List Clause} {k : Clause} {o : Outcome} :
      clauses = before ++ k :: after →
      (∀ j ∈ before, ¬j.Takes setup.matcher e.message) →
      k.Takes setup.matcher e.message →
      ReadsException M c setup (entered setup c e k t) e.message →
      Ends setup (execAll M c k.body) (entered setup c e k t) o u →
      Handled setup M c clauses (.raised e) t o (withVimText setup "exception" "" u)

/-- What becomes of an outcome when the clean-up has run: it stands, unless the clean-up does not
end in success. -/
inductive Cleaned (setup : Setup) (M : Machine) (c : Context) :
    Option (List Stmt) → Outcome → State → Outcome → State → Prop where
  | absent {p : Outcome} {t : State} : Cleaned setup M c none p t p t
  | stands {final : List Stmt} {p : Outcome} {t u : State} :
      Ends setup (execAll M c final) t .success u → Cleaned setup M c (some final) p t p u
  | replaced {final : List Stmt} {p o : Outcome} {t u : State} :
      Ends setup (execAll M c final) t o u → o ≠ .success →
      Cleaned setup M c (some final) p t o u

/-! ## The namespace of the editor's variables -/

/-- The namespace of the editor's variables is there. -/
def HasVim (setup : Setup) (s : State) : Prop := setup.spaces.vim.index < s.heap.size

/-- The object that a variable of the editor is bound to. -/
def vimBinding (setup : Setup) (name : String) (s : State) : Option Ref :=
  (s.heap.table setup.spaces.vim).get? name

/-- Objects are never removed. -/
def Grows (s t : State) : Prop := s.heap.Grows t.heap

theorem grows_steady : Steady Grows where
  refl s := Heap.grows_extending.refl s.heap
  trans hst htu := Heap.grows_extending.trans hst htu
  heap _ _ h := h
  registry s _ _ := Heap.grows_extending.refl s.heap
  site s _ := Heap.grows_extending.refl s.heap
  trace s _ := Heap.grows_extending.refl s.heap
  host s _ _ := Heap.grows_extending.refl s.heap
  shown s _ := Heap.grows_extending.refl s.heap
  reported _ _ _ h := h
  call _ h := h

theorem HasVim.of_grows {setup : Setup} {s t : State} (h : HasVim setup s) (hst : Grows s t) :
    HasVim setup t :=
  Nat.lt_of_lt_of_le h hst

section

variable {setup : Setup} {s : State} (h : HasVim setup s) (name text : String)

theorem size_withVimText : (withVimText setup name text s).heap.size = s.heap.size + 1 := by
  simp [withVimText, Heap.modifyTable, Heap.setValue, Heap.size, Heap.alloc]

theorem value_withVimText_of_ne {r : Ref} (hr : r.index < s.heap.size)
    (hne : r ≠ setup.spaces.vim) :
    (withVimText setup name text s).heap.value r = s.heap.value r := by
  have hnew : r ≠ (s.heap.alloc (.string text)).1 := by
    rintro rfl
    exact Nat.lt_irrefl _ hr
  simp only [withVimText, Heap.modifyTable, Heap.value]
  rw [Heap.cell_setValue_of_ne _ _ hne, Heap.cell_alloc, if_neg hnew]

include h

theorem table_withVimText : (withVimText setup name text s).heap.table setup.spaces.vim =
    (s.heap.table setup.spaces.vim).insert name ⟨s.heap.size⟩ := by
  have hnew : setup.spaces.vim ≠ (s.heap.alloc (.string text)).1 := by
    intro he
    have hlt : setup.spaces.vim.index < s.heap.size := h
    rw [he] at hlt
    exact Nat.lt_irrefl _ hlt
  have hsize : setup.spaces.vim.index < (s.heap.alloc (.string text)).2.size := by
    rw [Heap.size_alloc]
    exact Nat.lt_succ_of_lt h
  have hold : (s.heap.alloc (.string text)).2.table setup.spaces.vim =
      s.heap.table setup.spaces.vim := by
    simp only [Heap.table, Heap.value, Heap.cell_alloc, if_neg hnew]
  simp only [withVimText, Heap.modifyTable]
  rw [hold, Heap.table, Heap.value_setValue _ _ hsize]
  rfl

theorem value_withVimText_new :
    (withVimText setup name text s).heap.value ⟨s.heap.size⟩ = .string text := by
  have hne : (⟨s.heap.size⟩ : Ref) ≠ setup.spaces.vim := by
    intro he
    have hlt : setup.spaces.vim.index < s.heap.size := h
    rw [← he] at hlt
    exact Nat.lt_irrefl _ hlt
  simp only [withVimText, Heap.modifyTable, Heap.value]
  rw [Heap.cell_setValue_of_ne _ _ hne, Heap.cell_alloc]
  exact congrArg Cell.value (if_pos rfl)

end

theorem selected_heap (setup : Setup) (k : Clause) (message : String) (s : State) :
    (selected setup k message s).heap = s.heap := by
  unfold selected traced
  split
  · split <;> rfl
  · rfl

/-- Reading a variable of the editor. -/
theorem evalExpr_vim (M : Machine) (c : Context) {setup : Setup} {s : State} {name : String}
    {r : Ref} (h : (s.heap.table setup.spaces.vim).get? name = some r) :
    evalExpr M (.var none (some .vim) [.plain name]) c setup s = (.ok r, s) := by
  have hname : evalName M [.plain name] c setup s = (.ok name, s) := by
    simp only [evalName, pure_bind, String.append_empty]
    rfl
  have hbinding : s.heap.binding? name [setup.spaces.vim] = some r := by
    simp [Heap.binding?, h]
  have hget : setup.spaces.getOrFail (some .vim) name c s.heap = (.ok r, s.heap) := by
    have hfound : setup.spaces.get? (some .vim) name c s.heap = (.ok (some r), s.heap) := by
      change (Except.ok (s.heap.binding? name [setup.spaces.vim]), s.heap) = _
      rw [hbinding]
    rw [Spaces.getOrFail, Op.bind_of_ok hfound]
    rfl
  rw [evalExpr, bind_of_ok (a := setup.spaces) (t := s) rfl, bind_of_ok hname]
  change Run.onHeap (setup.spaces.getOrFail (some .vim) name c) setup s = _
  simp only [Run.onHeap, hget]

/-- A clause that handles an error finds its message in `v:exception`. -/
theorem entered_readsException (M : Machine) (c : Context) {setup : Setup} {s : State}
    (h : HasVim setup s) (e : ScriptError) (k : Clause) :
    ReadsException M c setup (entered setup c e k s) e.message := by
  let t := selected setup k e.message s
  have ht : HasVim setup t := by
    unfold HasVim
    rw [selected_heap]
    exact h
  let u := withVimText setup "exception" e.message t
  have hu : HasVim setup u := by
    unfold HasVim
    rw [size_withVimText]
    exact Nat.lt_succ_of_lt ht
  have hne : (⟨t.heap.size⟩ : Ref) ≠ setup.spaces.vim := by
    intro he
    unfold HasVim at ht
    rw [← he] at ht
    exact Nat.lt_irrefl _ ht
  refine ⟨⟨t.heap.size⟩, evalExpr_vim M c ?_, ?_⟩
  · -- The place of the error is written after its message, under another name.
    rw [entered, table_withVimText hu, table_withVimText ht]
    simp only [Table.get?, Table.insert, Entries.find?_put]
    rfl
  · rw [entered, value_withVimText_of_ne _ _ _ hne, value_withVimText_new ht]
    rw [size_withVimText]
    exact Nat.lt_succ_self _

/-! ## The phases -/

section

variable {setup : Setup} {s t u : State} {c : Context} {body : Run Signal} {handlers : List Handler}
  {result : Except Stop Signal}

theorem orderly_of_some {o : Outcome} (h : Outcome.of? result = some o) :
    orderly result setup s = (.ok result, s) := by
  cases result with
  | ok signal => rfl
  | error stop =>
      have hstop : stop.isOrderly = true := by rw [← Outcome.of?_error, h]; rfl
      simp only [orderly, hstop, if_true]
      rfl

theorem orderly_of_none {stop : Stop} (h : stop.isOrderly = false) :
    orderly (.error stop) setup s = (.error stop, s) := by
  simp only [orderly, h, Bool.false_eq_true, if_false]
  rfl

/-- An outcome that is no error passes the handlers. -/
theorem tryBody_of_passed {b : Outcome} (hbody : body setup s = (result, t))
    (hb : Outcome.of? result = some b) (hno : ∀ e, b ≠ .raised e) :
    tryBody body handlers c setup s = (.ok result, t) := by
  rw [tryBody, bind_of_ok (attempt_eq hbody)]
  split
  · cases hb
    exact absurd rfl (hno _)
  · cases hb
    exact absurd rfl (hno _)
  · exact orderly_of_some hb

/-- Whichever way an error travels, a handler is looked for. -/
theorem tryBody_of_raised {e : ScriptError} (hbody : body setup s = (result, t))
    (hb : Outcome.of? result = some (.raised e)) :
    tryBody body handlers c setup s = handleBy handlers e c setup t := by
  rw [tryBody, bind_of_ok (attempt_eq hbody)]
  unfold Outcome.of? at hb
  split at hb <;> cases hb <;> rfl

theorem tryBody_of_stopped {stop : Stop} (hbody : body setup s = (.error stop, t))
    (hstop : stop.isOrderly = false) : tryBody body handlers c setup s = (.error stop, t) := by
  rw [tryBody, bind_of_ok (attempt_eq hbody)]
  cases stop with
  | error e | finish place => cases hstop
  | fault f | exhausted => exact orderly_of_none hstop

/-- A handler runs with the error in `v:exception`, which is emptied behind it. -/
theorem handle_eq {e : ScriptError} {k : Clause} {handler : Run Signal}
    (hhandler : handler setup (entered setup c e k s) = (result, u)) :
    handle e handler c setup (selected setup k e.message s) =
      (.ok result, withVimText setup "exception" "" u) := by
  simp only [entered] at hhandler
  rw [handle, bind_of_ok (setVimText_eq _ _ _ _), bind_of_ok (throwpoint_eq _ _ _),
    bind_of_ok (setVimText_eq _ _ _ _), bind_of_ok (attempt_eq hhandler),
    bind_of_ok (setVimText_eq _ _ _ _)]
  rfl

end

section

variable {setup : Setup} {M : Machine} {c : Context} {body : List Stmt} {clauses : List Clause}
  {s u : State}

/-- The handlers do what is told of them. -/
theorem tryBody_of_handled {t : State} {b p : Outcome}
    (haccepted : ∀ k ∈ clauses, k.Accepted setup.matcher)
    (hbody : Ends setup (execAll M c body) s b t) (hhandled : Handled setup M c clauses b t p u) :
    ∃ result, tryBody (execAll M c body) (execClauses M c clauses) c setup s = (.ok result, u) ∧
      Outcome.of? result = some p := by
  obtain ⟨result, hresult, hb⟩ := hbody
  cases hhandled with
  | passed hno => exact ⟨result, tryBody_of_passed hresult hb hno, hb⟩
  | @uncaught e _ hno =>
      have hnone : ∀ k ∈ clauses, k.verdict setup.matcher e.message = .ok false := fun k hk =>
        (haccepted k hk).verdict_eq_false (hno k hk)
      refine ⟨.error (.error e), ?_, rfl⟩
      rw [tryBody_of_raised hresult hb, handleBy, bind_of_ok (findHandler_of_none hnone)]
      rfl
  | @caught e _ u before after k _ hsplit hbefore hk _ hends =>
      obtain ⟨outcome, houtcome, ho⟩ := hends
      have hskip : ∀ j ∈ before, j.verdict setup.matcher e.message = .ok false := fun j hj =>
        (haccepted j (by simp [hsplit, hj])).verdict_eq_false (hbefore j hj)
      refine ⟨outcome, ?_, ho⟩
      rw [tryBody_of_raised hresult hb, hsplit, handleBy,
        bind_of_ok (findHandler_of_first hskip (Clause.verdict_eq_true_iff.2 hk))]
      change (handle e (execAll M c k.body) c >>= orderly) setup _ = _
      rw [bind_of_ok (handle_eq houtcome)]
      exact orderly_of_some ho

/-- Everything the handlers can do after a body: `ending` is how the body ended, in the state
`t`. -/
inductive TryRun (setup : Setup) (M : Machine) (c : Context) (clauses : List Clause)
    (ending : Except Stop Signal) (t : State) :
    Except Stop (Except Stop Signal) → State → Prop where
  | stopped {stop : Stop} : ending = .error stop → stop.isOrderly = false →
      TryRun setup M c clauses ending t (.error stop) t
  | passed {b : Outcome} : Outcome.of? ending = some b → (∀ e, b ≠ .raised e) →
      TryRun setup M c clauses ending t (.ok ending) t
  | uncaught {e : ScriptError} : Outcome.of? ending = some (.raised e) →
      (∀ j ∈ clauses, j.verdict setup.matcher e.message = .ok false) →
      TryRun setup M c clauses ending t (.ok (.error (.error e))) t
  /-- A clause could not be asked. -/
  | unasked {e : ScriptError} {before after : List Clause} {k : Clause} {stop : Stop} :
      Outcome.of? ending = some (.raised e) → clauses = before ++ k :: after →
      (∀ j ∈ before, j.verdict setup.matcher e.message = .ok false) →
      k.verdict setup.matcher e.message = .error stop →
      TryRun setup M c clauses ending t (.error stop) t
  | caught {e : ScriptError} {before after : List Clause} {k : Clause} {o : Outcome}
      {result : Except Stop Signal} {u : State} :
      Outcome.of? ending = some (.raised e) → clauses = before ++ k :: after →
      (∀ j ∈ before, j.verdict setup.matcher e.message = .ok false) →
      k.verdict setup.matcher e.message = .ok true →
      execAll M c k.body setup (entered setup c e k t) = (result, u) → Outcome.of? result = some o →
      TryRun setup M c clauses ending t (.ok result) (withVimText setup "exception" "" u)
  /-- The clause that was to handle the error was itself stopped. -/
  | broken {stop : Stop} {u : State} : stop.isOrderly = false →
      TryRun setup M c clauses ending t (.error stop) u

theorem handleBy_run {ending : Except Stop Signal} {t : State} {e : ScriptError}
    {result : Except Stop (Except Stop Signal)} (hb : Outcome.of? ending = some (.raised e))
    (h : handleBy (execClauses M c clauses) e c setup t = (result, u)) :
    TryRun setup M c clauses ending t result u := by
  rw [handleBy] at h
  rcases refuse_or_first setup.matcher e.message clauses with
    hnone | ⟨before, k, after, rfl, hskip, hk⟩
  · rw [bind_of_ok (findHandler_of_none hnone)] at h
    cases h
    exact .uncaught hb hnone
  rcases hverdict : k.verdict setup.matcher e.message with stop | _ | _
  · rw [bind_of_error (findHandler_of_error hskip hverdict)] at h
    cases h
    exact .unasked hb rfl hskip hverdict
  · exact absurd hverdict hk
  · rw [bind_of_ok (findHandler_of_first hskip hverdict)] at h
    change (handle e (execAll M c k.body) c >>= orderly) setup _ = _ at h
    rcases hclause : execAll M c k.body setup (entered setup c e k t) with ⟨handled, v⟩
    rw [bind_of_ok (handle_eq hclause)] at h
    rcases ho : Outcome.of? handled with _ | o
    · obtain ⟨stop, rfl, hstop⟩ := Outcome.of?_eq_none ho
      rw [orderly_of_none hstop] at h
      cases h
      exact .broken hstop
    · rw [orderly_of_some ho] at h
      cases h
      exact .caught hb rfl hskip hverdict hclause ho

theorem tryBody_run {ending : Except Stop Signal} {t : State}
    {result : Except Stop (Except Stop Signal)} (hbody : execAll M c body setup s = (ending, t))
    (h : tryBody (execAll M c body) (execClauses M c clauses) c setup s = (result, u)) :
    TryRun setup M c clauses ending t result u := by
  rcases hb : Outcome.of? ending with _ | b
  · obtain ⟨stop, rfl, hstop⟩ := Outcome.of?_eq_none hb
    rw [tryBody_of_stopped hbody hstop] at h
    cases h
    exact .stopped rfl hstop
  · by_cases hraised : ∃ e, b = .raised e
    · obtain ⟨e, rfl⟩ := hraised
      rw [tryBody_of_raised hbody hb] at h
      exact handleBy_run hb h
    · have hno : ∀ e, b ≠ .raised e := fun e he => hraised ⟨e, he⟩
      rw [tryBody_of_passed hbody hb hno] at h
      cases h
      exact .passed hb hno

/-- Whatever the handlers do is told of them, unless a fault or lack of steps ends the run. -/
theorem handled_of_tryBody (hM : M.Keeps Grows) (hvim : HasVim setup s)
    (haccepted : ∀ k ∈ clauses, k.Accepted setup.matcher)
    {result : Except Stop (Except Stop Signal)}
    (h : tryBody (execAll M c body) (execClauses M c clauses) c setup s = (result, u)) :
    (∃ b t outcome p, Ends setup (execAll M c body) s b t ∧ Handled setup M c clauses b t p u ∧
      result = .ok outcome ∧ Outcome.of? outcome = some p) ∨
    (∃ stop, result = .error stop ∧ stop.isOrderly = false) := by
  rcases hbody : execAll M c body setup s with ⟨ending, t⟩
  have ht : HasVim setup t := by
    have hgrows := execAll_keeps grows_steady hM c body setup s
    rw [hbody] at hgrows
    exact hvim.of_grows hgrows
  cases tryBody_run hbody h with
  | stopped _ hstop => exact .inr ⟨_, rfl, hstop⟩
  | passed hb hno => exact .inl ⟨_, _, _, _, ⟨ending, hbody, hb⟩, .passed hno, rfl, hb⟩
  | uncaught hb hnone =>
      refine .inl ⟨_, _, _, _, ⟨ending, hbody, hb⟩, .uncaught fun k hk => ?_, rfl, rfl⟩
      exact Clause.not_takes_of_verdict (hnone k hk)
  | @unasked e _ _ k _ _ hsplit _ hk =>
      -- All patterns are accepted, so that every clause can be asked.
      obtain ⟨b, hv⟩ := (haccepted k (by simp [hsplit])).verdict e.message
      rw [hv] at hk
      cases hk
  | caught hb hsplit hskip hk hclause ho =>
      refine .inl ⟨_, t, _, _, ⟨ending, hbody, hb⟩, ?_, rfl, ho⟩
      exact .caught hsplit (fun j hj => Clause.not_takes_of_verdict (hskip j hj))
        (Clause.verdict_eq_true_iff.1 hk) (entered_readsException M c ht _ _) ⟨_, hclause, ho⟩
  | broken hstop => exact .inr ⟨_, rfl, hstop⟩

/-- The clean-up of a `:try` whose body and handlers ended in some way. -/
def afterwards (cleanup : Option (Run Signal)) (result : Except Stop Signal) : Run Signal :=
  match cleanup with
  | none => ending result
  | some final => do
    match ← final with
    | .success => ending result
    | signal => return signal

theorem afterwards_iff {cleanup : Option (List Stmt)} {result : Except Stop Signal} {p o : Outcome}
    (hp : Outcome.of? result = some p) :
    Ends setup (afterwards (execCleanup M c cleanup) result) s o u ↔
      Cleaned setup M c cleanup p s o u := by
  cases cleanup with
  | none =>
      rw [execCleanup]
      constructor
      · rintro ⟨_, ⟨⟩, ho⟩
        rw [hp] at ho
        cases ho
        exact .absent
      · rintro ⟨⟩
        exact ⟨result, rfl, hp⟩
  | some final =>
      rw [execCleanup]
      have hstands : ∀ {t}, execAll M c final setup s = (.ok .success, t) →
          afterwards (some (execAll M c final)) result setup s = (result, t) := by
        intro t hfinal
        rw [afterwards, bind_of_ok hfinal]
        rfl
      have hreplaced : ∀ {ended t}, execAll M c final setup s = (ended, t) →
          ended ≠ .ok .success →
            afterwards (some (execAll M c final)) result setup s = (ended, t) := by
        intro ended t hfinal hne
        rcases ended with stop | signal
        · rw [afterwards, bind_of_error hfinal]
        · rw [afterwards, bind_of_ok hfinal]
          split
          · exact absurd rfl hne
          · rfl
      constructor
      · rintro ⟨outcome, houtcome, ho⟩
        rcases hfinal : execAll M c final setup s with ⟨ended, t⟩
        by_cases hsuccess : ended = .ok .success
        · subst hsuccess
          rw [hstands hfinal] at houtcome
          cases houtcome
          rw [hp] at ho
          cases ho
          exact .stands ⟨_, hfinal, rfl⟩
        · rw [hreplaced hfinal hsuccess] at houtcome
          cases houtcome
          refine .replaced ⟨_, hfinal, ho⟩ ?_
          rintro rfl
          exact hsuccess (Outcome.of?_eq_success ho)
      · rintro (_ | ⟨ended, hfinal, hended⟩ | ⟨⟨ended, hfinal, hended⟩, hne⟩)
        · rw [Outcome.of?_eq_success hended] at hfinal
          exact ⟨result, hstands hfinal, hp⟩
        · refine ⟨ended, hreplaced hfinal ?_, hended⟩
          rintro rfl
          exact hne (Option.some.inj hended).symm

end

/-! ## The statement -/

/-- The state in which the parts of a statement start. -/
def begun (stmt : Stmt) (s : State) : State := { s with site := some stmt.site }

theorem exec_tryCatch (M : Machine) (c : Context) (mark : Option Mark) (body : List Stmt)
    (clauses : List Clause) (cleanup : Option (List Stmt)) (setup : Setup) (s : State) :
    exec M c (.tryCatch mark body clauses cleanup) setup s =
      (tryBody (execAll M c body) (execClauses M c clauses) c >>=
        afterwards (execCleanup M c cleanup)) setup
        (begun (.tryCatch mark body clauses cleanup) s) := by
  rw [exec, bind_of_ok (t := begun (.tryCatch mark body clauses cleanup) s) rfl, perform]
  rfl

/-- The three phases of a `:try` statement on any machine that removes no objects. -/
theorem tryCatch_phases_iff {M : Machine} (hM : M.Keeps Grows) (c : Context) (mark : Option Mark)
    (body : List Stmt) (clauses : List Clause) (cleanup : Option (List Stmt)) (setup : Setup)
    (s : State) (hvim : HasVim setup s) (haccepted : ∀ k ∈ clauses, k.Accepted setup.matcher)
    (o : Outcome) (u : State) :
    Ends setup (exec M c (.tryCatch mark body clauses cleanup)) s o u ↔
      ∃ b t p v,
        Ends setup (execAll M c body) (begun (.tryCatch mark body clauses cleanup) s) b t ∧
        Handled setup M c clauses b t p v ∧ Cleaned setup M c cleanup p v o u := by
  have hbegun : HasVim setup (begun (.tryCatch mark body clauses cleanup) s) := hvim
  constructor
  · rintro ⟨result, hresult, ho⟩
    rw [exec_tryCatch] at hresult
    rcases htry : tryBody (execAll M c body) (execClauses M c clauses) c setup
      (begun (.tryCatch mark body clauses cleanup) s) with ⟨ended, v⟩
    rcases handled_of_tryBody hM hbegun haccepted htry with
      ⟨b, t, outcome, p, hbody, hhandled, rfl, hp⟩ | ⟨stop, rfl, hstop⟩
    · rw [bind_of_ok htry] at hresult
      exact ⟨b, t, p, v, hbody, hhandled, (afterwards_iff hp).1 ⟨result, hresult, ho⟩⟩
    · -- A fault has no outcome, so it is not how the statement ended.
      rw [bind_of_error htry] at hresult
      cases hresult
      have hsome := Outcome.of?_error stop
      rw [ho, hstop] at hsome
      cases hsome
  · rintro ⟨b, t, p, v, hbody, hhandled, hcleaned⟩
    obtain ⟨outcome, htry, hp⟩ := tryBody_of_handled haccepted hbody hhandled
    obtain ⟨result, hresult, ho⟩ := (afterwards_iff hp).2 hcleaned
    exact ⟨result, by rw [exec_tryCatch, bind_of_ok htry, hresult], ho⟩

/-- A `:try` statement ends with an outcome in a state exactly when its three phases lead there:
the body ends somehow; no clause runs unless that is an error, and then the first clause that
takes the error does, with the error in `v:exception`, and its outcome counts instead; and the
clean-up block runs once, from the state reached by then, and replaces the outcome unless it
ends in success. -/
theorem tryCatch_ends_iff (n : Nat) (c : Context) (mark : Option Mark) (body : List Stmt)
    (clauses : List Clause) (cleanup : Option (List Stmt)) (setup : Setup) (s : State)
    (hvim : HasVim setup s) (haccepted : ∀ k ∈ clauses, k.Accepted setup.matcher)
    (o : Outcome) (u : State) :
    Ends setup (exec (Machine.ofFuel n) c (.tryCatch mark body clauses cleanup)) s o u ↔
      ∃ b t p v,
        Ends setup (execAll (Machine.ofFuel n) c body)
          (begun (.tryCatch mark body clauses cleanup) s) b t ∧
        Handled setup (Machine.ofFuel n) c clauses b t p v ∧
        Cleaned setup (Machine.ofFuel n) c cleanup p v o u :=
  tryCatch_phases_iff (Machine.ofFuel_keeps grows_steady n) c mark body clauses cleanup setup s hvim
    haccepted o u

/-- A stray `:return` that a clause for another error leaves alone and a clause without a pattern
turns into `:continue`. -/
def strayReturn : Stmt :=
  .tryCatch none [.returning none none] [.mk (.text "E1098") [.breaking], .mk .null [.continuing]]
    none

/-- A setup whose namespaces are all the first object, with a matcher that finds nothing. -/
def plainSetup : Setup :=
  { spaces := default, maxDepth := 100, parser := none, matcher := fun _ _ => .ok false,
    isTracing := false }

theorem strayReturn_continues :
    ∃ u, Ends plainSetup (exec (Machine.ofFuel 0) { script := default } strayReturn)
      { heap := { cells := #[{ value := .dict {} }] } } .continuing u := by
  have hvim : HasVim plainSetup { heap := { cells := #[{ value := .dict {} }] } } := Nat.zero_lt_one
  have haccepted : ∀ k ∈ [Clause.mk (.text "E1098") [.breaking], .mk .null [.continuing]],
      k.Accepted plainSetup.matcher := by
    intro k hk hd
    rcases List.mem_cons.1 hk with rfl | hk
    · exact ⟨"E1098", rfl, fun _ _ _ => ⟨false, rfl⟩⟩
    · rw [List.mem_singleton.1 hk] at hd
      cases hd
  obtain ⟨t, hbody, ht⟩ : ∃ t,
      Ends plainSetup (execAll (Machine.ofFuel 0) { script := default } [.returning none none])
        (begun strayReturn { heap := { cells := #[{ value := .dict {} }] } })
        (.raised { cause := .returnOutside }) t ∧ HasVim plainSetup t :=
    ⟨_, ⟨_, rfl, rfl⟩, Nat.zero_lt_one⟩
  obtain ⟨u, hhandled⟩ : ∃ u, Handled plainSetup (Machine.ofFuel 0) { script := default }
      [.mk (.text "E1098") [.breaking], .mk .null [.continuing]]
      (.raised { cause := .returnOutside }) t .continuing u := by
    have hsplit : [Clause.mk (.text "E1098") [.breaking], .mk .null [.continuing]] =
        [.mk (.text "E1098") [.breaking]] ++ .mk .null [.continuing] :: [] := rfl
    refine ⟨_, .caught hsplit ?_ (.any rfl) (entered_readsException _ _ ht _ _) ⟨_, rfl, rfl⟩⟩
    intro j hj htakes
    rw [List.mem_singleton.1 hj] at htakes
    rcases htakes with hfalse | ⟨_, _, _, hfound⟩
    · cases hfalse
    · cases hfound
  exact ⟨u, (tryCatch_ends_iff 0 _ none _ _ none plainSetup _ hvim haccepted .continuing u).2
    ⟨_, t, _, u, hbody, hhandled, .absent⟩⟩

end Vimscript
