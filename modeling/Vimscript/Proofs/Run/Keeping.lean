import Vimscript.Eval.Machine
import Vimscript.Proofs.Function.Operation
import Vimscript.Proofs.Heap.Keeping
import Vimscript.Proofs.Run.Result

/-!
# What steps of the interpreter keep

A computation of the interpreter changes the state by a handful of
elementary changes: to the heap, the declared functions, the host, the
site and the trace; by showing a message; by reporting an error; and by
running another computation as a call. `Steady R` says of a preorder `R`
between states that it allows each of them. Whatever is composed of such
steps then relates the state before it to the state after it, whichever
way it ends: it `Keeps R`.

This is the one place that says what a step can do. A fact about all runs
is proved by naming a steady relation; the induction over expressions,
statements, calls and built-in functions is done once, for every steady
relation, in the modules that follow.

Messages and errors are separate from other changes to the host because
they go to several places at once, and calls are separate because they
change the stack and change it back.
-/

namespace Vimscript

/-! ## Relations between states -/

/-- Two hosts of one kind that have shown the same messages and noted the same errors. -/
structure Host.SameLog (h h' : Host) : Prop where
  kind : h'.kind = h.kind
  messages : h'.messages = h.messages
  errorCount : h'.errorCount = h.errorCount

/-- A preorder between states that allows every step of the interpreter. -/
structure Steady (R : State → State → Prop) : Prop where
  refl (s : State) : R s s
  trans {s t u : State} : R s t → R t u → R s u
  heap (s : State) {h : Heap} : s.heap.Grows h → R s { s with heap := h }
  registry (s : State) {registry : Registry} : s.registry.Change registry → R s { s with registry }
  site (s : State) (site : Option Site) : R s { s with site }
  trace (s : State) (trace : Array String) : R s { s with trace }
  host (s : State) {host : Host} : s.host.SameLog host → R s { s with host }
  shown (s : State) (text : String) :
    R s { s with messages := s.messages.push text, host := s.host.showMessage text }
  reported (s : State) (e : ScriptError) {h : Heap} : s.heap.Grows h →
    R s { s with heap := h, errors := s.errors.push e,
                 host := (s.host.showMessage e.message).indicateError }
  /-- What a call does to a state with its name on the stack, seen from outside the call. -/
  call {s t : State} (name : String) :
    R { s with calls := name :: s.calls } t → R s { t with calls := t.calls.tail }

namespace Host.SameLog

theorem refl (h : Host) : h.SameLog h := ⟨rfl, rfl, rfl⟩

theorem setCurrentLine (h : Host) (line : Int) : h.SameLog (h.setCurrentLine line) := by
  unfold Host.setCurrentLine
  split <;> exact ⟨rfl, rfl, rfl⟩

theorem setOption (h : Host) (name : String) (value : Data) :
    h.SameLog (h.setOption name value) := by
  unfold Host.setOption
  split <;> exact ⟨rfl, rfl, rfl⟩

theorem setRegister (h : Host) (name text : String) : h.SameLog (h.setRegister name text) := by
  unfold Host.setRegister
  split <;> exact ⟨rfl, rfl, rfl⟩

theorem setEnv (h : Host) (name value : String) : h.SameLog (h.setEnv name value) :=
  ⟨rfl, rfl, rfl⟩

theorem ask (h : Host) (prompt fallback : String) : h.SameLog (h.ask prompt fallback).2 := by
  unfold Host.ask
  split <;> exact ⟨rfl, rfl, rfl⟩

theorem runCommand (h : Host) (name : Data) (argument : String) (bang : Bool) :
    h.SameLog (h.runCommand name argument bang).2 := by
  unfold Host.runCommand
  split <;> exact ⟨rfl, rfl, rfl⟩

end Host.SameLog

namespace Run

variable {α β : Type}

/-! ## Keeping a relation -/

/-- The state before a computation and the state after it stand in a relation,
whichever way the computation ends. -/
def Keeps (R : State → State → Prop) (x : Run α) : Prop :=
  ∀ setup s, R s (x setup s).2

variable {R : State → State → Prop} (hR : Steady R)
include hR

theorem Keeps.pure (a : α) : Keeps R (pure a : Run α) := fun _ s => hR.refl s

/-- A second part that keeps a relation only for the results the first part can give. -/
theorem Keeps.bindYields {P : α → Prop} {x : Run α} {f : α → Run β} (hx : Keeps R x)
    (hP : Yields P x) (hf : ∀ a, P a → Keeps R (f a)) : Keeps R (x >>= f) := by
  intro setup s
  have h := hx setup s
  rcases hout : x setup s with ⟨_ | a, t⟩ <;> rw [hout] at h
  · rw [bind_of_error hout]
    exact h
  · rw [bind_of_ok hout]
    exact hR.trans h (hf a (hP setup s a t hout) setup t)

theorem Keeps.bind {x : Run α} {f : α → Run β} (hx : Keeps R x) (hf : ∀ a, Keeps R (f a)) :
    Keeps R (x >>= f) :=
  .bindYields hR (P := fun _ => True) hx (fun _ _ _ _ _ => trivial) fun a _ => hf a

theorem Keeps.throw (stop : Stop) : Keeps R (throw stop : Run α) := fun _ s => hR.refl s

theorem Keeps.fail (c : Cause) : Keeps R (fail c : Run α) := fun _ s => hR.refl s

/-- Nothing runs behind a failure. -/
theorem Keeps.failBind (c : Cause) (f : α → Run β) : Keeps R ((Vimscript.fail c : Run α) >>= f) :=
  fun _ s => hR.refl s

theorem Keeps.faulty (f : Fault) : Keeps R (faulty f : Run α) := fun _ s => hR.refl s

theorem Keeps.orFail (r : Except Cause α) : Keeps R (orFail r : Run α) := by
  cases r <;> exact fun _ s => hR.refl s

theorem Keeps.orFault (r : Except Fault α) : Keeps R (orFault r : Run α) := by
  cases r <;> exact fun _ s => hR.refl s

theorem Keeps.result (r : Result α) : Keeps R (liftM r : Run α) := fun _ s => hR.refl s

theorem Keeps.ending (r : Except Stop α) : Keeps R (ending r) := fun _ s => hR.refl s

theorem Keeps.get : Keeps R (get : Run State) := fun _ s => hR.refl s

theorem Keeps.read : Keeps R (read : Run Setup) := fun _ s => hR.refl s

omit hR in
theorem Keeps.attempt {x : Run α} (hx : Keeps R x) : Keeps R (attempt x) := hx

omit hR in
theorem Keeps.ite {p : Prop} [Decidable p] {x y : Run α} (hx : Keeps R x) (hy : Keeps R y) :
    Keeps R (if p then x else y) := by
  split
  · exact hx
  · exact hy

/-- A check that fails in front of a computation. -/
theorem Keeps.failIf {p : Prop} [Decidable p] {c : Cause} {x : Run α} (hx : Keeps R x) :
    Keeps R (if p then (Vimscript.fail c : Run Unit) >>= fun _ => x else x) :=
  .ite (.failBind hR c _) hx

theorem Keeps.onHeap {op : Op α} (hop : Op.Keeps Heap.Grows op) : Keeps R (onHeap op) :=
  fun _ s => hR.heap s (hop s.heap)

theorem Keeps.op {op : Op α} (hop : Op.Keeps Heap.Grows op) : Keeps R (liftM op : Run α) :=
  .onHeap hR hop

/-! ## Elementary computations -/

theorem spaces_keeps : Keeps R spaces := fun _ s => hR.refl s

theorem host_keeps : Keeps R host := fun _ s => hR.refl s

theorem registry_keeps : Keeps R registry := fun _ s => hR.refl s

theorem modifyHost_keeps {f : Host → Host} (hf : ∀ h : Host, h.SameLog (f h)) :
    Keeps R (modifyHost f) := fun _ s => hR.host s (hf s.host)

theorem modifyGetHost_keeps {f : Host → α × Host} (hf : ∀ h : Host, h.SameLog (f h).2) :
    Keeps R (modifyGetHost f) := fun _ s => hR.host s (hf s.host)

/-- The declared functions are replaced only by what an operation makes of them. -/
theorem changeRegistry_keeps {f : Registry → Result Registry} (hf : ∀ r, Gives r.Change (f r))
    {x : Run α} (hx : Keeps R x) : Keeps R (do setRegistry (← f (← registry)); x) := by
  intro setup s
  rw [bind_of_ok (a := s.registry) (t := s) rfl]
  cases hr : f s.registry with
  | error stop => exact hR.refl s
  | ok r => exact hR.trans (hR.registry s (hf s.registry r hr)) (hx setup { s with registry := r })

theorem modifyGetRegistry_keeps {f : Registry → α × Registry}
    (hf : ∀ r : Registry, r.Change (f r).2) :
    Keeps R (modifyGet fun s => ((f s.registry).1, { s with registry := (f s.registry).2 })) :=
  fun _ s => hR.registry s (hf s.registry)

theorem setSite_keeps (site : Site) : Keeps R (setSite site) := fun _ s => hR.site s _

theorem trace_keeps (parts : List String) : Keeps R (trace parts) := by
  refine .bind hR (.read hR) fun setup => .ite ?_ (.pure hR _)
  exact fun _ s => hR.trace s _

theorem setVimText_keeps (name text : String) : Keeps R (setVimText name text) :=
  .bind hR (spaces_keeps hR) fun sp =>
    .bind hR (.op hR (Op.string_keeps Heap.grows_extending text)) fun r =>
      .op hR (Op.setVim_keeps Heap.grows_mutating sp name r)

theorem throwpoint_keeps (c : Context) : Keeps R (throwpoint c) := by
  refine .bind hR (.get hR) fun s => ?_
  split
  · exact .pure hR _
  · exact .pure hR _

theorem showMessage_keeps (text : String) : Keeps R (showMessage text) :=
  fun _ s => hR.shown s text

/-- A reported error goes to the list of errors, to `v:errmsg` and to the host; only the state
in which it has reached all three is compared. -/
theorem report_keeps (e : ScriptError) : Keeps R (report e) := by
  refine .bind hR (trace_keeps hR _) fun _ => .bind hR (.get hR) fun now => ?_
  intro setup s
  exact hR.reported s { e with site := e.site <|> now.site }
    (Op.setVim_keeps Heap.grows_mutating _ _ _ _ |> Heap.grows_mutating.trans
      (Heap.grows_mutating.alloc s.heap (.string e.message)))

end Run

/-! ## Machines -/

/-- Every nested step a machine offers keeps a relation. -/
structure Machine.Keeps (R : State → State → Prop) (M : Machine) : Prop where
  invoke (call : Call) : Run.Keeps R (M.invoke call)
  evaluate (e : Expr) (c : Context) : Run.Keeps R (M.evaluate e c)
  execute (body : List Stmt) (c : Context) : Run.Keeps R (M.execute body c)

theorem Machine.halted_keeps {R : State → State → Prop} (hR : Steady R) :
    Machine.halted.Keeps R where
  invoke _ := .throw hR _
  evaluate _ _ := .throw hR _
  execute _ _ := .throw hR _

namespace Run

variable {R : State → State → Prop} (hR : Steady R) {M : Machine} (hM : M.Keeps R)
include hR

theorem toFuncref_keeps (r : Ref) : Keeps R (toFuncref r) := by
  refine .bind hR (.op hR (Op.value_keeps Heap.grows_extending r)) fun v => ?_
  split
  · exact .pure hR _
  · exact .fail hR _

theorem makeLambda_keeps (params : List Name) (body : Expr) (c : Context) :
    Keeps R (makeLambda params body c) :=
  .bind hR (modifyGetRegistry_keeps hR fun r => r.declareLambda_changes params body c) fun _ =>
    .bind hR (.op hR (Op.list_keeps Heap.grows_extending [])) fun _ => .pure hR _

include hM

theorem callFuncref_keeps (f : Funcref) (args : List Ref) (range : Option (Int × Int))
    (c : Context) : Keeps R (callFuncref M f args range c) :=
  .bind hR (registry_keeps hR) fun _ => .bind hR (.orFail hR _) fun _ => .bind hR (.get hR) fun _ =>
    hM.invoke _

theorem callByName_keeps (scope : Option Scope) (name : Name) (args : List Ref)
    (self : Option Ref) (range : Option (Int × Int)) (c : Context) :
    Keeps R (callByName M scope name args self range c) := by
  refine .bind hR (registry_keeps hR) fun r => .bind hR (.orFault hR _) fun found => ?_
  split
  · exact .bind hR (trace_keeps hR _) fun _ => hM.invoke _
  · refine .bind hR (spaces_keeps hR) fun sp =>
      .bind hR (.op hR (Op.get?_keeps Heap.grows_extending sp _ _ c)) fun held => ?_
    split
    · exact .fail hR _
    · refine .bind hR (.op hR (Op.value_keeps Heap.grows_extending _)) fun v => ?_
      split
      · exact callFuncref_keeps hR hM _ args range c
      · exact .fail hR _

end Run

end Vimscript
