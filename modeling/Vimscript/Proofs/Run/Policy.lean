import Vimscript.Eval.Machine
import Vimscript.Proofs.Heap.Edit
import Vimscript.Proofs.Run.Result

/-!
# Computations under a policy

`Run.Safe` is to computations of the interpreter what `Op.Safe` is to
operations on the heap: from a state in which something holds, a
computation leads to one in which it still holds, however it ends, and a
result satisfies a predicate. What holds is a property `Q` of states that
looks at the heap, through a policy, and perhaps at the declared functions,
but at nothing else (`Guards`). The host, the site, the trace, the calls
under way and what has been reported are of no concern to it.

The setup is fixed, because the properties of interest speak of the shared
namespaces.
-/

namespace Vimscript

/-- A property of states that is a policy for the heap, apart from what it says of the declared
functions. -/
structure Guards (P : Policy) (Q : State → Prop) : Prop where
  holds {s : State} : Q s → P.Holds s.heap
  heap {s : State} {h : Heap} : Q s → P.Holds h → Q { s with heap := h }
  same {s t : State} : Q s → t.heap = s.heap → t.registry = s.registry → Q t

namespace Run

variable {α β : Type} {setup : Setup} {Q : State → Prop} {U : α → Prop} {V : β → Prop} {s : State}

/-! ## Safe computations -/

/-- From a state, a computation leads to one with a property, and a result satisfies a predicate. -/
def SafeAt (setup : Setup) (Q : State → Prop) (U : α → Prop) (x : Run α) (s : State) : Prop :=
  Q (x setup s).2 ∧ ∀ a, (x setup s).1 = .ok a → U a

/-- A computation keeps a property, and its results satisfy a predicate. -/
def Safe (setup : Setup) (Q : State → Prop) (U : α → Prop) (x : Run α) : Prop :=
  ∀ s, Q s → SafeAt setup Q U x s

theorem SafeAt.bind {x : Run α} {f : α → Run β} (hx : SafeAt setup Q U x s)
    (hf : ∀ a t, x setup s = (.ok a, t) → Q t → U a → SafeAt setup Q V (f a) t) :
    SafeAt setup Q V (x >>= f) s := by
  obtain ⟨hholds, hresult⟩ := hx
  rcases hout : x setup s with ⟨stop | a, t⟩ <;> rw [hout] at hholds hresult
  · rw [SafeAt, bind_of_error hout]
    exact ⟨hholds, by rintro b ⟨⟩⟩
  · rw [SafeAt, bind_of_ok hout]
    exact hf a t hout hholds (hresult a rfl)

theorem Safe.bind {x : Run α} {f : α → Run β} (hx : Safe setup Q U x)
    (hf : ∀ a, U a → Safe setup Q V (f a)) : Safe setup Q V (x >>= f) := fun s hs =>
  (hx s hs).bind fun a t _ ht ha => hf a ha t ht

theorem Safe.mono {V : α → Prop} {x : Run α} (hx : Safe setup Q U x) (huv : ∀ a, U a → V a) :
    Safe setup Q V x := fun s hs => ⟨(hx s hs).1, fun a ha => huv a ((hx s hs).2 a ha)⟩

theorem Safe.pure {a : α} (ha : U a) : Safe setup Q U (pure a : Run α) := by
  refine fun s hs => ⟨hs, ?_⟩
  rintro b ⟨⟩
  exact ha

theorem Safe.throw (stop : Stop) : Safe setup Q U (throw stop : Run α) :=
  fun _ hs => ⟨hs, by rintro b ⟨⟩⟩

theorem Safe.fail (c : Cause) : Safe setup Q U (fail c : Run α) := .throw _

theorem Safe.faulty (f : Fault) : Safe setup Q U (faulty f : Run α) := .throw _

/-- Nothing runs behind a failure. -/
theorem Safe.failBind (c : Cause) (f : α → Run β) :
    Safe setup Q V ((Vimscript.fail c : Run α) >>= f) := fun _ hs => ⟨hs, by rintro b ⟨⟩⟩

theorem Safe.ite {p : Prop} [Decidable p] {x y : Run α} (hx : Safe setup Q U x)
    (hy : Safe setup Q U y) : Safe setup Q U (if p then x else y) := by
  split
  · exact hx
  · exact hy

/-- A check that fails in front of a computation. -/
theorem Safe.failIf {p : Prop} [Decidable p] {c : Cause} {x : Run α} (hx : Safe setup Q U x) :
    Safe setup Q U (if p then (Vimscript.fail c : Run Unit) >>= fun _ => x else x) :=
  .ite (.failBind c _) hx

theorem Safe.result (r : Result α) : Safe setup Q (fun a => r = .ok a) (liftM r : Run α) :=
  fun _ hs => ⟨hs, fun _ ha => ha⟩

theorem Safe.orFail (r : Except Cause α) :
    Safe setup Q (fun a => r = .ok a) (orFail r : Run α) := by
  cases r with
  | ok a => exact .pure rfl
  | error cause => exact .fail cause

theorem Safe.orFault (r : Except Fault α) :
    Safe setup Q (fun a => r = .ok a) (orFault r : Run α) := by
  cases r with
  | ok a => exact .pure rfl
  | error f => exact .faulty f

/-- What follows may look at the state, which has the property. -/
theorem Safe.get {f : State → Run β} (hf : ∀ s, Q s → SafeAt setup Q V (f s) s) :
    Safe setup Q V ((get : Run State) >>= f) := hf

theorem Safe.read {f : Setup → Run β} (hf : Safe setup Q V (f setup)) :
    Safe setup Q V ((read : Run Setup) >>= f) := hf

theorem Safe.attempt {x : Run α} (hx : Safe setup Q U x) :
    Safe setup Q (Gives U) (attempt x) := by
  intro s hs
  refine ⟨(hx s hs).1, ?_⟩
  rintro r ⟨⟩
  exact (hx s hs).2

theorem Safe.ending {r : Except Stop α} (hr : Gives U r) : Safe setup Q U (ending r) :=
  fun _ hs => ⟨hs, hr⟩

/-! ## Elementary computations -/

theorem Safe.spaces {f : Spaces → Run β} (hf : Safe setup Q V (f setup.spaces)) :
    Safe setup Q V (Run.spaces >>= f) := hf

theorem Safe.host {f : Host → Run β} (hf : ∀ h, Safe setup Q V (f h)) :
    Safe setup Q V (Run.host >>= f) := fun s hs => hf s.host s hs

theorem Safe.throwpoint {f : String → Run β} (c : Context)
    (hf : ∀ place, Safe setup Q V (f place)) :
    Safe setup Q V (Run.throwpoint c >>= f) := by
  intro s hs
  rw [SafeAt, bind_of_ok (throwpoint_eq c setup s)]
  exact hf _ s hs

section

variable {P : Policy} (hQ : Guards P Q)
include hQ

theorem SafeAt.op {op : Op α} (hs : Q s) (hop : Op.SafeAt P U op s.heap) :
    SafeAt setup Q U (liftM op : Run α) s := by
  obtain ⟨hholds, hresult⟩ := hop
  exact ⟨hQ.heap (s := s) hs hholds, hresult⟩

theorem Safe.op {op : Op α} (hop : Op.Safe P U op) : Safe setup Q U (liftM op : Run α) :=
  fun s hs => .op hQ hs (hop s.heap (hQ.holds hs))

theorem Safe.onHeap {op : Op α} (hop : Op.Safe P U op) : Safe setup Q U (onHeap op) := .op hQ hop

theorem Safe.reads {op : Op α} (hop : op.Reads) :
    Safe setup Q (fun _ => True) (liftM op : Run α) := .op hQ hop.safe

theorem modifyHost_safe (f : Host → Host) : Safe setup Q (fun _ => True) (modifyHost f) :=
  fun _ hs => ⟨hQ.same hs rfl rfl, fun _ _ => trivial⟩

theorem modifyGetHost_safe (f : Host → α × Host) :
    Safe setup Q (fun _ => True) (modifyGetHost f) :=
  fun _ hs => ⟨hQ.same hs rfl rfl, fun _ _ => trivial⟩

theorem setSite_safe (site : Site) : Safe setup Q (fun _ => True) (setSite site) :=
  fun _ hs => ⟨hQ.same hs rfl rfl, fun _ _ => trivial⟩

theorem trace_safe (parts : List String) : Safe setup Q (fun _ => True) (trace parts) := by
  intro s hs
  rw [SafeAt, trace_eq]
  refine ⟨?_, fun _ _ => trivial⟩
  unfold traced
  split
  · exact hQ.same hs rfl rfl
  · exact hs

theorem showMessage_safe (text : String) : Safe setup Q (fun _ => True) (showMessage text) :=
  fun _ hs => ⟨hQ.same hs rfl rfl, fun _ _ => trivial⟩

/-- What an object holds refers to given objects only. -/
theorem Safe.value (hP : P.Lawful) {r : Ref} {f : Value → Run β}
    (hf : ∀ v, P.Carries v → Safe setup Q V (f v)) :
    Safe setup Q V ((liftM (Op.value r) : Run Value) >>= f) := by
  intro s hs
  exact hf _ (hP.carries r (hQ.holds hs)) s hs

/-- What is known of a value that has been read, and of the object it was read from. -/
theorem Safe.valueOf (hP : P.Lawful) {r : Ref} {f : Value → Run β}
    (hf : ∀ v, P.Carries v → (v.isContainer = true → P.Container r) → Safe setup Q V (f v)) :
    Safe setup Q V ((liftM (Op.value r) : Run Value) >>= f) := by
  intro s hs
  have hh := hQ.holds hs
  exact hf _ (hP.carries r hh) (fun hr => hP.container hh hr) s hs

/-- A check of a lock in front of a computation. -/
theorem Safe.unlocked {r : Ref} {c : Cause} {x : Run β}
    (hx : ∀ h, P.Holds h → h.isLocked r = false → Safe setup Q V x) :
    Safe setup Q V ((liftM (Op.isLocked r) : Run Bool) >>= fun isLocked =>
      if isLocked = true then (Vimscript.fail c : Run Unit) >>= fun _ => x else x) := by
  intro s hs
  rw [SafeAt, bind_of_ok (op_of_ok (Op.isLocked_eq r s.heap))]
  rcases hlocked : s.heap.isLocked r with _ | _
  · exact hx s.heap (hQ.holds hs) hlocked s hs
  · exact ⟨hs, by rintro b ⟨⟩⟩

/-! ## Targets -/

theorem requireList_safe (hP : P.Lawful) (r : Ref) (cause : Cause) :
    Safe setup Q (fun _ => P.Container r) (requireList r cause) := by
  refine .valueOf hQ hP fun v _ hcontainer => ?_
  split
  · exact .pure (hcontainer rfl)
  · exact .fail _

theorem evalBound_safe {M : Machine} {fallback : Int} {bound : Option Expr} {c : Context}
    (hbound : ∀ e, bound = some e → Safe setup Q (fun _ => True) (evalExpr M e c)) :
    Safe setup Q (fun _ => True) (evalBound M fallback bound c) := by
  cases bound with
  | some e => exact .bind (hbound e rfl) fun r _ => .reads hQ (Op.toNumber_reads r)
  | none => exact .pure trivial

/-- Assigning a slice is safe when evaluating its operands is. -/
theorem assignSlice_safeAt (hP : P.Lawful) {M : Machine} {target : Expr} {first last : Option Expr}
    {c : Context} (op : LetOp) (value : Ref)
    (htarget : SafeAt setup Q P.Given (evalExpr M target c) s)
    (hfirst : ∀ e, first = some e → Safe setup Q (fun _ => True) (evalExpr M e c))
    (hlast : ∀ e, last = some e → Safe setup Q (fun _ => True) (evalExpr M e c)) :
    SafeAt setup Q (fun _ => True) (assignSlice M target first last op value c) s := by
  refine htarget.bind fun container t _ ht hcontainer => ?_
  refine Safe.bind (requireList_safe hQ hP container _) (fun items hlist => ?_) t ht
  have hassign : ∀ (length i : Nat) (items : List Ref), (∀ x ∈ items, P.Given x) →
      Safe setup Q (fun _ => True) (liftM (Op.assignRun container op length i items) : Run Unit) :=
    fun _ _ _ hitems => .op hQ (Op.assignRun_safe hP hcontainer hlist op _ _ _ hitems)
  refine .bind (requireList_safe hQ hP value _) fun _ _ =>
    .bind (evalBound_safe hQ hfirst) fun start _ => ?_
  refine .ite (.bind (.orFault _) fun _ _ => .failBind _ _) (.get fun s hs => ?_)
  have hitems := hP.items (hQ.holds hs) value
  cases last with
  | none => exact hassign _ _ _ hitems s hs
  | some e =>
      refine Safe.bind (hlast e rfl) (fun r _ => ?_) s hs
      exact .bind (.reads hQ (Op.toNumber_reads r)) fun _ _ => .bind (.result _) fun _ _ =>
        hassign _ _ _ hitems

end

end Run

end Vimscript
