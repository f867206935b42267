import Vimscript.Proofs.Eval.Calling
import Vimscript.Proofs.Library.Policy

/-!
# Histories of declared functions

A history is a sequence of events: operations on the declared functions,
each of which may fail, lambdas, statements that are executed by a machine
of any size, and anything else that leaves the functions alone. Every
event is a sequence of operations on the registry
(`FunctionEvent.step_evolves`): for a statement that is an instance of what
every run keeps, since `Evolving` is a steady relation. So what one
operation keeps holds over every history, and the marks of a registry tell
which declarations its history has deleted (`State.after_flagged`).

An operation checks first and changes afterwards. What it reads before the
change may come from the heap, where a Dictionary is to receive the
function; `Run.Atomic` says that a computation which fails has changed
nothing at all.
-/

namespace Vimscript

open Run

/-! ## Operations and events -/

/-- An operation on the declared functions. What is stored has just been built. -/
inductive FunctionEdit where
  | declare (scope : Option Scope) (name : Name) (signature : Signature) (bang : Bool)
      (body : List Stmt) (c : Context)
  | store (d : Declaration) (fresh : d.isDeleted = false) (replace : Bool) (script : Script)
  | declareEntry (dict : Ref) (key : String) (signature : Signature) (bang : Bool)
      (body : List Stmt) (c : Context)
  | delete (scope : Option Scope) (name : Name) (bang : Bool) (script : Script)

/-- Performs an operation. -/
def FunctionEdit.perform : FunctionEdit → Run Unit
  | declare scope name signature bang body c => do
    setRegistry (← (← registry).declare scope name signature bang body c)
  | store d _ replace script => do
    setRegistry (← (← registry).store d replace script)
  | declareEntry dict key signature bang body c =>
    Vimscript.declareEntry dict key signature bang body c
  | delete scope name bang script => do
    setRegistry (← (← registry).delete scope name bang script)

/-- What an operation comes to for the registry. -/
def FunctionEdit.operation : FunctionEdit → Registry.Operation
  | declare scope name signature bang body c => .declare scope name signature bang body c
  | store d fresh replace script => .store d fresh replace script
  | declareEntry _ _ signature _ body c => .declareNumbered signature body c
  | delete scope name bang script => .delete scope name bang script

/-- What may happen to the functions of an interpreter. -/
inductive FunctionEvent where
  | edit (e : FunctionEdit)
  | lambda (params : List Name) (body : Expr) (c : Context)
  /-- A statement is executed by a machine of `fuel` nested steps. -/
  | statement (fuel : Nat) (c : Context) (s : Stmt)
  /-- All but the functions becomes what it is in another state. -/
  | elsewhere (s : State)

/-- The state after an event, however the event ended. -/
def FunctionEvent.step (setup : Setup) : FunctionEvent → State → State
  | edit e, s => (e.perform setup s).2
  | lambda params body c, s => (makeLambda params body c setup s).2
  | statement fuel c stmt, s => (exec (.ofFuel fuel) c stmt setup s).2
  | elsewhere t, s => { t with registry := s.registry }

/-- The state after some events. -/
def State.after (setup : Setup) : List FunctionEvent → State → State
  | [], s => s
  | e :: rest, s => State.after setup rest (e.step setup s)

/-! ## What a history keeps -/

/-- The functions of one state have become those of another. -/
def Evolving (s t : State) : Prop := s.registry.Evolves t.registry

theorem evolving_steady : Steady Evolving where
  refl _ := .refl _
  trans := .trans
  heap _ _ _ := .refl _
  registry _ _ h := h.evolves
  site _ _ := .refl _
  trace _ _ := .refl _
  host _ _ _ := .refl _
  shown _ _ := .refl _
  reported _ _ _ _ := .refl _
  call _ h := h

theorem FunctionEdit.perform_keeps {R : State → State → Prop} (hR : Steady R) (e : FunctionEdit) :
    Keeps R e.perform := by
  cases e with
  | declare scope name signature bang body c =>
      exact changeRegistry_keeps hR (fun r => r.declare_changes scope name signature bang body c)
        (.pure hR _)
  | store d fresh replace script =>
      exact changeRegistry_keeps hR (fun r => r.store_changes fresh replace script) (.pure hR _)
  | declareEntry dict key signature bang body c =>
      exact declareEntry_keeps hR dict key signature bang body c
  | delete scope name bang script =>
      exact changeRegistry_keeps hR (fun r => r.delete_changes scope name bang script) (.pure hR _)

theorem FunctionEvent.step_evolves (setup : Setup) (e : FunctionEvent) (s : State) :
    s.registry.Evolves (e.step setup s).registry := by
  cases e with
  | edit e => exact e.perform_keeps evolving_steady setup s
  | lambda params body c => exact makeLambda_keeps evolving_steady params body c setup s
  | statement fuel c stmt =>
      exact exec_keeps evolving_steady (Machine.ofFuel_keeps evolving_steady fuel) c stmt setup s
  | elsewhere t => exact .refl _

theorem State.after_evolves (setup : Setup) (events : List FunctionEvent) (s : State) :
    s.registry.Evolves (State.after setup events s).registry := by
  induction events generalizing s with
  | nil => exact .refl _
  | cons e rest ih => exact (e.step_evolves setup s).trans (ih (e.step setup s))

/-! ## Operations that succeed, and that fail -/

/-- A computation that fails leaves the state as it was. -/
def Run.Atomic {α : Type} (x : Run α) : Prop :=
  ∀ setup s stop t, x setup s = (.error stop, t) → t = s

/-- What is left to do for a declaration as an entry of a Dictionary once nothing forbids it. -/
def addEntry (dict : Ref) (key : String) (signature : Signature) (body : List Stmt)
    (c : Context) : Run Unit := do
  let callee ← modifyGet fun s => ((s.registry.declareNumbered signature body c).1,
    { s with registry := (s.registry.declareNumbered signature body c).2 })
  let f ← Op.alloc (.funcref { callee, arguments := ← Op.list [], self := some dict })
  Run.onHeap (modify fun h => h.modifyTable dict (·.insert key f))

/-- A declaration as an entry is refused and leaves no trace, or it adds the entry. -/
theorem declareEntry_cases (dict : Ref) (key : String) (signature : Signature) (bang : Bool)
    (body : List Stmt) (c : Context) (setup : Setup) (s : State) :
    (∃ stop, declareEntry dict key signature bang body c setup s = (.error stop, s)) ∨
    (∃ t, s.heap.value dict = .dict t) ∧ declareEntry dict key signature bang body c setup s =
      addEntry dict key signature body c setup s := by
  unfold declareEntry
  rw [bind_of_ok (a := s.heap.value dict) (t := s) rfl]
  have hlock : ∀ {P : Prop}, P → ∀ (x : Run Unit), x = (do
      if ← Op.isLocked dict then fail (.locked key)
      addEntry dict key signature body c) → (∃ stop, x setup s = (.error stop, s)) ∨
      P ∧ x setup s = addEntry dict key signature body c setup s := by
    rintro P hP x rfl
    rw [bind_of_ok (a := s.heap.isLocked dict) (t := s) rfl]
    split
    · exact .inl ⟨_, rfl⟩
    · exact .inr ⟨hP, rfl⟩
  generalize s.heap.value dict = v
  split
  case h_2 => exact .inl ⟨_, rfl⟩
  case h_1 t =>
    have hdict : ∃ t', Value.dict t = .dict t' := ⟨t, rfl⟩
    split
    · exact hlock hdict _ rfl
    · rename_i held _
      rw [bind_of_ok (a := s.heap.value held) (t := s) rfl]
      generalize s.heap.value held = entry
      split
      · split
        · exact .inl ⟨_, rfl⟩
        · exact hlock hdict _ rfl
      · exact .inl ⟨_, rfl⟩

/-- How an operation ends: it fails, deletes nothing and leaves the state as it was, or it makes of
the functions what it comes to. Besides them, only the heap may change. -/
inductive FunctionEdit.Ends (e : FunctionEdit) (s : State) : Except Stop Unit × State → Prop where
  | failed (stop : Stop) : (∀ id, ¬ e.operation.Deletes s.registry id) → Ends e s (.error stop, s)
  | done {t : State} : s.registry.perform e.operation = .ok t.registry →
      t = { s with registry := t.registry, heap := t.heap } → Ends e s (.ok (), t)

theorem FunctionEdit.perform_ends (e : FunctionEdit) (setup : Setup) (s : State) :
    e.Ends s (e.perform setup s) := by
  have hchange : e.Ends s
      ((do setRegistry (← (← registry).perform e.operation) : Run Unit) setup s) := by
    rw [bind_of_ok (a := s.registry) (t := s) rfl]
    cases hr : s.registry.perform e.operation with
    | error stop => exact .failed stop fun id => Registry.not_deletes_of_error hr
    | ok r => exact .done hr rfl
  cases e with
  | declare scope name signature bang body c => exact hchange
  | store d fresh replace script => exact hchange
  | delete scope name bang script => exact hchange
  | declareEntry dict key signature bang body c =>
      rw [FunctionEdit.perform]
      rcases declareEntry_cases dict key signature bang body c setup s with ⟨stop, h⟩ | ⟨-, h⟩
      · rw [h]
        exact .failed stop fun id => not_false
      · rw [h]
        exact .done rfl rfl

/-- An operation on the functions that fails has changed nothing: neither the functions nor
anything else. -/
theorem FunctionEdit.perform_atomic (e : FunctionEdit) : Atomic e.perform := by
  intro setup s stop t h
  have hends := e.perform_ends setup s
  rw [h] at hends
  cases hends
  rfl

/-- An operation on the functions that succeeds does what it is for. -/
theorem FunctionEdit.perform_does {e : FunctionEdit} {setup : Setup} {s t : State}
    (h : e.perform setup s = (.ok (), t)) : e.operation.Does s.registry t.registry ∧
      t = { s with registry := t.registry, heap := t.heap } := by
  have hends := e.perform_ends setup s
  rw [h] at hends
  cases hends with
  | done hperformed hrest => exact ⟨s.registry.perform_does e.operation _ hperformed, hrest⟩

/-- To delete what a name stands for never fails. -/
theorem FunctionEdit.delete_succeeds {scope : Option Scope} {name : Name} {script : Script}
    {space : FunctionSpace} {key : FunctionName} {id : Nat} {s : State}
    (hid : s.registry.Names scope name script space key id) (bang : Bool) (setup : Setup) :
    ∃ t, (FunctionEdit.delete scope name bang script).perform setup s = (.ok (), t) := by
  have hends := (FunctionEdit.delete scope name bang script).perform_ends setup s
  generalize (FunctionEdit.delete scope name bang script).perform setup s = out at hends ⊢
  cases hends with
  | failed stop hno => exact absurd ⟨space, key, hid⟩ (hno id)
  | @done t hperformed hrest => exact ⟨t, rfl⟩

/-! ## Statements that are operations -/

/-- A statement that changes the functions by one operation, which may fail. -/
theorem changeRegistry_registry (o : Registry.Operation) (setup : Setup) (s : State) :
    ((do
      setRegistry (← (← registry).perform o)
      return .success : Run Signal) setup s).2.registry = s.registry.apply o := by
  rw [bind_of_ok (a := s.registry) (t := s) rfl, Registry.apply]
  cases s.registry.perform o <;> rfl

/-- To execute `:function` is to declare the function. -/
theorem FunctionEvent.step_function (fuel : Nat) (c : Context) (mark : Option Mark)
    (scope : Option Scope) (name : Name) (signature : Signature) (bang : Bool) (body : List Stmt)
    (setup : Setup) (s : State) :
    ((statement fuel c (.function mark scope name signature bang body)).step setup s).registry =
      s.registry.apply (.declare scope name signature bang body c) := by
  rw [step, exec, bind_of_ok rfl, perform]
  exact changeRegistry_registry (.declare scope name signature bang body c) setup _

/-- To execute `:delfunction` is to delete the function. -/
theorem FunctionEvent.step_delFunction (fuel : Nat) (c : Context) (mark : Option Mark)
    (scope : Option Scope) (name : Name) (bang : Bool) (setup : Setup) (s : State) :
    ((statement fuel c (.delFunction mark scope name bang)).step setup s).registry =
      s.registry.apply (.delete scope name bang c.script) := by
  rw [step, exec, bind_of_ok rfl, perform]
  exact changeRegistry_registry (.delete scope name bang c.script) setup _

/-! ## What has been deleted -/

/-- An event deletes the declaration with a number. A statement deletes what some operations
delete that come to the same functions. -/
def FunctionEvent.Deletes (setup : Setup) (s : State) (id : Nat) : FunctionEvent → Prop
  | edit e => e.operation.Deletes s.registry id
  | lambda _ _ _ => False
  | statement fuel c stmt => ∃ ops,
    s.registry.after ops = ((statement fuel c stmt).step setup s).registry ∧
      s.registry.DeletedIn id ops
  | elsewhere _ => False

/-- One of some events deletes the declaration with a number. -/
def State.DeletedIn (setup : Setup) (id : Nat) : List FunctionEvent → State → Prop
  | [], _ => False
  | e :: rest, s => e.Deletes setup s id ∨ State.DeletedIn setup id rest (e.step setup s)

theorem FunctionEvent.step_flagged {setup : Setup} {s : State} {id : Nat}
    (hr : s.registry.Sound) (e : FunctionEvent) :
    (e.step setup s).registry.Flagged id ↔ s.registry.Flagged id ∨ e.Deletes setup s id := by
  cases e with
  | edit e =>
      have hends := e.perform_ends setup s
      rw [FunctionEvent.step, FunctionEvent.Deletes]
      generalize e.perform setup s = out at hends ⊢
      cases hends with
      | failed stop hno => exact (or_iff_left (hno id)).symm
      | @done t hperformed hrest =>
          have hresult : s.registry.apply e.operation = t.registry := by
            rw [Registry.apply, hperformed]
          rw [← hresult]
          exact hr.apply_flagged e.operation
  | lambda params body c => exact hr.apply_flagged (.declareLambda params body c)
  | statement fuel c stmt =>
      obtain ⟨ops, hops⟩ := FunctionEvent.step_evolves setup (.statement fuel c stmt) s
      constructor
      · intro hflagged
        rw [← hops, hr.after_flagged] at hflagged
        exact hflagged.imp_right fun hdeleted => ⟨ops, hops, hdeleted⟩
      · intro hdeleted
        rcases hdeleted with hflagged | ⟨ops', hops', hdeleted⟩
        · rw [← hops, hr.after_flagged]
          exact .inl hflagged
        · rw [← hops', hr.after_flagged]
          exact .inr hdeleted
  | elsewhere t => exact (or_iff_left not_false).symm

/-- The marks of a state tell what has been deleted on the way to it. -/
theorem State.after_flagged {setup : Setup} {s : State} {id : Nat} (hr : s.registry.Sound)
    (events : List FunctionEvent) : (State.after setup events s).registry.Flagged id ↔
      s.registry.Flagged id ∨ State.DeletedIn setup id events s := by
  induction events generalizing s with
  | nil => exact (or_iff_left not_false).symm
  | cons e rest ih =>
      have hstep := (e.step_evolves setup s).sound hr
      rw [State.after, ih hstep, e.step_flagged hr, or_assoc]
      rfl

theorem State.after_append (setup : Setup) (events later : List FunctionEvent) (s : State) :
    State.after setup (events ++ later) s =
      State.after setup later (State.after setup events s) := by
  induction events generalizing s with
  | nil => rfl
  | cons e rest ih => exact ih (e.step setup s)

end Vimscript
