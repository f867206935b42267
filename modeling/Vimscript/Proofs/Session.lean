import Vimscript.Proofs.Eval.Try
import Vimscript.Session

/-!
# States of a session

A session starts with the shared namespaces in its heap, and nothing a host
can ask of it removes an object. So the namespace of the editor's variables
is there in every state a session can get to, which is what the theory of
`:try` asks of the state it starts from (`Reached.tryCatch_phases`).
-/

namespace Vimscript

open Run

/-! ## What a host can ask for keeps the objects -/

theorem machine_keeps : machine.Keeps Grows := Machine.ofFuel_keeps grows_steady defaultFuel

theorem startScript_keeps (name : Option String) : Keeps Grows (startScript name) := by
  have hR := grows_steady
  refine .bind hR (.get hR) fun _ => .bind hR (fun _ s => hR.refl s) fun _ => ?_
  exact .bind hR (.op hR (Op.alloc_keeps Heap.grows_extending _)) fun _ => .pure hR _

section

variable {R : State → State → Prop} (hR : Steady R)
include hR

theorem runScript_keeps {body : List (Run Signal)} (hbody : ∀ x ∈ body, Keeps R x) :
    Keeps R (runScript body) := by
  induction body with
  | nil => exact .pure hR _
  | cons x rest ih =>
      have hrest := ih fun y hy => hbody y (List.mem_cons_of_mem x hy)
      refine .bind hR (.attempt (hbody x List.mem_cons_self)) fun result => ?_
      split
      · exact hrest
      · exact hrest
      · exact .bind hR (report_keeps hR _) fun _ => hrest
      · exact .bind hR (report_keeps hR _) fun _ => hrest
      · exact .bind hR (report_keeps hR _) fun _ => hrest
      · exact .bind hR (report_keeps hR _) fun _ => hrest
      · exact .pure hR _
      · exact .throw hR _

/-- The statements of a script at its top level. -/
theorem runStatements_keeps {M : Machine} (hM : M.Keeps R) (c : Context) (body : List Stmt) :
    Keeps R (runScript (body.map (exec M c))) := by
  refine runScript_keeps hR fun x hx => ?_
  obtain ⟨s, -, rfl⟩ := List.mem_map.1 hx
  exact exec_keeps hR hM c s

end

theorem internalReport_keeps (stop : Stop) : Keeps Grows (internalReport stop) := by
  have hR := grows_steady
  exact .bind hR (trace_keeps hR _) fun _ => .bind hR (.get hR) fun _ => .pure hR _

theorem handleScript_keeps (source : Data) (name : Option String) :
    Keeps Grows (handleScript source name) := by
  have hR := grows_steady
  refine .bind hR (fun _ s => hR.refl s) fun _ => .bind hR (.read hR) fun setup => ?_
  split
  · exact .pure hR _
  · refine .bind hR (startScript_keeps name) fun script => .bind hR (.attempt ?_) fun result => ?_
    · exact runStatements_keeps hR machine_keeps _ _
    · split
      · exact .bind hR (.get hR) fun _ => .pure hR _
      · exact internalReport_keeps _

theorem handleExpression_keeps (source : Data) : Keeps Grows (handleExpression source) := by
  have hR := grows_steady
  refine .bind hR (fun _ s => hR.refl s) fun _ => ?_
  split
  · exact .pure hR _
  · refine .bind hR (startScript_keeps none) fun script =>
      .bind hR (.attempt (evalTop_keeps hR machine_keeps _ _)) fun result => ?_
    split
    · exact .bind hR (.get hR) fun _ => .pure hR _
    · exact .bind hR (report_keeps hR _) fun _ => .bind hR (.get hR) fun _ => .pure hR _
    · exact .bind hR (report_keeps hR _) fun _ => .bind hR (.get hR) fun _ => .pure hR _
    · exact internalReport_keeps _

theorem callByHost_keeps (name : String) (args : List Data) :
    Keeps Grows (callByHost name args) := by
  have hR := grows_steady
  exact .bind hR (startScript_keeps none) fun _ =>
    .bind hR (.op hR (Op.ofItems_keeps Heap.grows_extending args)) fun _ =>
      .bind hR (callByName_keeps hR machine_keeps _ _ _ _ _ _) fun _ =>
        .op hR (Op.toData_keeps Heap.grows_extending _)

theorem setByHost_keeps (name : String) (data : Data) : Keeps Grows (setByHost name data) := by
  have hR := grows_steady
  refine .bind hR (spaces_keeps hR) fun sp => ?_
  have hstore : ∀ bare, Keeps Grows (do
      let value ← Op.ofData data
      Run.onHeap (modify fun h => h.modifyTable sp.globals (·.insert bare value)) : Run Unit) :=
    fun bare => .bind hR (.op hR (Op.ofData_keeps Heap.grows_extending data)) fun _ =>
      .onHeap hR (Op.modifyTable_keeps Heap.grows_mutating sp.globals _)
  split
  · exact hstore _
  · exact hstore _
  · exact .faulty hR _

theorem getByHost_keeps (name : String) : Keeps Grows (getByHost name) := by
  have hR := grows_steady
  refine .bind hR (spaces_keeps hR) fun sp => ?_
  obtain ⟨scope, bare⟩ := splitScope name
  refine .bind hR (.get hR) fun s => ?_
  cases (s.heap.table (if scope = some .vim then sp.vim else sp.globals)).get? bare with
  | none => exact .pure hR _
  | some r =>
      exact .bind hR (.op hR (Op.toData_keeps Heap.grows_extending r)) fun _ => .pure hR _

/-! ## Reachable sessions -/

namespace Session

/-- The sessions that a host can get to from the start. -/
inductive Reached (o : Options) : Session → Prop where
  | start : Reached o (start o)
  | script {s : Session} (source : Data) (name : Option String) :
      Reached o s → Reached o (s.run (handleScript source name)).2
  | expression {s : Session} (source : Data) :
      Reached o s → Reached o (s.run (handleExpression source)).2
  | call {s : Session} (name : String) (args : List Data) :
      Reached o s → Reached o (s.run (callByHost name args)).2
  | get {s : Session} (name : String) : Reached o s → Reached o (s.run (getByHost name)).2
  | set {s : Session} (name : String) (data : Data) :
      Reached o s → Reached o (s.run (setByHost name data)).2

theorem hasVim_run {α : Type} {s : Session} {x : Run α} (h : HasVim s.setup s.state)
    (hx : Keeps Grows x) : HasVim (s.run x).2.setup (s.run x).2.state :=
  h.of_grows (hx s.setup s.state)

/-- In every session the variables of the editor are there. -/
theorem Reached.hasVim {o : Options} {s : Session} (h : Reached o s) :
    HasVim s.setup s.state := by
  induction h with
  | start => exact (by decide : 8 < 12)
  | script source name _ ih => exact hasVim_run ih (handleScript_keeps source name)
  | expression source _ ih => exact hasVim_run ih (handleExpression_keeps source)
  | call name args _ ih => exact hasVim_run ih (callByHost_keeps name args)
  | get name _ ih => exact hasVim_run ih (getByHost_keeps name)
  | set name data _ ih => exact hasVim_run ih (setByHost_keeps name data)

/-- In a session, and in every state that a run in it gets to, a `:try` statement ends as its three
phases tell, with any patterns that the matcher accepts. -/
theorem Reached.tryCatch_phases {o : Options} {s : Session} (h : Reached o s) {t : State}
    (hrun : Grows s.state t) (n : Nat) (c : Context) (mark : Option Mark) (body : List Stmt)
    (clauses : List Clause) (cleanup : Option (List Stmt))
    (haccepted : ∀ k ∈ clauses, k.Accepted s.setup.matcher) (outcome : Outcome) (u : State) :
    Ends s.setup (exec (Machine.ofFuel n) c (.tryCatch mark body clauses cleanup)) t outcome u ↔
      ∃ b v p w,
        Ends s.setup (execAll (Machine.ofFuel n) c body)
          (begun (.tryCatch mark body clauses cleanup) t) b v ∧
        Handled s.setup (Machine.ofFuel n) c clauses b v p w ∧
        Cleaned s.setup (Machine.ofFuel n) c cleanup p w outcome u :=
  tryCatch_phases_iff (Machine.ofFuel_keeps grows_steady n) c mark body clauses cleanup s.setup t
    (h.hasVim.of_grows hrun) haccepted outcome u

end Session

end Vimscript
