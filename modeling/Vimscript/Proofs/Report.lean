import Vimscript.Proofs.Run.Result
import Vimscript.Session

/-!
# The report on a run

Running a script goes one of three ways: the source holds no script, its
statements run to their end, or a fault ends them (`ScriptHandled`). The report
is made from the state that was reached.
-/

namespace Vimscript

open Run

/-! ## The ways a script goes -/

namespace State

/-- The state with nothing shown, reported or called in it yet. -/
def cleared (s : State) : State :=
  { s with errors := #[], messages := #[], calls := [], site := none }

/-- The state in which the statements of the next script start. -/
def started (s : State) : State :=
  { s.cleared with scriptCount := s.scriptCount + 1, heap := (s.heap.alloc (.dict {})).2 }

/-- The next script, if it is started under a name. -/
def nextScript (s : State) (name : Option String) : Script where
  id := s.scriptCount + 1
  name := match name with
    | none | some "" => "<script-" ++ toString (s.scriptCount + 1) ++ ">"
    | some n => n
  space := ⟨s.heap.size⟩

/-- The statements of the next script, as they run. -/
def statements (s : State) (program : Program) (name : Option String) : List (Run Signal) :=
  program.body.map (exec machine { script := s.nextScript name })

end State

theorem startScript_eq (name : Option String) (setup : Setup) (s : State) :
    startScript name setup s.cleared = (.ok (s.nextScript name), s.started) := rfl

/-- The kind and the message that an ending from outside the script is reported with. -/
def Stop.wording : Stop → String × String
  | .fault f => (f.kind.word, f.message)
  | _ => ("Exhausted", "out of steps")

theorem internalReport_eq (stop : Stop) (setup : Setup) (s : State) :
    internalReport stop setup s =
      (.ok (.ofFault (traced setup ["internal error", stop.wording.1, stop.wording.2] s)
          stop.wording.2),
        traced setup ["internal error", stop.wording.1, stop.wording.2] s) := by
  unfold internalReport
  cases stop <;> exact bind_of_ok (trace_eq _ setup s)

/-- How running a script goes, with the report on it and the state it leaves. -/
inductive ScriptHandled (setup : Setup) (source : Data) (name : Option String) (s : State) :
    Report → State → Prop where
  | unread {f : Fault} :
      loadScript setup.parser source = .error f →
      ScriptHandled setup source name s (.ofUnread f) s.cleared
  | ran {program : Program} {t : State} :
      loadScript setup.parser source = .ok program →
      runScript (s.statements program name) setup s.started = (.ok (), t) →
      ScriptHandled setup source name s (.ofState t none) t
  | broken {program : Program} {stop : Stop} {t u : State} :
      loadScript setup.parser source = .ok program →
      runScript (s.statements program name) setup s.started = (.error stop, t) →
      u = traced setup ["internal error", stop.wording.1, stop.wording.2] t →
      ScriptHandled setup source name s (.ofFault u stop.wording.2) u

/-- A script that is run always comes to a report. -/
theorem handleScript_goes (source : Data) (name : Option String) (setup : Setup) (s : State) :
    ∃ report u, handleScript source name setup s = (.ok report, u) ∧
      ScriptHandled setup source name s report u := by
  unfold handleScript
  rw [bind_of_ok (a := ()) (t := s.cleared) rfl, bind_of_ok (a := setup) (t := s.cleared) rfl]
  rcases hload : loadScript setup.parser source with f | program
  · exact ⟨_, _, rfl, .unread hload⟩
  · dsimp only
    rw [bind_of_ok (startScript_eq name setup s)]
    rcases hrun : runScript (s.statements program name) setup s.started with ⟨stop | _, t⟩
    · refine ⟨_, _, ?_, .broken hload hrun rfl⟩
      exact (bind_of_ok (attempt_eq hrun)).trans (internalReport_eq stop setup t)
    · exact ⟨_, _, bind_of_ok (attempt_eq hrun), .ran hload hrun⟩

/-- The source holds no script. -/
def Unreadable (setup : Setup) (source : Data) : Prop :=
  ∃ f, loadScript setup.parser source = .error f

/-- The source holds a script, and a fault or lack of fuel ends its run. -/
def BreaksOff (setup : Setup) (source : Data) (name : Option String) (s : State) : Prop :=
  ∃ program stop t, loadScript setup.parser source = .ok program ∧
    runScript (s.statements program name) setup s.started = (.error stop, t)

/-! ## What a report holds -/

namespace Report

theorem messages_ofState (s : State) (value : Option Ref) :
    (ofState s value).messages = s.messages := by
  unfold ofState
  split <;> rfl

theorem errors_ofState (s : State) (value : Option Ref) :
    (ofState s value).errors = s.errors := by
  unfold ofState
  split
  · rename_i hnone
    exact (Array.eq_empty_of_size_eq_zero (by simpa using hnone)).symm
  · rfl

theorem isError_ofState (s : State) (value : Option Ref) :
    (ofState s value).isError = false ↔ s.errors = #[] := by
  unfold ofState
  split
  · rename_i hnone
    exact iff_of_true rfl (Array.eq_empty_of_size_eq_zero (by simpa using hnone))
  · rename_i e hsome
    refine iff_of_false Bool.noConfusion ?_
    intro hempty
    rw [hempty] at hsome
    cases hsome

end Report

end Vimscript
