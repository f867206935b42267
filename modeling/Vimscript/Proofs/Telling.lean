import Vimscript.Proofs.Eval.Containment
import Vimscript.Proofs.Session

/-!
# What a report tells of a run

The report is made from the state that was reached, so it tells what the
notes of the run left there, and as every run starts with empty lists, it
tells nothing else. The host has been shown the same notes, one text for
each. That no error is missing is a matter of the boundary that contains
errors: the errors among the notes are the log of `Contained`, in which each
statement that fails has its place.
-/

namespace Vimscript

open Run

/-! ## Notes and reports -/

/-- Between two states the host was let know exactly what a report tells: each text it was shown is
a message of the report or an error of it, in order, and each of the errors was counted. -/
structure Report.Tells (report : Report) (notes : List Note) (s u : State) : Prop where
  messages : report.messages.toList = messagesOf notes
  errors : report.errors.toList = errorsOf notes
  log : u.host.messages.toList = s.host.messages.toList ++ notes.map Note.text
  count : u.host.errorCount = s.host.errorCount + report.errors.size

/-- A report that is made from what a run left in lists that were empty at its start. -/
theorem Noted.tells {notes : List Note} {s u : State} (h : Noted notes s.started u)
    (hk : s.host.kind ≠ .minimal) {report : Report} (hmessages : report.messages = u.messages)
    (herrors : report.errors = u.errors) : report.Tells notes s u where
  messages := by
    rw [hmessages, h.messages]
    exact List.nil_append _
  errors := by
    rw [herrors, h.errors]
    exact List.nil_append _
  log := h.log
  count := by
    have hsize : u.errors.size = (errorsOf notes).length := by
      rw [← Array.length_toList, h.errors]
      exact congrArg List.length (List.nil_append _)
    rw [herrors, hsize]
    exact h.count hk

theorem statements_noted {program : Program} {name : Option String} {setup : Setup} {s t : State}
    {r : Except Stop Unit}
    (h : runScript (s.statements program name) setup s.started = (r, t)) :
    ∃ notes, Noted notes s.started t := by
  have hlogs : Keeps Logs (runScript (s.statements program name)) :=
    runStatements_keeps logs_steady (Machine.ofFuel_keeps logs_steady defaultFuel) _ _
  have hthis := hlogs setup s.started
  rwa [h] at hthis

section

variable {setup : Setup} {source : Data} {name : Option String} {s u : State} {report : Report}

theorem ScriptHandled.tells (h : ScriptHandled setup source name s report u)
    (hk : s.host.kind ≠ .minimal) : ∃ notes, report.Tells notes s u := by
  cases h with
  | unread _ => exact ⟨[], rfl, rfl, (List.append_nil _).symm, rfl⟩
  | ran _ hrun =>
      obtain ⟨notes, hnoted⟩ := statements_noted hrun
      exact ⟨notes, hnoted.tells hk (Report.messages_ofState u none)
        (Report.errors_ofState u none)⟩
  | broken _ hrun hu =>
      obtain ⟨notes, hnoted⟩ := statements_noted hrun
      subst hu
      exact ⟨_, (hnoted.trans (.traced setup _ _)).tells hk rfl rfl⟩

/-- A report of success says that nothing at all went wrong. -/
theorem ScriptHandled.isError_iff (h : ScriptHandled setup source name s report u) :
    report.isError = false ↔
      report.errors = #[] ∧ ¬Unreadable setup source ∧ ¬BreaksOff setup source name s := by
  cases h with
  | unread hload => exact iff_of_false Bool.noConfusion fun h => h.2.1 ⟨_, hload⟩
  | ran hload hrun =>
      have hread : ¬Unreadable setup source := by
        rintro ⟨f, hf⟩
        rw [hload] at hf
        cases hf
      have hwhole : ¬BreaksOff setup source name s := by
        rintro ⟨program, stop, t, hload', hrun'⟩
        rw [hload] at hload'
        cases hload'
        rw [hrun] at hrun'
        cases hrun'
      rw [Report.isError_ofState, Report.errors_ofState]
      exact ⟨fun h => ⟨h, hread, hwhole⟩, fun h => h.1⟩
  | broken hload hrun _ => exact iff_of_false Bool.noConfusion fun h => h.2.2 ⟨_, _, _, hload, hrun⟩

end

/-- Messages and errors are only ever added at the end. -/
def Appends (s t : State) : Prop :=
  s.errors.toList <+: t.errors.toList ∧ s.messages.toList <+: t.messages.toList

theorem Run.Keeps.appends {α : Type} {x : Run α} (h : Keeps Logs x) : Keeps Appends x := by
  intro setup s
  obtain ⟨notes, hnoted⟩ := h setup s
  exact ⟨⟨_, hnoted.errors.symm⟩, ⟨_, hnoted.messages.symm⟩⟩

/-! ## Everything is told once -/

/-- A script has been run, and its report tells what the notes of the run are: no more than the
host was let know, and nothing less. -/
structure ScriptTold (setup : Setup) (source : Data) (name : Option String) (s : State)
    (report : Report) (notes : List Note) (u : State) : Prop where
  ran : handleScript source name setup s = (.ok report, u)
  tells : report.Tells notes s u
  /-- A report of success is one without errors, on a source that was read and run to its end. -/
  isError_iff : report.isError = false ↔
    report.errors = #[] ∧ ¬Unreadable setup source ∧ ¬BreaksOff setup source name s
  /-- The errors among the notes are those that the top level contained: what was reported while a
  statement ran, then the error it ended with, and so on for the next one. -/
  complete {program : Program} : loadScript setup.parser source = .ok program →
    ∃ r t, Contained setup (fun _ => none) (s.statements program name) s.started
      (errorsOf notes) r t

/-- Nothing that is shown or reported is lost, and nothing is told twice. -/
structure TellsAll (source : Data) (name : Option String) (setup : Setup) (s : State) : Prop where
  script : ∃ report notes u, ScriptTold setup source name s report notes u
  /-- To show a message always succeeds and makes one note of it. -/
  shown (text : String) (setup : Setup) (s : State) :
    ∃ t, showMessage text setup s = (.ok (), t) ∧ Noted [.shown text] s t
  /-- To report an error always succeeds and makes one note of it. -/
  reported (e : ScriptError) (setup : Setup) (s : State) :
    ∃ t, Run.report e setup s = (.ok (), t) ∧ Noted [.reported (e.placed s)] s t
  topLevel (n : Nat) (c : Context) (body : List Stmt) :
    Keeps Appends (runScript (body.map (exec (Machine.ofFuel n) c)))
  statement (n : Nat) (c : Context) (stmt : Stmt) : Keeps Appends (exec (Machine.ofFuel n) c stmt)
  expression (n : Nat) (e : Expr) (c : Context) :
    Keeps Appends (evalExpr (Machine.ofFuel n) e c)
  builtin (n : Nat) (b : Builtin) (args : List Ref) (c : Context) :
    Keeps Appends (b.apply (Machine.ofFuel n) args c)
  call (n : Nat) (call : Call) : Keeps Appends (callFunction (Machine.ofFuel n) call)

theorem handleScript_told (source : Data) (name : Option String) (setup : Setup) (s : State)
    (hk : s.host.kind ≠ .minimal) :
    ∃ report notes u, ScriptTold setup source name s report notes u := by
  obtain ⟨report, u, hrun, hhandled⟩ := handleScript_goes source name setup s
  obtain ⟨notes, htells⟩ := hhandled.tells hk
  refine ⟨report, notes, u, hrun, htells, hhandled.isError_iff, fun {program} hload => ?_⟩
  obtain ⟨log, r, t, hcontained⟩ :=
    statements_contained (Machine.ofFuel_keeps logs_steady defaultFuel)
      { script := s.nextScript name } program.body setup (fun _ => none) s.started
  have hlog : errorsOf notes = log :=
    htells.errors.symm.trans (hhandled.errors hload hcontained)
  rw [hlog]
  exact ⟨r, t, hcontained⟩

/-- Whatever the source and whichever way its run ends, there is a report; it tells each message and
each error that the host was let know of, once and in order; the errors are those that the
statements of the script came to; and it is one of success just when there were none, the source
was read and its run did not break off. Meanwhile every statement, expression and call only adds to
the messages and errors, at the end. -/
theorem handleScript_tells_all (source : Data) (name : Option String) (setup : Setup) (s : State)
    (hk : s.host.kind ≠ .minimal) : TellsAll source name setup s := by
  have hR := logs_steady
  have hM := Machine.ofFuel_keeps hR
  constructor
  case script => exact handleScript_told source name setup s hk
  case shown => exact fun text setup s => ⟨_, rfl, .shown s text⟩
  case reported => exact fun e setup s => report_eq e setup s
  case topLevel => exact fun n c body => (runStatements_keeps hR (hM n) c body).appends
  case statement => exact fun n c stmt => (exec_keeps hR (hM n) c stmt).appends
  case expression => exact fun n e c => (evalExpr_keeps hR (hM n) e c).appends
  case builtin => exact fun n b args c => (Builtin.apply_keeps hR (hM n) b args c).appends
  case call => exact fun n call => (callFunction_keeps hR (hM n) call).appends

/-- A script that is one `:break` outside a loop, on a host that has shown a message before. -/
theorem strayBreak_told :
    let source : Data := .list [.map [(.text "tag", .text "break")]]
    let setup : Setup :=
      { spaces := default, maxDepth := 100, parser := none, matcher := fun _ _ => .ok true,
        isTracing := false }
    let s : State := { host := { kind := .buffer, messages := #["earlier"] } }
    ∃ report notes u, ScriptTold setup source none s report notes u :=
  (handleScript_tells_all _ none _ _ (by decide)).script

end Vimscript
