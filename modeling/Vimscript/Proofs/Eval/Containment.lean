import Vimscript.Proofs.Eval.CallStack
import Vimscript.Proofs.Report
import Vimscript.Proofs.Run.Log

/-!
# Where errors are contained

A function without `abort` and the top level of a script go on after an
error: it is reported, and the next statement runs. So neither of them ever
ends with an error itself. Errors come to this boundary in three forms: by
stopping short, as a signal, and as a `:break` or `:continue` that no loop
took. `complaint?` is the error that each of them counts as, and `:finish`
counts as none.

What a list of statements does at such a boundary is the relation
`Contained`, which also gives the errors that were reported meanwhile, in
order: those that were reported while a statement ran, and then the one the
statement itself ended with. The relation is told apart from the two
functions that compute it; it leads somewhere from every state
(`contained_total`), and wherever it leads, the body of a function
(`runThrough_of_contained`) and a script (`runScript_of_contained`) go.

A call of a function without `abort` can then fail only before its first
statement: by the number of its arguments, the Dictionary it lacks, the
limit on nested calls, or a default value.
-/

namespace Vimscript

open Run

/-! ## Errors of a statement -/

/-- The error that counts as what a statement ended with. A jump that no loop took is one; leaving
with `:return` or `:finish` is none. -/
def complaint? : Except Stop Signal → Option ScriptError
  | .ok .success | .ok (.returning _) => none
  | .ok .breaking => some { cause := .strayBreak }
  | .ok .continuing => some { cause := .strayContinue }
  | .ok (.failed e) | .error (.error e) => some e
  | .error (.finish _) | .error (.fault _) | .error .exhausted => none

/-- An error as it is recorded in a state: with the place that is being executed, unless it has one
already. -/
def ScriptError.placed (e : ScriptError) (s : State) : ScriptError :=
  { e with site := e.site <|> s.site }

/-- Reporting an error never fails, and adds the one error. -/
theorem report_eq (e : ScriptError) (setup : Setup) (s : State) :
    ∃ t, report e setup s = (.ok (), t) ∧ Noted [.reported (e.placed s)] s t := by
  let traced := Run.traced setup ["report_error", e.message] s
  have hsite : traced.site = s.site := by
    simp only [traced, Run.traced]
    split <;> rfl
  have hreport : ∃ h, report e setup s = (.ok (),
      { traced with heap := h, errors := traced.errors.push (e.placed traced),
                    host := (traced.host.showMessage e.message).indicateError }) := by
    rw [report, bind_of_ok (trace_eq _ setup s)]
    exact ⟨_, rfl⟩
  obtain ⟨h, hreport⟩ := hreport
  have hplaced : e.placed traced = e.placed s := by
    unfold ScriptError.placed
    rw [hsite]
  rw [hplaced] at hreport
  exact ⟨_, hreport, (Noted.traced setup _ s).trans (.reported traced (e.placed s) h)⟩

/-! ## Containing errors -/

/-- What becomes of statements that are run in order at a boundary which contains errors: all of
them run, up to one that `leaves` with a value or that stops the run; and after one that fails
its error is reported. `log` are the errors reported meanwhile. -/
inductive Contained (setup : Setup) (leaves : Signal → Option Ref) :
    List (Run Signal) → State → (log : List ScriptError) → Except Stop (Option Ref) → State →
      Prop where
  | ended {s : State} : Contained setup leaves [] s [] (.ok none) s
  | passed {x : Run Signal} {rest : List (Run Signal)} {s t u : State} {signal : Signal}
      {nested log : List ScriptError} {r : Except Stop (Option Ref)} :
      x setup s = (.ok signal, t) → leaves signal = none → complaint? (.ok signal) = none →
      t.errors.toList = s.errors.toList ++ nested →
      Contained setup leaves rest t log r u →
      Contained setup leaves (x :: rest) s (nested ++ log) r u
  | failed {x : Run Signal} {rest : List (Run Signal)} {s t t' u : State}
      {ending : Except Stop Signal} {e : ScriptError} {nested log : List ScriptError}
      {r : Except Stop (Option Ref)} :
      x setup s = (ending, t) → complaint? ending = some e →
      t.errors.toList = s.errors.toList ++ nested → report e setup t = (.ok (), t') →
      Contained setup leaves rest t' log r u →
      Contained setup leaves (x :: rest) s (nested ++ e.placed t :: log) r u
  | left {x : Run Signal} {rest : List (Run Signal)} {s t : State} {signal : Signal} {value : Ref}
      {nested : List ScriptError} :
      x setup s = (.ok signal, t) → leaves signal = some value →
      t.errors.toList = s.errors.toList ++ nested →
      Contained setup leaves (x :: rest) s nested (.ok (some value)) t
  | stopped {x : Run Signal} {rest : List (Run Signal)} {s t : State} {stop : Stop}
      {nested : List ScriptError} :
      x setup s = (.error stop, t) → complaint? (.error stop) = none →
      t.errors.toList = s.errors.toList ++ nested →
      Contained setup leaves (x :: rest) s nested (.error stop) t

section

variable {setup : Setup} {leaves : Signal → Option Ref} {body : List (Run Signal)} {s u : State}
  {log : List ScriptError} {r : Except Stop (Option Ref)}

/-- The list of errors grows by those that are reported meanwhile, and by no others. -/
theorem Contained.errors (h : Contained setup leaves body s log r u) :
    u.errors.toList = s.errors.toList ++ log := by
  induction h with
  | ended => exact (List.append_nil _).symm
  | passed _ _ _ hnested _ ih => rw [ih, hnested, List.append_assoc]
  | @failed x rest s t t' u ending e nested log r _ _ hnested hreport _ ih =>
      obtain ⟨v, hv, hnoted⟩ := report_eq e setup t
      rw [hreport] at hv
      cases hv
      rw [ih, hnoted.errors, hnested, List.append_assoc, List.append_assoc]
      rfl
  | left _ _ hnested => exact hnested
  | stopped _ _ hnested => exact hnested

/-- No error gets past the boundary. -/
theorem Contained.ne_error (h : Contained setup leaves body s log r u) (e : ScriptError) :
    r ≠ .error (.error e) := by
  induction h with
  | ended => exact nofun
  | passed _ _ _ _ _ ih => exact ih
  | failed _ _ _ _ _ ih => exact ih
  | left _ _ _ => exact nofun
  | stopped _ hnone _ =>
      rintro ⟨⟩
      cases hnone

/-- Statements whose errors are only ever appended can be contained from every state. -/
theorem contained_total (hbody : ∀ x ∈ body, Keeps Logs x) (s : State) :
    ∃ log r u, Contained setup leaves body s log r u := by
  induction body generalizing s with
  | nil => exact ⟨[], .ok none, s, .ended⟩
  | cons x rest ih =>
      have hrest := ih fun y hy => hbody y (List.mem_cons_of_mem x hy)
      obtain ⟨notes, hnoted⟩ := hbody x List.mem_cons_self setup s
      rcases hx : x setup s with ⟨ending, t⟩
      rw [hx] at hnoted
      have hnested : t.errors.toList = s.errors.toList ++ errorsOf notes := hnoted.errors
      rcases hcomplaint : complaint? ending with _ | e
      · rcases ending with stop | signal
        · exact ⟨_, _, t, .stopped hx hcomplaint hnested⟩
        · rcases hleft : leaves signal with _ | value
          · obtain ⟨log, r, u, h⟩ := hrest t
            exact ⟨_, r, u, .passed hx hleft hcomplaint hnested h⟩
          · exact ⟨_, _, t, .left hx hleft hnested⟩
      · obtain ⟨t', hreport, -⟩ := report_eq e setup t
        obtain ⟨log, r, u, h⟩ := hrest t'
        exact ⟨_, r, u, .failed hx hcomplaint hnested hreport h⟩

end

theorem statements_contained {M : Machine} (hM : M.Keeps Logs) (c : Context) (body : List Stmt)
    (setup : Setup) (leaves : Signal → Option Ref) (s : State) :
    ∃ log r u, Contained setup leaves (body.map (exec M c)) s log r u := by
  refine contained_total (fun x hx => ?_) s
  obtain ⟨stmt, -, rfl⟩ := List.mem_map.1 hx
  exact exec_keeps logs_steady hM c stmt

/-! ## Bodies of functions -/

/-- The value with which a signal leaves a function. -/
def Signal.returned? : Signal → Option Ref
  | .returning value => some value
  | _ => none

/-- What a function gives, from how its statements came to an end: without `:return`, zero. -/
def functionValue : Except Stop (Option Ref) → Run Ref
  | .ok none => Op.number 0
  | .ok (some value) => return value
  | .error stop => throw stop

section

variable {setup : Setup} {body : List (Run Signal)} {s u : State} {log : List ScriptError}
  {r : Except Stop (Option Ref)}

/-- A body without `abort` goes where its statements lead. -/
theorem runThrough_of_contained (h : Contained setup Signal.returned? body s log r u) :
    runThrough body setup s = functionValue r setup u := by
  induction h with
  | ended => rfl
  | @passed x rest s t u signal nested log r hx hleft hnone _ _ ih =>
      rw [runThrough, bind_of_ok (attempt_eq hx)]
      cases signal with
      | success => exact ih
      | returning _ => cases hleft
      | breaking | continuing | failed _ => cases hnone
  | @failed x rest s t t' u ending e nested log r hx hsome _ hreport _ ih =>
      rw [runThrough, bind_of_ok (attempt_eq hx)]
      unfold complaint? at hsome
      split at hsome
      all_goals cases hsome
      all_goals exact (bind_of_ok hreport).trans ih
  | @left x rest s t signal value nested hx hleft _ =>
      rw [runThrough, bind_of_ok (attempt_eq hx)]
      cases signal with
      | returning _ =>
          cases hleft
          rfl
      | success | breaking | continuing | failed _ => cases hleft
  | @stopped x rest s t stop nested hx hnone _ =>
      rw [runThrough, bind_of_ok (attempt_eq hx)]
      cases stop with
      | error e => cases hnone
      | finish place | fault f | exhausted => rfl

/-! ## Scripts -/

/-- How a script ends, from how its statements came to an end: `:finish` ends it like its last
statement. -/
def scriptEnding : Except Stop (Option Ref) → Except Stop Unit
  | .ok _ | .error (.finish _) => .ok ()
  | .error stop => .error stop

/-- A script goes where its statements lead. No signal leaves it. -/
theorem runScript_of_contained (h : Contained setup (fun _ => none) body s log r u) :
    runScript body setup s = (scriptEnding r, u) := by
  induction h with
  | ended => rfl
  | @passed x rest s t u signal nested log r hx _ hnone _ _ ih =>
      rw [runScript, bind_of_ok (attempt_eq hx)]
      cases signal with
      | success | returning _ => exact ih
      | breaking | continuing | failed _ => cases hnone
  | @failed x rest s t t' u ending e nested log r hx hsome _ hreport _ ih =>
      rw [runScript, bind_of_ok (attempt_eq hx)]
      unfold complaint? at hsome
      split at hsome
      all_goals cases hsome
      all_goals exact (bind_of_ok hreport).trans ih
  | left _ hleft _ => cases hleft
  | @stopped x rest s t stop nested hx hnone _ =>
      rw [runScript, bind_of_ok (attempt_eq hx)]
      cases stop with
      | error e => cases hnone
      | finish place | fault f | exhausted => rfl

theorem scriptEnding_ne_error (h : Contained setup (fun _ => none) body s log r u)
    (e : ScriptError) : scriptEnding r ≠ .error (.error e) := by
  have hne := h.ne_error e
  rcases r with stop | _
  · cases stop with
    | error e' =>
        rintro ⟨⟩
        exact hne rfl
    | finish place | fault f | exhausted => exact nofun
  · exact nofun

end

/-! ## Calls -/

theorem bindEach_eq (arguments : Ref) (pairs : List (String × Ref)) (h : Heap) :
    ∃ h', bindEach arguments pairs h = (.ok (), h') := by
  induction pairs generalizing h with
  | nil => exact ⟨h, rfl⟩
  | cons pair rest ih =>
      obtain ⟨h', hrest⟩ := ih (h.modifyTable arguments (·.insert pair.1 pair.2))
      exact ⟨h', (Op.bind_of_ok rfl).trans hrest⟩

theorem bindExtra_eq (arguments : Ref) (extra : List Ref) (h : Heap) :
    ∃ h', bindExtra arguments extra h = (.ok (), h') :=
  bindEach_eq arguments _ _

/-- Where every optional parameter has an argument, no default value is evaluated. -/
theorem bindDefaults_eq (M : Machine) (arguments : Ref) (c : Context) (setup : Setup) :
    ∀ (defaults : List (Name × Expr)) (left : List Ref) (s : State),
      defaults.length ≤ left.length →
        ∃ h, bindDefaults M arguments c defaults left setup s = (.ok (), { s with heap := h })
  | [], _, s, _ => ⟨s.heap, by rw [bindDefaults]; rfl⟩
  | (name, _) :: rest, value :: left, s, hlen => by
      let t : State :=
        { s with heap := s.heap.modifyTable arguments (·.insert name.asText value) }
      obtain ⟨h, hrest⟩ :=
        bindDefaults_eq M arguments c setup rest left t (Nat.le_of_succ_le_succ hlen)
      refine ⟨h, ?_⟩
      rw [bindDefaults, bind_of_ok (t := t) rfl, hrest]
  | _ :: _, [], _, hlen => absurd hlen (Nat.not_succ_le_zero _)

/-- Arguments that are all given are bound without fail, and nothing but the heap and the trace is
touched. -/
theorem bindArguments_eq (M : Machine) (d : Declaration) {args : List Ref} (arguments : Ref)
    (lines : Int × Int) (c : Context) (setup : Setup) (s : State)
    (hargs : d.signature.params.length + d.signature.defaults.length ≤ args.length) :
    ∃ h trace, bindArguments M d args arguments lines c setup s =
      (.ok (), { s with heap := h, trace := trace }) := by
  obtain ⟨h₁, heach⟩ :=
    bindEach_eq arguments ((d.signature.params.map Data.asText).zip args) s.heap
  have hleft : d.signature.defaults.length ≤ (args.drop d.signature.params.length).length := by
    rw [List.length_drop]
    omega
  obtain ⟨h₂, hdefaults⟩ := bindDefaults_eq M arguments c setup d.signature.defaults _
    { s with heap := h₁ } hleft
  have hlines : ∀ h₃ : Heap, ∃ h trace, (do
      bindArgument arguments "firstline" (← Op.number lines.1)
      bindArgument arguments "lastline" (← Op.number lines.2)
      let bound := ((← get).heap.table arguments).keys
      Run.trace ["Bind arguments", d.name.asText,
        "[" ++ ", ".intercalate (bound.map Text.quoted) ++ "]"] : Run Unit) setup
          { s with heap := h₃ } = (.ok (), { s with heap := h, trace := trace }) := by
    intro h₃
    rw [bind_of_ok rfl, bind_of_ok rfl, bind_of_ok rfl, bind_of_ok rfl, bind_of_ok rfl, trace_eq]
    unfold traced
    split
    · exact ⟨_, _, rfl⟩
    · exact ⟨_, s.trace, rfl⟩
  rw [bindArguments]
  dsimp only
  rw [bind_of_ok (op_of_ok heach), bind_of_ok hdefaults]
  split
  · obtain ⟨h₃, hextra⟩ := bindExtra_eq arguments
      ((args.drop d.signature.params.length).drop d.signature.defaults.length) h₂
    rw [bind_of_ok (op_of_ok hextra)]
    exact hlines h₃
  · exact hlines h₂

/-- One run of a function that contains its errors. Its arguments are bound in a frame of its own,
without anything being reported; then its statements run, with the name of the function on the
stack. -/
inductive RunContained (setup : Setup) (M : Machine) (d : Declaration) (args : List Ref)
    (self : Option Ref) (lines : Int × Int) (s : State) :
    (log : List ScriptError) → Except Stop Ref → State → Prop where
  | intro {frame : Frame} {h : Heap} {bound t u : State} {log : List ScriptError}
      {r : Except Stop (Option Ref)} {result : Except Stop Ref} :
      makeFrame d self s.heap = (.ok frame, h) →
      bindArguments M d args frame.own.arguments lines { script := d.script, frame := some frame }
        setup { s with heap := h, calls := d.displayName :: s.calls } = (.ok (), bound) →
      bound.errors = s.errors →
      Contained setup Signal.returned?
        (d.body.map (exec M { script := d.script, frame := some frame })) bound log r t →
      functionValue r setup t = (result, u) →
      RunContained setup M d args self lines s log
        (result.mapError
          (Stop.leaving (placeOf { script := d.script, frame := some frame } u)))
        { u with calls := u.calls.tail }

/-- Runs for each of `count` lines, with the cursor there, up to one that stops short. -/
inductive LineByLine (once : State → List ScriptError → Except Stop Ref → State → Prop) :
    (count : Nat) → (line : Int) → (last : Ref) → State → (log : List ScriptError) →
      Except Stop Ref → State → Prop where
  | done {line : Int} {last : Ref} {s : State} : LineByLine once 0 line last s [] (.ok last) s
  | next {count : Nat} {line : Int} {last value : Ref} {s t u : State}
      {log log' : List ScriptError} {result : Except Stop Ref} :
      once { s with host := s.host.setCurrentLine line } log (.ok value) t →
      LineByLine once count (line + 1) value t log' result u →
      LineByLine once (count + 1) line last s (log ++ log') result u
  | stopped {count : Nat} {line : Int} {last : Ref} {s t : State} {log : List ScriptError}
      {stop : Stop} :
      once { s with host := s.host.setCurrentLine line } log (.error stop) t →
      LineByLine once (count + 1) line last s log (.error stop) t

/-- A call of a function that contains its errors. One without `range` runs for each line of a
range. -/
def CallContained (setup : Setup) (M : Machine) (d : Declaration) (call : Call) (s : State)
    (log : List ScriptError) (result : Except Stop Ref) (u : State) : Prop :=
  match call.range with
  | none =>
    RunContained setup M d call.args call.self (s.host.currentLine, s.host.currentLine) s log
      result u
  | some (first, last) =>
    if d.signature.flags.range then
      RunContained setup M d call.args call.self (first, last) s log result u
    else
      LineByLine (RunContained setup M d call.args call.self (first, last))
        (last - first + 1).toNat first ⟨s.heap.size⟩
        { s with heap := (s.heap.alloc (.number 0)).2 } log result u

section

variable {setup : Setup} {M : Machine} {d : Declaration} {args : List Ref} {self : Option Ref}
  {lines : Int × Int} {s u : State} {log : List ScriptError} {result : Except Stop Ref}

theorem functionValue_errors {r : Except Stop (Option Ref)} {t : State}
    (h : functionValue r setup t = (result, u)) : u.errors = t.errors := by
  cases r with
  | error stop =>
      cases h
      rfl
  | ok value =>
      cases value <;> cases h <;> rfl

theorem functionValue_ne_error {r : Except Stop (Option Ref)} {t : State}
    (h : functionValue r setup t = (result, u)) {e : ScriptError} (hr : r ≠ .error (.error e)) :
    result ≠ .error (.error e) := by
  cases r with
  | error stop =>
      cases h
      rintro ⟨⟩
      exact hr rfl
  | ok value => cases value <;> cases h <;> exact nofun

theorem RunContained.errors (h : RunContained setup M d args self lines s log result u) :
    u.errors.toList = s.errors.toList ++ log := by
  obtain @⟨frame, heap, bound, t, u, log, r, result, -, -, hbound, hbody, hvalue⟩ := h
  change u.errors.toList = _
  rw [functionValue_errors hvalue, hbody.errors, hbound]

theorem RunContained.ne_error (h : RunContained setup M d args self lines s log result u)
    (e : ScriptError) : result ≠ .error (.error e) := by
  obtain @⟨frame, heap, bound, t, u, log, r, result, -, -, -, hbody, hvalue⟩ := h
  rcases result with stop | value
  · cases stop with
    | error e' => exact absurd rfl (functionValue_ne_error hvalue (hbody.ne_error e'))
    | finish place | fault f | exhausted => exact nofun
  · exact nofun

theorem LineByLine.errors {once : State → List ScriptError → Except Stop Ref → State → Prop}
    (honce : ∀ s log result u, once s log result u → u.errors.toList = s.errors.toList ++ log)
    {count : Nat} {line : Int} {last : Ref} (h : LineByLine once count line last s log result u) :
    u.errors.toList = s.errors.toList ++ log := by
  induction h with
  | done => exact (List.append_nil _).symm
  | next hfirst _ ih => rw [ih, honce _ _ _ _ hfirst, List.append_assoc]
  | stopped hfirst =>
      have hstopped := honce _ _ _ _ hfirst
      exact hstopped

theorem LineByLine.ne_error {once : State → List ScriptError → Except Stop Ref → State → Prop}
    {e : ScriptError}
    (honce : ∀ s log result u, once s log result u → result ≠ .error (.error e))
    {count : Nat} {line : Int} {last : Ref} (h : LineByLine once count line last s log result u) :
    result ≠ .error (.error e) := by
  induction h with
  | done => exact nofun
  | next _ _ ih => exact ih
  | stopped hfirst => exact honce _ _ _ _ hfirst

theorem CallContained.errors {call : Call} (h : CallContained setup M d call s log result u) :
    u.errors.toList = s.errors.toList ++ log := by
  unfold CallContained at h
  split at h
  · exact h.errors
  · split at h
    · exact h.errors
    · have hlines := LineByLine.errors (fun _ _ _ _ hrun => hrun.errors) h
      exact hlines

theorem CallContained.ne_error {call : Call} (h : CallContained setup M d call s log result u)
    (e : ScriptError) : result ≠ .error (.error e) := by
  unfold CallContained at h
  split at h
  · exact h.ne_error e
  · split at h
    · exact h.ne_error e
    · exact LineByLine.ne_error (fun _ _ _ _ hrun => hrun.ne_error e) h

end

section

variable {setup : Setup} {M : Machine} (hM : M.Keeps Logs) {d : Declaration} {args : List Ref}
  (habort : d.signature.flags.abort = false)
  (hargs : d.signature.params.length + d.signature.defaults.length ≤ args.length)
include hM habort hargs

/-- A run that finds room on the stack contains its errors. -/
theorem runDeclared_contained (self : Option Ref) (lines : Int × Int) {s : State}
    (hroom : s.calls.length < setup.maxDepth) :
    ∃ log result u, runDeclared M d args self lines setup s = (result, u) ∧
      RunContained setup M d args self lines s log result u := by
  have hframe : ∃ frame h, makeFrame d self s.heap = (.ok frame, h) := ⟨_, _, rfl⟩
  obtain ⟨frame, h, hframe⟩ := hframe
  let c : Context := { script := d.script, frame := some frame }
  obtain ⟨h', trace, hbind⟩ := bindArguments_eq M d frame.own.arguments lines c setup
    { s with heap := h, calls := d.displayName :: s.calls } hargs
  obtain ⟨log, r, t, hcontained⟩ := statements_contained hM c d.body setup Signal.returned?
    { s with heap := h', trace := trace, calls := d.displayName :: s.calls }
  rcases hvalue : functionValue r setup t with ⟨result, u⟩
  have hrun : (do
      bindArguments M d args frame.own.arguments lines c
      runBody M d c : Run Ref) setup { s with heap := h, calls := d.displayName :: s.calls } =
        (result, u) := by
    rw [bind_of_ok hbind, runBody, if_neg (by rw [habort]; exact Bool.false_ne_true),
      runThrough_of_contained hcontained, hvalue]
  refine ⟨log, _, _, ?_, .intro hframe hbind rfl hcontained hvalue⟩
  rw [runDeclared, bind_of_ok (op_of_ok hframe)]
  change withCall d.displayName c _ setup { s with heap := h } = _
  rw [withCall_of_room (s := { s with heap := h }) d.displayName c _ hroom, hrun]

theorem forLines_contained (hcalls : M.Keeps SameCalls) (self : Option Ref) (lines : Int × Int) :
    ∀ (count : Nat) (line : Int) (last : Ref) {s : State}, s.calls.length < setup.maxDepth →
      ∃ log result u, forLines (runDeclared M d args self lines) count line last setup s =
          (result, u) ∧
        LineByLine (RunContained setup M d args self lines) count line last s log result u
  | 0, _, last, s, _ => ⟨[], .ok last, s, rfl, .done⟩
  | count + 1, line, last, s, hroom => by
      let t : State := { s with host := s.host.setCurrentLine line }
      have ht : t.calls.length < setup.maxDepth := hroom
      obtain ⟨log, result, u, hrun, hcontained⟩ :=
        runDeclared_contained hM habort hargs self lines ht
      have hsame := runDeclared_keeps sameCalls_steady hcalls d args self lines setup t
      rw [hrun] at hsame
      have hu : u.calls.length < setup.maxDepth := by
        rw [show u.calls = t.calls from hsame]
        exact hroom
      rcases result with stop | value
      · refine ⟨log, .error stop, u, ?_, .stopped hcontained⟩
        rw [forLines, bind_of_ok (t := t) rfl, bind_of_error hrun]
      · -- the next line starts on the same stack, so there is room for it as well
        obtain ⟨log', result, v, hrest, hrests⟩ :=
          forLines_contained hcalls self lines count (line + 1) value hu
        refine ⟨log ++ log', result, v, ?_, .next hcontained hrests⟩
        rw [forLines, bind_of_ok (t := t) rfl, bind_of_ok hrun, hrest]

end

/-- A call that gets as far as the first statement of a function without `abort`: of a declared
function, with as many arguments as it accepts and none left to its default value, on a
Dictionary where it needs one, and with room on the stack. -/
structure Call.Enters (call : Call) (setup : Setup) (s : State) (d : Declaration) : Prop where
  found : ∃ id name, call.callee = .declared id name ∧ s.registry.declaration? id = some d
  arity : checkArity (s.registry.displayName call.callee) (s.registry.arity call.callee)
    call.args.length = .ok ()
  given : d.signature.params.length + d.signature.defaults.length ≤ call.args.length
  self : d.signature.flags.dict = true → call.self.isSome = true
  noAbort : d.signature.flags.abort = false
  room : s.calls.length < setup.maxDepth

theorem callFunction_contained {setup : Setup} {M : Machine} (hM : M.Keeps Logs)
    (hcalls : M.Keeps SameCalls) {d : Declaration} {call : Call} {s : State}
    (h : call.Enters setup s d) :
    ∃ log result u, callFunction M call setup s = (result, u) ∧
      CallContained setup M d call s log result u := by
  obtain ⟨id, name, hcallee, hfound⟩ := h.found
  have hdict : ¬(d.signature.flags.dict = true ∧ call.self.isNone = true) := by
    rintro ⟨hd, hnone⟩
    rw [Option.isNone_iff_eq_none] at hnone
    simpa [hnone] using h.self hd
  have hcall : callFunction M call setup s = callDeclared M d call setup s := by
    unfold callFunction
    rw [bind_of_ok (a := s.registry) (t := s) rfl, h.arity, bind_of_ok (a := ()) (t := s) rfl,
      hcallee]
    simp only [hfound]
  rw [hcall]
  unfold callDeclared CallContained
  rw [if_neg hdict]
  rcases call.range with _ | ⟨first, last⟩
  · simp only []
    rw [bind_of_ok (a := s.host) (t := s) rfl]
    exact runDeclared_contained hM h.noAbort h.given call.self _ h.room
  · by_cases hflag : d.signature.flags.range = true
    · simp only [hflag, if_true]
      exact runDeclared_contained hM h.noAbort h.given call.self _ h.room
    · let t : State := { s with heap := (s.heap.alloc (.number 0)).2 }
      have ht : t.calls.length < setup.maxDepth := h.room
      simp only [hflag, Bool.false_eq_true, if_false]
      rw [bind_of_ok (a := ⟨s.heap.size⟩) (t := t) rfl]
      exact forLines_contained hM h.noAbort h.given hcalls call.self _ _ _ _ ht

/-! ## Scripts as a whole -/

/-- The errors of a report are those that its script contained. -/
theorem ScriptHandled.errors {setup : Setup} {source : Data} {name : Option String} {s u t : State}
    {report : Report} {program : Program} {log : List ScriptError} {r : Except Stop (Option Ref)}
    (h : ScriptHandled setup source name s report u)
    (hload : loadScript setup.parser source = .ok program)
    (hbody : Contained setup (fun _ => none) (s.statements program name) s.started log r t) :
    report.errors.toList = log := by
  have hlog : t.errors.toList = log := hbody.errors
  have hrun := runScript_of_contained hbody
  cases h with
  | unread hload' =>
      rw [hload] at hload'
      cases hload'
  | ran hload' hrun' =>
      rw [hload] at hload'
      cases hload'
      rw [hrun] at hrun'
      rw [Report.errors_ofState, ← (Prod.mk.inj hrun').2, hlog]
  | @broken program' stop t' u hload' hrun' hu =>
      rw [hload] at hload'
      cases hload'
      rw [hrun] at hrun'
      obtain rfl : t = t' := (Prod.mk.inj hrun').2
      have htraced :=
        (Noted.traced setup ["internal error", stop.wording.1, stop.wording.2] t).errors
      rw [← hu] at htraced
      exact htraced.trans ((List.append_nil _).trans hlog)

/-! ## The boundary -/

/-- Errors stop at the boundary. A call of a function without `abort` that gets to its body ends
with a value, by `:finish` or by a fault, and never with an error: those of its statements are
recorded once and in order, and the statements behind them still run. So it is with the
statements of a script, where only `:finish` and a fault leave any out, and neither of the two is
recorded as an error of the script. -/
theorem errors_contained (n : Nat) :
    (∀ (d : Declaration) (call : Call) (setup : Setup) (s : State), call.Enters setup s d →
      ∃ log result u, callFunction (Machine.ofFuel n) call setup s = (result, u) ∧
        CallContained setup (Machine.ofFuel n) d call s log result u ∧
        u.errors.toList = s.errors.toList ++ log ∧ ∀ e, result ≠ .error (.error e)) ∧
    (∀ (c : Context) (body : List Stmt) (setup : Setup) (s : State),
      ∃ log r u, Contained setup (fun _ => none) (body.map (exec (Machine.ofFuel n) c)) s log r u ∧
        runScript (body.map (exec (Machine.ofFuel n) c)) setup s = (scriptEnding r, u) ∧
        u.errors.toList = s.errors.toList ++ log ∧ ∀ e, scriptEnding r ≠ .error (.error e)) ∧
    (∀ (source : Data) (name : Option String) (setup : Setup) (s : State) (program : Program),
      loadScript setup.parser source = .ok program →
      ∃ log r t report u,
        Contained setup (fun _ => none) (s.statements program name) s.started log r t ∧
        handleScript source name setup s = (.ok report, u) ∧ report.errors.toList = log) := by
  have hM := Machine.ofFuel_keeps logs_steady n
  refine ⟨?_, ?_, ?_⟩
  · intro d call setup s henters
    obtain ⟨log, result, u, hcall, hcontained⟩ :=
      callFunction_contained hM (Machine.ofFuel_keeps sameCalls_steady n) henters
    exact ⟨log, result, u, hcall, hcontained, hcontained.errors, hcontained.ne_error⟩
  · intro c body setup s
    obtain ⟨log, r, u, hcontained⟩ := statements_contained hM c body setup (fun _ => none) s
    exact ⟨log, r, u, hcontained, runScript_of_contained hcontained, hcontained.errors,
      scriptEnding_ne_error hcontained⟩
  · intro source name setup s program hload
    obtain ⟨log, r, t, hcontained⟩ :=
      statements_contained (Machine.ofFuel_keeps logs_steady defaultFuel)
        { script := s.nextScript name } program.body setup (fun _ => none) s.started
    obtain ⟨report, u, hrun, hhandled⟩ := handleScript_goes source name setup s
    exact ⟨log, r, t, report, u, hcontained, hrun, hhandled.errors hload hcontained⟩

/-- A function that fails in two ways before it returns. -/
def careless : Declaration :=
  Declaration.make (.text "Careless") none { params := [] }
    [.throw none (.text none "boom"), .breaking, .returning none none] { script := default }

/-- A call of it is no error to its caller, and a script that is only `:finish` comes to its end. -/
theorem careless_call_contained :
    let call : Call :=
      { callee := .declared 0 "Careless", args := [], context := { script := default } }
    let setup : Setup :=
      { spaces := default, maxDepth := 1, parser := none, matcher := fun _ _ => .ok true,
        isTracing := false }
    let s : State := { registry := { declarations := #[careless] } }
    let source : Data := .list [.map [(.text "tag", .text "finish")]]
    (∃ log result u, callFunction (Machine.ofFuel 5) call setup s = (result, u) ∧
      CallContained setup (Machine.ofFuel 5) careless call s log result u ∧
      u.errors.toList = s.errors.toList ++ log ∧ ∀ e, result ≠ .error (.error e)) ∧
    (∃ log r t report u,
      Contained setup (fun _ => none) (s.statements { body := [.finish] } none) s.started log r t ∧
      handleScript source none setup s = (.ok report, u) ∧ report.errors.toList = log) := by
  intro call setup s source
  have henters : call.Enters setup s careless :=
    { found := ⟨0, "Careless", rfl, rfl⟩, arity := rfl, given := Nat.le_refl 0, self := nofun,
      noAbort := rfl, room := by decide }
  have hload : loadScript setup.parser source = .ok { body := [.finish] } := rfl
  exact ⟨(errors_contained 5).1 careless call setup s henters,
    (errors_contained 5).2.2 source none setup s { body := [.finish] } hload⟩

end Vimscript
