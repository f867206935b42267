import Vimscript.Proofs.Eval.Calling

/-!
# The stack of calls

Two facts about the names of the functions being called. Nothing the
interpreter does changes the stack for what comes after it, whichever way
it ends: having the same stack is a steady relation, and so every run keeps
it. And the limit on nested calls is a limit on what runs, not only on
what is counted.

The second fact is told by confining computations. `confined name x` does
what `x` does as long as `name` is the innermost call and no more calls are
under way than the setup allows, and stops anywhere else. A call of a
declared function does the same when the binding of its arguments and every
single statement of its body are confined to it (`runDeclared_confined`),
so none of them ever runs beyond the limit; a call that is attempted at the
limit leaves nothing behind but its unused frame (`refused`).
-/

namespace Vimscript

open Run

/-! ## The stack after a run -/

/-- The same functions are being called. -/
def SameCalls (s t : State) : Prop := t.calls = s.calls

theorem sameCalls_steady : Steady SameCalls where
  refl _ := rfl
  trans hst htu := htu.trans hst
  heap _ _ _ := rfl
  registry _ _ _ := rfl
  site _ _ := rfl
  trace _ _ := rfl
  host _ _ _ := rfl
  shown _ _ := rfl
  reported _ _ _ _ := rfl
  call {s t} name h := by
    have hcalls : t.calls = name :: s.calls := h
    change t.calls.tail = s.calls
    rw [hcalls, List.tail_cons]

/-! ## Confined computations -/

/-- A name is that of the innermost call, and no more calls are under way than allowed. -/
def Within (name : String) (setup : Setup) (s : State) : Prop :=
  s.calls.head? = some name ∧ (s.calls.length : Int) ≤ setup.maxDepth

instance (name : String) (setup : Setup) (s : State) : Decidable (Within name setup s) :=
  inferInstanceAs (Decidable (_ ∧ _))

/-- A computation that stops at once unless it is within the call of a function. -/
def confined {α : Type} (name : String) (x : Run α) : Run α := fun setup s =>
  if Within name setup s then x setup s else (.error .exhausted, s)

/-- Two computations that do the same within the call of a function. -/
def AgreeWithin {α : Type} (name : String) (x y : Run α) : Prop :=
  ∀ setup s, Within name setup s → x setup s = y setup s

section

variable {α β : Type} {name : String}

theorem Within.of_sameCalls {setup : Setup} {s t : State} (h : Within name setup s)
    (hst : SameCalls s t) : Within name setup t := by
  unfold Within
  rw [hst]
  exact h

theorem AgreeWithin.refl (x : Run α) : AgreeWithin name x x := fun _ _ _ => rfl

theorem AgreeWithin.confined (x : Run α) : AgreeWithin name (confined name x) x := by
  intro setup s h
  exact if_pos h

theorem AgreeWithin.attempt {x y : Run α} (h : AgreeWithin name x y) :
    AgreeWithin name (attempt x) (attempt y) := by
  intro setup s hs
  simp only [Run.attempt, h setup s hs]

/-- Sequencing keeps agreement, because the first part gives the stack back as it was. -/
theorem AgreeWithin.bind {x y : Run α} {f g : α → Run β} (hxy : AgreeWithin name x y)
    (hy : Keeps SameCalls y) (hfg : ∀ a, AgreeWithin name (f a) (g a)) :
    AgreeWithin name (x >>= f) (y >>= g) := by
  intro setup s hs
  have hcalls := hy setup s
  rcases hout : y setup s with ⟨stop | a, t⟩ <;> rw [hout] at hcalls
  · rw [bind_of_error hout, bind_of_error ((hxy setup s hs).trans hout)]
  · rw [bind_of_ok hout, bind_of_ok ((hxy setup s hs).trans hout)]
    exact hfg a setup t (hs.of_sameCalls hcalls)

theorem runThrough_agreeWithin {f g : Stmt → Run Signal} (hfg : ∀ s, AgreeWithin name (f s) (g s))
    (hg : ∀ s, Keeps SameCalls (g s)) (body : List Stmt) :
    AgreeWithin name (runThrough (body.map f)) (runThrough (body.map g)) := by
  induction body with
  | nil => exact .refl _
  | cons s rest ih =>
      have hreport : ∀ e : ScriptError, AgreeWithin name
          (do report e; runThrough (rest.map f)) (do report e; runThrough (rest.map g)) :=
        fun e => .bind (.refl _) (report_keeps sameCalls_steady e) fun _ => ih
      refine .bind (hfg s).attempt (hg s).attempt fun result => ?_
      split
      · exact ih
      · exact .refl _
      · exact hreport _
      · exact hreport _
      · exact hreport _
      · exact hreport _
      · exact .refl _

/-- Runs computations in order, up to the first that does not end in success. -/
def inOrder : List (Run Signal) → Run Signal
  | [] => return .success
  | x :: rest => do
    match ← x with
    | .success => inOrder rest
    | signal => return signal

theorem execAll_eq_inOrder (M : Machine) (c : Context) (body : List Stmt) :
    execAll M c body = inOrder (body.map (exec M c)) := by
  induction body with
  | nil => rw [execAll]; rfl
  | cons s rest ih =>
      rw [execAll, ih]
      exact (bind_assoc (setSite s.site) (fun _ => perform M c s) _).symm

theorem inOrder_agreeWithin {f g : Stmt → Run Signal} (hfg : ∀ s, AgreeWithin name (f s) (g s))
    (hg : ∀ s, Keeps SameCalls (g s)) (body : List Stmt) :
    AgreeWithin name (inOrder (body.map f)) (inOrder (body.map g)) := by
  induction body with
  | nil => exact .refl _
  | cons s rest ih =>
      refine .bind (hfg s) (hg s) fun signal => ?_
      split
      · exact ih
      · exact .refl _

/-- A call only sees what the computation it runs does within the call. -/
theorem withCall_congr {x y : Run Ref} (h : AgreeWithin name x y) (c : Context) :
    withCall name c x = withCall name c y := by
  funext setup s
  by_cases hfull : setup.maxDepth ≤ s.calls.length
  · rw [withCall_of_full name c x hfull, withCall_of_full name c y hfull]
  · have hwithin : Within name setup { s with calls := name :: s.calls } :=
      ⟨rfl, by simp only [List.length_cons]; omega⟩
    have hroom := Int.not_le.1 hfull
    rw [withCall_of_room name c x hroom, withCall_of_room name c y hroom, h setup _ hwithin]

end

/-! ## Calls of declared functions -/

/-- Runs the body of a function with every statement confined to the call. -/
def runBodyConfined (M : Machine) (d : Declaration) (c : Context) : Run Ref := do
  let statements := d.body.map fun s => confined d.displayName (exec M c s)
  if d.signature.flags.abort then abortValue (← inOrder statements)
  else runThrough statements

/-- Calls a declared function with the binding of its arguments, and every statement of its
body, confined to the call. -/
def runConfined (M : Machine) (d : Declaration) (args : List Ref) (self : Option Ref)
    (lines : Int × Int) : Run Ref := do
  let frame ← makeFrame d self
  let c : Context := { script := d.script, frame := some frame }
  withCall d.displayName c do
    confined d.displayName (bindArguments M d args frame.own.arguments lines c)
    runBodyConfined M d c

section

variable {M : Machine} (hM : M.Keeps SameCalls)
include hM

theorem runBodyConfined_agreeWithin (d : Declaration) (c : Context) :
    AgreeWithin d.displayName (runBodyConfined M d c) (runBody M d c) := by
  have hagree : ∀ s, AgreeWithin d.displayName (confined d.displayName (exec M c s)) (exec M c s) :=
    fun s => .confined (exec M c s)
  have hkeeps : ∀ s, Keeps SameCalls (exec M c s) := fun s => exec_keeps sameCalls_steady hM c s
  unfold runBodyConfined runBody
  split
  · refine .bind ?_ (execAll_keeps sameCalls_steady hM c d.body) fun _ => .refl _
    rw [execAll_eq_inOrder]
    exact inOrder_agreeWithin hagree hkeeps d.body
  · exact runThrough_agreeWithin hagree hkeeps d.body

/-- Arguments are bound, and the statements of a body run, within the call only. -/
theorem runDeclared_confined (d : Declaration) (args : List Ref) (self : Option Ref)
    (lines : Int × Int) : runDeclared M d args self lines = runConfined M d args self lines := by
  refine bind_congr fun frame => (withCall_congr ?_ _).symm
  exact .bind (.confined _) (bindArguments_keeps sameCalls_steady hM d args _ lines _) fun _ =>
    runBodyConfined_agreeWithin hM d _

end

/-! ## Calls at the limit -/

/-- A call gets past all checks but the one on nested calls: it is of a declared function, with
arguments as many and a Dictionary as it needs, and for at least one line. -/
structure Call.Reaches (call : Call) (r : Registry) (d : Declaration) : Prop where
  found : ∃ id name, call.callee = .declared id name ∧ r.declaration? id = some d
  arity : checkArity (r.displayName call.callee) (r.arity call.callee) call.args.length = .ok ()
  self : d.signature.flags.dict = true → call.self.isSome = true
  lines : ∀ first last, call.range = some (first, last) →
    d.signature.flags.range = true ∨ first ≤ last

/-- A state after making a frame that is not going to be used. -/
def unusedFrame (d : Declaration) (self : Option Ref) (s : State) : State :=
  { s with heap := (makeFrame d self s.heap).2 }

/-- The state after a call at the limit. A call line by line has made its result so far and moved
the cursor to the first line by then. -/
def refused (d : Declaration) (call : Call) (s : State) : State :=
  match call.range with
  | none => unusedFrame d call.self s
  | some (first, _) =>
    if d.signature.flags.range then unusedFrame d call.self s
    else unusedFrame d call.self
      { s with heap := (s.heap.alloc (.number 0)).2, host := s.host.setCurrentLine first }

section

variable {M : Machine} {setup : Setup} {s : State} (hfull : setup.maxDepth ≤ s.calls.length)
include hfull

theorem runDeclared_of_full (d : Declaration) (args : List Ref) (self : Option Ref)
    (lines : Int × Int) :
    runDeclared M d args self lines setup s =
      (.error (.ofCause .callDepth), unusedFrame d self s) := by
  have hframe : ∃ frame, (liftM (makeFrame d self) : Run Frame) setup s =
      (.ok frame, unusedFrame d self s) := ⟨_, rfl⟩
  obtain ⟨frame, hframe⟩ := hframe
  rw [runDeclared, bind_of_ok hframe]
  exact withCall_of_full d.displayName _ _ hfull

theorem callDeclared_of_full {d : Declaration} {call : Call}
    (hself : d.signature.flags.dict = true → call.self.isSome = true)
    (hlines : ∀ first last, call.range = some (first, last) →
      d.signature.flags.range = true ∨ first ≤ last) :
    callDeclared M d call setup s = (.error (.ofCause .callDepth), refused d call s) := by
  have hdict : ¬(d.signature.flags.dict = true ∧ call.self.isNone = true) := by
    rintro ⟨hd, hnone⟩
    rw [Option.isNone_iff_eq_none] at hnone
    simpa [hnone] using hself hd
  unfold callDeclared refused
  rw [if_neg hdict]
  rcases hrange : call.range with _ | ⟨first, last⟩
  · simp only []
    rw [bind_of_ok (a := s.host) (t := s) rfl]
    exact runDeclared_of_full hfull d call.args call.self _
  · by_cases hflag : d.signature.flags.range = true
    · simp only [hflag, if_true]
      exact runDeclared_of_full hfull d call.args call.self _
    · -- The first of at least one line is where the call fails.
      have hle := (hlines first last hrange).resolve_left hflag
      obtain ⟨count, hcount⟩ : ∃ count, (last - first + 1).toNat = count + 1 :=
        ⟨(last - first).toNat, by omega⟩
      simp only [hflag, hcount, Bool.false_eq_true, if_false]
      let t : State :=
        { s with heap := (s.heap.alloc (.number 0)).2, host := s.host.setCurrentLine first }
      have hrun := runDeclared_of_full (M := M) (s := t) hfull d call.args call.self (first, last)
      rw [bind_of_ok (t := { s with heap := (s.heap.alloc (.number 0)).2 }) rfl, forLines,
        bind_of_ok (t := t) rfl, bind_of_error hrun]

theorem callFunction_of_full {d : Declaration} {call : Call} (h : call.Reaches s.registry d) :
    callFunction M call setup s = (.error (.ofCause .callDepth), refused d call s) := by
  obtain ⟨id, name, hcallee, hfound⟩ := h.found
  unfold callFunction
  rw [bind_of_ok (a := s.registry) (t := s) rfl, h.arity, bind_of_ok (a := ()) (t := s) rfl,
    hcallee]
  simp only [hfound]
  exact callDeclared_of_full hfull h.self h.lines

end

/-! ## The discipline of the stack -/

/-- Everything a machine evaluates, executes or calls leaves the stack of calls as it was, however
it ends, and calls stay within the limit. -/
structure StackHolds (M : Machine) : Prop where
  expression (e : Expr) (c : Context) : Keeps SameCalls (evalExpr M e c)
  topExpression (e : Expr) (c : Context) : Keeps SameCalls (evalTop M e c)
  statement (c : Context) (s : Stmt) : Keeps SameCalls (exec M c s)
  statements (c : Context) (body : List Stmt) : Keeps SameCalls (execAll M c body)
  byName (scope : Option Scope) (name : Name) (args : List Ref) (self : Option Ref)
    (range : Option (Int × Int)) (c : Context) :
    Keeps SameCalls (callByName M scope name args self range c)
  byFuncref (f : Funcref) (args : List Ref) (range : Option (Int × Int)) (c : Context) :
    Keeps SameCalls (callFuncref M f args range c)
  builtin (b : Builtin) (args : List Ref) (c : Context) : Keeps SameCalls (b.apply M args c)
  call (call : Call) : Keeps SameCalls (callFunction M call)
  /-- Arguments are bound, and the statements of a body run, only while the stack, with the name
  of the function on it, is within the limit. -/
  bounded (d : Declaration) (args : List Ref) (self : Option Ref) (lines : Int × Int) :
    runDeclared M d args self lines = runConfined M d args self lines
  code : Cause.callDepth.code = some "E132"
  /-- A call that finds the stack full evaluates no default and runs no statement. -/
  full (d : Declaration) (call : Call) (setup : Setup) (s : State) :
    setup.maxDepth ≤ s.calls.length → call.Reaches s.registry d →
    callFunction M call setup s = (.error (.ofCause .callDepth), refused d call s)

/-- Whatever the interpreter evaluates, executes or calls, and however that ends, the stack of
calls is afterwards what it was before. Arguments are bound and bodies run only while the stack,
with the name of the function on it, is within the limit; and a call of a declared function that
finds the stack full fails with E132, before a default is evaluated or a statement is run. -/
theorem calls_balanced_and_bounded (n : Nat) : StackHolds (Machine.ofFuel n) := by
  have hR := sameCalls_steady
  have hM := Machine.ofFuel_keeps hR n
  constructor
  case expression => exact fun e c => evalExpr_keeps hR hM e c
  case topExpression => exact fun e c => evalTop_keeps hR hM e c
  case statement => exact fun c s => exec_keeps hR hM c s
  case statements => exact fun c body => execAll_keeps hR hM c body
  case byName =>
    exact fun scope name args self range c => callByName_keeps hR hM scope name args self range c
  case byFuncref => exact fun f args range c => callFuncref_keeps hR hM f args range c
  case builtin => exact fun b args c => Builtin.apply_keeps hR hM b args c
  case call => exact fun call => callFunction_keeps hR hM call
  case bounded => exact fun d args self lines => runDeclared_confined hM d args self lines
  case code => rfl
  case full => exact fun d call setup s hfull h => callFunction_of_full hfull h

/-- A function whose default value and body would both show a message if they ran. -/
def noisy : Declaration :=
  Declaration.make (.text "Noisy") none
    { params := [], defaults := [(.text "x", .call none none (.text "Other") [])] }
    [.echo none .echo [.text none "running"]] { script := default }

/-- A call of it where no call at all is allowed. -/
theorem noisy_call_refused :
    callFunction (Machine.ofFuel 5)
      { callee := .declared 0 "Noisy", args := [], context := { script := default } }
      { spaces := default, maxDepth := 0, parser := none, matcher := fun _ _ => .ok true,
        isTracing := false }
      { registry := { declarations := #[noisy] } } =
    (.error (.ofCause .callDepth),
      unusedFrame noisy none { registry := { declarations := #[noisy] } }) :=
  (calls_balanced_and_bounded 5).full noisy _ _ _ (Int.le_refl 0)
    { found := ⟨0, "Noisy", rfl, rfl⟩, arity := rfl, self := nofun, lines := nofun }

end Vimscript
