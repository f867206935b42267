import Vimscript.Proofs.Eval.Keeping
import Vimscript.Session

/-!
# Which signals a statement can end with

`:break` and `:continue` are for the loop around them and `:return` is for
the function around it. None of the three gets past what it is for: a
loop ends with neither of the first two, whatever its body does; a
statement that has none of them in it ends with none; and outside a
function there is no `:return` at all.

The ways out of a statement can be read off its tree: `Stmt.exits` lists
the jumps in it that no loop inside the statement catches, and `:execute`,
of which the tree does not tell what it runs. One induction over statements
shows that a statement ends with no other signal than its exits allow
(`perform_yields`), for any predicate on signals that the exits permit.
-/

namespace Vimscript

open Run

/-! ## Exits -/

/-- A way out of a statement other than to its end. -/
inductive Exit where
  | breaking
  | continuing
  | returning
  /-- Whatever a text that is executed does. -/
  | executing
deriving Repr, DecidableEq

/-- Whether an exit leaves the loop around it. -/
def Exit.leavesLoop : Exit → Bool
  | .breaking | .continuing => false
  | .returning | .executing => true

mutual

/-- The exits of a statement. Bodies of functions are not run where they are declared. -/
def Stmt.exits : Stmt → List Exit
  | .execute _ _ => [.executing]
  | .conditional _ branches otherwise => exitsOfBranches branches ++ exitsOfOption otherwise
  | .whileLoop _ _ body => (exitsOfAll body).filter Exit.leavesLoop
  | .forLoop _ _ _ body => (exitsOfAll body).filter Exit.leavesLoop
  | .forUnpack _ _ _ body => (exitsOfAll body).filter Exit.leavesLoop
  | .tryCatch _ body clauses cleanup =>
    exitsOfAll body ++ exitsOfClauses clauses ++ exitsOfOption cleanup
  | .returning _ _ => [.returning]
  | .breaking => [.breaking]
  | .continuing => [.continuing]
  | _ => []

/-- The exits of statements in order. -/
def exitsOfAll : List Stmt → List Exit
  | [] => []
  | s :: rest => s.exits ++ exitsOfAll rest

/-- The exits of statements that may be missing. -/
def exitsOfOption : Option (List Stmt) → List Exit
  | none => []
  | some body => exitsOfAll body

/-- The exits of branches. -/
def exitsOfBranches : List Branch → List Exit
  | [] => []
  | .mk _ body :: rest => exitsOfAll body ++ exitsOfBranches rest

/-- The exits of clauses. -/
def exitsOfClauses : List Clause → List Exit
  | [] => []
  | .mk _ body :: rest => exitsOfAll body ++ exitsOfClauses rest

end

/-- A predicate that holds of every signal that exits can give. -/
structure Permits (Q : Signal → Prop) (M : Machine) (c : Context) (exits : List Exit) : Prop where
  success : Q .success
  failed (e : ScriptError) : Q (.failed e)
  breaking : .breaking ∈ exits → Q .breaking
  continuing : .continuing ∈ exits → Q .continuing
  returning (r : Ref) : .returning ∈ exits → c.inFunction = true → Q (.returning r)
  executing (body : List Stmt) : .executing ∈ exits → Yields Q (M.execute body c)

/-! ## Loops -/

/-- A signal that a loop swallows, or else one with a property. -/
def InLoop (Q : Signal → Prop) (signal : Signal) : Prop :=
  signal = .breaking ∨ signal = .continuing ∨ Q signal

section

variable {Q : Signal → Prop} (hsuccess : Q .success)
include hsuccess

theorem whileLoop_yields {condition : Run Bool} {body : Run Signal}
    (hbody : Yields (InLoop Q) body) : ∀ fuel, Yields Q (whileLoop condition body fuel)
  | 0 => .throw _
  | fuel + 1 => by
      refine .after fun b => .ite (.bind hbody fun signal hsignal => ?_) (.pure hsuccess)
      cases signal with
      | success | continuing => exact whileLoop_yields hbody fuel
      | breaking => exact .pure hsuccess
      | returning _ | failed _ => exact .pure (by simpa [InLoop] using hsignal)

theorem forText_yields {turn : Ref → Run Signal} (hturn : ∀ r, Yields (InLoop Q) (turn r))
    (text : List Char) : Yields Q (forText turn text) := by
  induction text with
  | nil => exact .pure hsuccess
  | cons ch rest ih =>
      refine .after fun r => .bind (hturn r) fun signal hsignal => ?_
      cases signal with
      | success | continuing => exact ih
      | breaking => exact .pure hsuccess
      | returning _ | failed _ => exact .pure (by simpa [InLoop] using hsignal)

theorem forList_yields {again : Run Ref} {turn : Ref → Run Signal}
    (hturn : ∀ r, Yields (InLoop Q) (turn r)) :
    ∀ fuel list i, Yields Q (forList again turn fuel list i)
  | 0, _, _ => .throw _
  | fuel + 1, list, i => by
      refine .after fun s => ?_
      split
      · exact .pure hsuccess
      · refine .bind (hturn _) fun signal hsignal => ?_
        cases signal with
        | success | continuing =>
            refine .after fun next => .after fun v => ?_
            split
            · exact forList_yields hturn fuel next (i + 1)
            · exact .fail _
        | breaking => exact .pure hsuccess
        | returning _ | failed _ => exact .pure (by simpa [InLoop] using hsignal)

theorem forEach_yields {again : Run Ref} {turn : Ref → Run Signal}
    (hturn : ∀ r, Yields (InLoop Q) (turn r)) (fuel : Nat) :
    Yields Q (forEach again turn fuel) := by
  refine .after fun first => .after fun v => ?_
  split
  · exact forText_yields hsuccess hturn _
  · exact .faulty _
  · exact forList_yields hsuccess hturn fuel first 0
  · exact .fail _

end

/-! ## Exceptions -/

section

variable {Q : Signal → Prop}

theorem orderly_yields {result : Except Stop Signal} (h : Gives Q result) :
    Yields (Gives Q) (orderly result) := by
  cases result with
  | ok signal => exact .pure h
  | error stop => exact .ite (.pure (gives_error Q stop)) (.throw _)

theorem handle_yields (e : ScriptError) {handler : Run Signal} (hhandler : Yields Q handler)
    (c : Context) : Yields (Gives Q) (handle e handler c) :=
  .after fun _ => .after fun _ => .after fun _ => .bind hhandler.attempt fun _ hresult =>
    .after fun _ => .pure hresult

theorem handleBy_yields {handlers : List Handler} (hhandlers : ∀ h ∈ handlers, Yields Q h.body)
    (e : ScriptError) (c : Context) : Yields (Gives Q) (handleBy handlers e c) := by
  refine .bind (findHandler_yields e.message handlers) fun found hfound => ?_
  cases found with
  | none => exact .pure (gives_error Q _)
  | some handler =>
      obtain ⟨h, hh, rfl⟩ := hfound handler rfl
      exact .bind (handle_yields e (hhandlers h hh) c) fun _ hresult => orderly_yields hresult

theorem tryBody_yields {body : Run Signal} {handlers : List Handler} (hbody : Yields Q body)
    (hhandlers : ∀ h ∈ handlers, Yields Q h.body) (c : Context) :
    Yields (Gives Q) (tryBody body handlers c) := by
  refine .bind hbody.attempt fun result hresult => ?_
  split
  · exact handleBy_yields hhandlers _ c
  · exact handleBy_yields hhandlers _ c
  · exact orderly_yields hresult

theorem tryWith_yields {body : Run Signal} {handlers : List Handler} {cleanup : Option (Run Signal)}
    (hbody : Yields Q body) (hhandlers : ∀ h ∈ handlers, Yields Q h.body)
    (hcleanup : ∀ x, cleanup = some x → Yields Q x) (c : Context) :
    Yields Q (tryWith body handlers cleanup c) := by
  refine .bind (tryBody_yields hbody hhandlers c) fun result hresult => ?_
  cases cleanup with
  | none => exact .ending hresult
  | some final =>
      refine .bind (hcleanup final rfl) fun signal hsignal => ?_
      split
      · exact .ending hresult
      · exact .pure hsignal

end

/-! ## Statements -/

namespace Permits

variable {Q : Signal → Prop} {M : Machine} {c : Context} {exits others : List Exit}

theorem mono (h : Permits Q M c exits) (hsub : ∀ x ∈ others, x ∈ exits) :
    Permits Q M c others where
  success := h.success
  failed := h.failed
  breaking hx := h.breaking (hsub _ hx)
  continuing hx := h.continuing (hsub _ hx)
  returning r hx := h.returning r (hsub _ hx)
  executing body hx := h.executing body (hsub _ hx)

theorem left (h : Permits Q M c (exits ++ others)) : Permits Q M c exits :=
  h.mono fun _ hx => List.mem_append_left _ hx

theorem right (h : Permits Q M c (exits ++ others)) : Permits Q M c others :=
  h.mono fun _ hx => List.mem_append_right _ hx

/-- Inside a loop the two jumps that the loop catches are permitted as well. -/
theorem inLoop (h : Permits Q M c (exits.filter Exit.leavesLoop)) :
    Permits (InLoop Q) M c exits where
  success := .inr (.inr h.success)
  failed e := .inr (.inr (h.failed e))
  breaking _ := .inl rfl
  continuing _ := .inr (.inl rfl)
  returning r hx hc := .inr (.inr (h.returning r (List.mem_filter.2 ⟨hx, rfl⟩) hc))
  executing body hx setup s signal t hout :=
    .inr (.inr (h.executing body (List.mem_filter.2 ⟨hx, rfl⟩) setup s signal t hout))

end Permits

section

variable {M : Machine} {c : Context}

theorem returnValue_yields {Q : Signal → Prop} (h : Permits Q M c [.returning])
    (value : Option Expr) : Yields Q (returnValue M value c) := by
  unfold returnValue
  cases hc : c.inFunction with
  | false => exact .bind (P := fun _ => False) (.fail _) nofun
  | true =>
      have hQ : ∀ r, Q (.returning r) := fun r => h.returning r List.mem_cons_self hc
      cases value with
      | some e => exact .after fun r => .pure (hQ r)
      | none => exact .after fun r => .pure (hQ r)

theorem echo_yields {Q : Signal → Prop} (hsuccess : Q .success) (kind : EchoKind)
    (args : List Expr) : Yields Q (echo M kind args c) := by
  refine .after fun text => ?_
  cases kind with
  | error => exact .fail _
  | echo | message => exact .after fun _ => .pure hsuccess

theorem callStatement_yields {Q : Signal → Prop} (hsuccess : Q .success) (e : Expr)
    (range : Option (Expr × Expr)) : Yields Q (callStatement M e range c) := by
  unfold callStatement
  split
  · exact .after fun _ => .after fun _ => .pure hsuccess
  · exact .after fun _ => .after fun _ => .after fun _ => .after fun _ => .after fun _ =>
      .after fun _ => .pure hsuccess

theorem hostCommand_yields {Q : Signal → Prop} (hsuccess : Q .success)
    (hfailed : ∀ e, Q (.failed e)) (name : Name) (argument : String) (bang : Bool) :
    Yields Q (hostCommand name argument bang) := by
  refine .after fun _ => .after fun answer => ?_
  split
  · exact .pure hsuccess
  · exact .pure (hfailed _)
  · exact .fail _

mutual

/-- A statement ends with no other signal than its exits permit. -/
theorem perform_yields {Q : Signal → Prop} :
    ∀ s : Stmt, Permits Q M c s.exits → Yields Q (perform M c s)
  | .assign _ target op value, h => by
      rw [perform]; exact .after fun _ => .after fun _ => .pure h.success
  | .unlet _ targets bang, h => by rw [perform]; exact .after fun _ => .pure h.success
  | .lock _ targets depth, h => by rw [perform]; exact .after fun _ => .pure h.success
  | .unlock _ targets depth, h => by rw [perform]; exact .after fun _ => .pure h.success
  | .echo _ kind args, h => by rw [perform]; exact echo_yields h.success kind args
  | .call _ e range, h => by rw [perform]; exact callStatement_yields h.success e range
  | .execute _ args, h => by
      rw [perform]
      rw [Stmt.exits] at h
      exact .after fun _ => .after fun _ => .after fun _ => .after fun body =>
        h.executing body List.mem_cons_self
  | .conditional _ branches otherwise, h => by
      rw [perform]
      rw [Stmt.exits] at h
      exact execBranches_yields branches h.left (execOption_yields otherwise h.right)
  | .whileLoop _ condition body, h => by
      rw [perform]
      rw [Stmt.exits] at h
      exact whileLoop_yields h.success (execAll_yields body h.inLoop) M.fuel
  | .forLoop _ target iterable body, h => by
      rw [perform]
      rw [Stmt.exits] at h
      exact forEach_yields h.success (fun _ => .after fun _ => execAll_yields body h.inLoop) M.fuel
  | .forUnpack _ targets iterable body, h => by
      rw [perform]
      rw [Stmt.exits] at h
      exact forEach_yields h.success (fun _ => .after fun _ => execAll_yields body h.inLoop) M.fuel
  | .tryCatch _ body clauses cleanup, h => by
      rw [perform]
      rw [Stmt.exits] at h
      exact tryWith_yields (execAll_yields body h.left.left)
        (execClauses_yields clauses h.left.right) (execCleanup_yields cleanup h.right) c
  | .throw _ value, h => by
      rw [perform]; exact .after fun _ => .after fun _ => .ite (.fail _) (.fail _)
  | .returning _ value, h => by
      rw [perform]
      rw [Stmt.exits] at h
      exact returnValue_yields h value
  | .breaking, h => by
      rw [perform]
      rw [Stmt.exits] at h
      exact .pure (h.breaking List.mem_cons_self)
  | .continuing, h => by
      rw [perform]
      rw [Stmt.exits] at h
      exact .pure (h.continuing List.mem_cons_self)
  | .finish, h => by rw [perform]; exact .throw _
  | .function _ scope name signature bang body, h => by
      rw [perform]
      exact .after fun _ => .after fun _ => .after fun _ => .pure h.success
  | .dictFunction _ target key signature bang body, h => by
      rw [perform]; exact .after fun _ => .after fun _ => .pure h.success
  | .delFunction _ scope name bang, h => by
      rw [perform]
      exact .after fun _ => .after fun _ => .after fun _ => .pure h.success
  | .command _ name argument bang, h => by
      rw [perform]; exact hostCommand_yields h.success h.failed name argument bang

theorem execAll_yields {Q : Signal → Prop} :
    ∀ body : List Stmt, Permits Q M c (exitsOfAll body) → Yields Q (execAll M c body)
  | [], h => by rw [execAll]; exact .pure h.success
  | s :: rest, h => by
      rw [execAll]
      rw [exitsOfAll] at h
      refine .after fun _ => .bind (perform_yields s h.left) fun signal hsignal => ?_
      split
      · exact execAll_yields rest h.right
      · exact .pure hsignal

theorem execOption_yields {Q : Signal → Prop} :
    ∀ body : Option (List Stmt), Permits Q M c (exitsOfOption body) → Yields Q (execOption M c body)
  | none, h => by rw [execOption]; exact .pure h.success
  | some body, h => by
      rw [execOption]
      rw [exitsOfOption] at h
      exact execAll_yields body h

theorem execBranches_yields {Q : Signal → Prop} {otherwise : Run Signal} :
    ∀ branches : List Branch, Permits Q M c (exitsOfBranches branches) → Yields Q otherwise →
      Yields Q (execBranches M c otherwise branches)
  | [], h, hother => by rw [execBranches]; exact hother
  | .mk condition body :: rest, h, hother => by
      rw [execBranches]
      rw [exitsOfBranches] at h
      exact .after fun _ => .after fun _ =>
        .ite (execAll_yields body h.left) (execBranches_yields rest h.right hother)

theorem execClauses_yields {Q : Signal → Prop} :
    ∀ clauses : List Clause, Permits Q M c (exitsOfClauses clauses) →
      ∀ k ∈ execClauses M c clauses, Yields Q k.body
  | [], h, k, hk => by simp [execClauses] at hk
  | .mk pattern body :: rest, h, k, hk => by
      rw [exitsOfClauses] at h
      rw [execClauses, List.mem_cons] at hk
      rcases hk with rfl | hk
      · exact execAll_yields body h.left
      · exact execClauses_yields rest h.right k hk

theorem execCleanup_yields {Q : Signal → Prop} :
    ∀ cleanup : Option (List Stmt), Permits Q M c (exitsOfOption cleanup) →
      ∀ x, execCleanup M c cleanup = some x → Yields Q x
  | none, h, x, hx => by simp [execCleanup] at hx
  | some body, h, x, hx => by
      rw [exitsOfOption] at h
      rw [execCleanup, Option.some.injEq] at hx
      rw [← hx]
      exact execAll_yields body h

end

theorem exec_yields {Q : Signal → Prop} (s : Stmt) (h : Permits Q M c s.exits) :
    Yields Q (exec M c s) :=
  .after fun _ => perform_yields s h

end

/-! ## What never leaks -/

/-- Neither `:break` nor `:continue`. -/
def Signal.NoJump (signal : Signal) : Prop := signal ≠ .breaking ∧ signal ≠ .continuing

/-- Not `:return`. -/
def Signal.NoReturn (signal : Signal) : Prop := ∀ value, signal ≠ .returning value

theorem inLoop_noJump (signal : Signal) : InLoop Signal.NoJump signal := by
  cases signal with
  | breaking => exact .inl rfl
  | continuing => exact .inr (.inl rfl)
  | success | returning _ | failed _ => exact .inr (.inr ⟨nofun, nofun⟩)

/-- Whatever the body of a loop does, it does inside the loop. -/
theorem yields_inLoop (x : Run Signal) : Yields (InLoop Signal.NoJump) x :=
  fun _ _ signal _ _ => inLoop_noJump signal

theorem permits_noJump {M : Machine} {c : Context} {exits : List Exit} (hbreak : .breaking ∉ exits)
    (hcontinue : .continuing ∉ exits) (hexecute : .executing ∉ exits) :
    Permits Signal.NoJump M c exits where
  success := ⟨nofun, nofun⟩
  failed _ := ⟨nofun, nofun⟩
  breaking h := absurd h hbreak
  continuing h := absurd h hcontinue
  returning _ _ _ := ⟨nofun, nofun⟩
  executing _ h := absurd h hexecute

theorem permits_noReturn {M : Machine} {c : Context} (hc : c.frame = none)
    (hM : ∀ body, Yields Signal.NoReturn (M.execute body c)) (exits : List Exit) :
    Permits Signal.NoReturn M c exits where
  success := nofun
  failed _ := nofun
  breaking _ := nofun
  continuing _ := nofun
  returning _ _ h := by
    rw [Context.inFunction, hc] at h
    cases h
  executing body _ := hM body

/-- Text that is executed outside a function is outside of it, too, however deeply nested. -/
theorem execute_noReturn {c : Context} (hc : c.frame = none) (n : Nat) :
    ∀ body, Yields Signal.NoReturn ((Machine.ofFuel n).execute body c) := by
  induction n with
  | zero => exact fun _ => .throw _
  | succ n ih => exact fun body => execAll_yields body (permits_noReturn hc ih _)

/-- Stops where a statement ended with `:return`. -/
def refuseReturn : Signal → Run Signal
  | .returning _ => throw .exhausted
  | signal => return signal

theorem bind_refuseReturn {x : Run Signal} (hx : Yields Signal.NoReturn x) :
    x >>= refuseReturn = x := by
  funext setup s
  rcases hout : x setup s with ⟨stop | signal, t⟩
  · exact bind_of_error hout
  · rw [bind_of_ok hout]
    cases signal with
    | returning value => exact absurd rfl (hx setup s _ t hout value)
    | success | breaking | continuing | failed _ => rfl

/-- In a context no signal gets past the loop or the function that it is for. -/
structure SignalsStay (M : Machine) (c : Context) : Prop where
  whileLoop (mark : Option Mark) (condition : Expr) (body : List Stmt) :
    Yields Signal.NoJump (exec M c (.whileLoop mark condition body))
  forLoop (mark : Option Mark) (target iterable : Expr) (body : List Stmt) :
    Yields Signal.NoJump (exec M c (.forLoop mark target iterable body))
  forUnpack (mark : Option Mark) (targets : List Expr) (iterable : Expr) (body : List Stmt) :
    Yields Signal.NoJump (exec M c (.forUnpack mark targets iterable body))
  /-- A statement without an exit that jumps. -/
  statement (s : Stmt) : .executing ∉ s.exits → .breaking ∉ s.exits → .continuing ∉ s.exits →
    Yields Signal.NoJump (exec M c s)
  outside : c.frame = none → ∀ s, Yields Signal.NoReturn (exec M c s)
  /-- A script that stopped on `:return` would be the same as one that passes over it. -/
  script : c.frame = none → ∀ body : List Stmt, runScript (body.map (exec M c)) =
    runScript (body.map fun s => exec M c s >>= refuseReturn)

/-- A loop never ends with `:break` or `:continue`, whatever its body; nor does a statement that has
no `:execute` in it and neither of the two outside the loops and functions in it. Outside a
function no statement ends with `:return`, so that running a script, which passes over such an
end, does the same when it stops there instead. -/
theorem signals_never_leak (n : Nat) (c : Context) : SignalsStay (Machine.ofFuel n) c := by
  have hsuccess : Signal.NoJump .success := ⟨nofun, nofun⟩
  have hnone : c.frame = none → ∀ s, Yields Signal.NoReturn (exec (Machine.ofFuel n) c s) :=
    fun hc s => exec_yields s (permits_noReturn hc (execute_noReturn hc n) _)
  constructor
  case whileLoop =>
    refine fun mark condition body => .after fun _ => ?_
    rw [perform]
    exact whileLoop_yields hsuccess (yields_inLoop _) _
  case forLoop =>
    refine fun mark target iterable body => .after fun _ => ?_
    rw [perform]
    exact forEach_yields hsuccess (fun _ => yields_inLoop _) _
  case forUnpack =>
    refine fun mark targets iterable body => .after fun _ => ?_
    rw [perform]
    exact forEach_yields hsuccess (fun _ => yields_inLoop _) _
  case statement =>
    intro s hexecute hbreak hcontinue
    exact exec_yields s (permits_noJump hbreak hcontinue hexecute)
  case outside => exact hnone
  case script =>
    intro hc body
    simp only [bind_refuseReturn (hnone hc _)]

/-- A `:try` around a loop that breaks, with a clean-up that returns, outside a function. -/
theorem caught_break_never_leaks :
    Yields Signal.NoJump (exec (Machine.ofFuel 3) { script := default }
      (.tryCatch none [.whileLoop none (.int none 1) [.breaking]] [.mk .null []]
        (some [.returning none none]))) ∧
    Yields Signal.NoReturn (exec (Machine.ofFuel 3) { script := default }
      (.execute none [.text none "return"])) :=
  ⟨(signals_never_leak 3 { script := default }).statement _ (by decide) (by decide) (by decide),
    (signals_never_leak 3 { script := default }).outside rfl _⟩

end Vimscript
