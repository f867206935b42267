import Vimscript.Proofs.Variables.Binding

/-!
# `:lockvar` on a global variable

A protected name is refused by every write and removal of a variable. The
global namespace is also the Dictionary `g:`, and there the operations ask
for other locks: `remove()`, `map()`, `filter()` and a function declared as an
entry only ask whether the Dictionary is locked. Code that holds `g:` can
therefore do away with a protected variable, and `:unlockvar` then finds
nothing to unlock (`remove_ignores_lockvar`).

Code that does not have `g:` cannot. Where no object refers to the global
namespace and no code uses it as a whole, a protected variable keeps its
value until it is unlocked (`lockvar_protects`).
-/

namespace Vimscript

open Run

/-- Statements other than `:unlockvar`. -/
def NoUnlock (s : Stmt) : Prop :=
  ∀ mark targets depth, s ≠ .unlock mark targets depth

/-- The scopes that stand for the global namespace somewhere. -/
def GlobalScope (scope : Option Scope) : Prop := scope = some .global ∨ scope = none

/-- The global namespace, of which something stays true as long as nothing is unlocked. -/
def globalSeclusion (setup : Setup) (Keeps : Table → Prop) : Seclusion where
  setup
  space := setup.spaces.globals
  Keeps
  Shown := GlobalScope
  Within _ := True
  Code := NoUnlock
  Inner _ := False
  Spares _ := True
  Locks isLocked := isLocked = true

/-- The global namespace is held by no object, and no code that runs uses it as a whole or unlocks
anything. -/
abbrev globalApart (setup : Setup) : Seclusion := globalSeclusion setup fun _ => True

/-- A name is protected and bound to an object. -/
def Table.Protects (t : Table) (name : String) (value : Ref) : Prop :=
  t.get? name = some value ∧ t.isNameLocked name = true

theorem Table.Protects.insert {t : Table} {name other : String} {value : Ref}
    (ht : t.Protects name value) (hfree : t.isNameLocked other = false) (new : Ref) :
    (t.insert other new).Protects name value := by
  refine ⟨?_, ht.2⟩
  rw [get?_insert, if_neg]
  · exact ht.1
  · rintro rfl
    rw [ht.2] at hfree
    cases hfree

theorem Table.Protects.erase {t : Table} {name other : String} {value : Ref}
    (ht : t.Protects name value) (hfree : t.isNameLocked other = false) :
    (t.erase other).Protects name value := by
  refine ⟨?_, ht.2⟩
  rw [get?_erase, if_neg]
  · exact ht.1
  · rintro rfl
    rw [ht.2] at hfree
    cases hfree

theorem Table.Protects.lockName {t : Table} {name : String} {value : Ref}
    (ht : t.Protects name value) (other : String) : (t.lockName other).Protects name value := by
  refine ⟨(get?_lockName t other name).trans ht.1, ?_⟩
  rw [isNameLocked_lockName, ht.2, Bool.true_or]

/-- The editor's variables are not global ones. -/
theorem vim_ne_globals {setup : Setup} {c : Context}
    (hc : setup.spaces.Shows GlobalScope setup.spaces.globals c) :
    setup.spaces.vim ≠ setup.spaces.globals := by
  intro hvim
  have hshown := hc (some .vim) "" setup.spaces.vim [] rfl (hvim ▸ List.mem_singleton_self _)
  rcases hshown with hshown | hshown <;> cases hshown

theorem globalSeclusion_lawful {setup : Setup} {Keeps : Table → Prop}
    (hvim : setup.spaces.vim ≠ setup.spaces.globals)
    (hinsert : ∀ {t : Table} {name : String} (value : Ref), t.isNameLocked name = false →
      Keeps t → Keeps (t.insert name value))
    (herase : ∀ {t : Table} {name : String}, t.isNameLocked name = false → Keeps t →
      Keeps (t.erase name))
    (hlock : ∀ {t : Table} (name : String), Keeps t → Keeps (t.lockName name)) :
    (globalSeclusion setup Keeps).Lawful where
  set value _ _ _ _ _ _ hfree ht := hinsert value hfree ht
  unlet _ _ _ hfree ht := herase hfree ht
  lockName name _ ht := hlock name ht
  unlockName _ hlocks := nomatch hlocks
  setVim _ heq := absurd heq hvim
  setError _ heq := absurd heq hvim
  dropVim heq := absurd heq hvim
  global _ := .inr rfl
  within _ _ _ _ := trivial
  inner := id
  lock _ := rfl
  unlock hcode := absurd rfl (hcode _ _ _)
  nested _ _ := trivial
  closure _ _ _ _ := trivial
  lambda := by
    intro params body s hs
    refine ⟨?_, trivial⟩
    rintro mark targets depth rfl
    unfold Registry.lambdaBody at hs
    rcases List.mem_append.mp hs with hs | hs
    · obtain ⟨p, -, hp⟩ := List.mem_map.mp hs
      cases hp
    · cases List.mem_singleton.mp hs

/-! ## Locking and unlocking a variable -/

section

variable {M : Machine} {setup : Setup} {c : Context} {mark mark' : Option Mark}
  {scope : Option Scope} {name : String} {depth : Int} {s : State}

theorem lockTarget_variable {isLocked : Bool} {r : Except Stop Unit} {h : Heap}
    (hset : setup.spaces.setLock isLocked scope name depth c s.heap = (r, h)) :
    lockTarget M isLocked depth (.var mark scope [.plain name]) c setup s =
      (r, { s with heap := h }) := by
  have hname : evalName M [.plain name] c setup s = (.ok name, s) := by
    rw [evalName, evalName]
    change (Except.ok (name ++ ""), s) = _
    rw [String.append_empty]
  unfold lockTarget
  dsimp only
  rw [bind_of_ok hname, bind_of_ok (a := setup.spaces) (t := s) rfl]
  cases r with
  | ok a => exact op_of_ok hset
  | error stop => exact op_of_error hset

/-- A statement that locks or unlocks one variable. -/
def lockStatement (isLocked : Bool) (mark : Option Mark) (target : Expr) (depth : Int) : Stmt :=
  if isLocked then .lock mark [target] depth else .unlock mark [target] depth

theorem exec_lockStatement (mark mark' : Option Mark) {isLocked : Bool} {r : Except Stop Unit}
    {h : Heap}
    (hset : setup.spaces.setLock isLocked scope name depth c s.heap = (r, h)) :
    ∃ t, exec M c (lockStatement isLocked mark (.var mark' scope [.plain name]) depth) setup s =
      (r.map fun _ => .success, t) ∧ t.heap = h ∧ t.registry = s.registry := by
  let s₁ : State := { s with
    site := some (lockStatement isLocked mark (.var mark' scope [.plain name]) depth).site }
  have htarget : lockTarget M isLocked depth (.var mark' scope [.plain name]) c setup s₁ =
      (r, { s₁ with heap := h }) := lockTarget_variable hset
  have hperform : perform M c (lockStatement isLocked mark (.var mark' scope [.plain name]) depth) =
      (forEachTarget (fun e => lockTarget M isLocked depth e c) [.var mark' scope [.plain name]] >>=
        fun _ => pure .success) := by
    cases isLocked <;> exact perform.eq_def _ _ _
  refine ⟨{ s₁ with heap := h }, ?_, rfl, rfl⟩
  change perform M c _ setup s₁ = _
  rw [hperform, forEachTarget]
  cases r with
  | ok a => rw [bind_of_ok (bind_of_ok htarget)]; rfl
  | error stop => rw [bind_of_error (bind_of_error htarget)]; rfl

/-- Locking or unlocking succeeds where the variable is bound. -/
theorem setLock_of_bound {sp : Spaces} {ns : Ref} {h : Heap} (isLocked : Bool) (depth : Int)
    (hvisible : sp.visible scope name c = .ok (ns, []))
    (hbound : (h.table ns).contains name = true) :
    ∃ h', sp.setLock isLocked scope name depth c h = (.ok (), h') ∧
      h'.table ns =
        if isLocked then (h.table ns).lockName name else (h.table ns).unlockName name := by
  have howns : h.Owns name [ns] ns := ⟨[], [], rfl, List.forall_mem_nil _, hbound⟩
  obtain ⟨h', hset, htable⟩ := Spaces.setLock_of_owns isLocked depth hvisible howns
  refine ⟨h', hset, ?_⟩
  rw [htable, if_pos rfl]

theorem bound_of_setLock {sp : Spaces} {ns : Ref} {h h' : Heap} {isLocked : Bool}
    (hvisible : sp.visible scope name c = .ok (ns, []))
    (hset : sp.setLock isLocked scope name depth c h = (.ok (), h')) :
    (h.table ns).contains name = true := by
  refine Decidable.byContradiction fun hbound => ?_
  have howner : h.owner? name [ns] = none := by simp [Heap.owner?, hbound]
  unfold Spaces.setLock at hset
  rw [Op.bind_of_ok (Spaces.searched_of_visible hvisible), Op.bind_of_ok (Op.get_eq h), howner]
    at hset
  cases hset

/-- Only a variable that is bound is locked or unlocked. -/
theorem bound_of_exec (isLocked : Bool) {ns : Ref} {t : State}
    (hvisible : setup.spaces.visible scope name c = .ok (ns, []))
    (hexec : exec M c (lockStatement isLocked mark (.var mark' scope [.plain name]) depth) setup s =
      (.ok .success, t)) : (s.heap.table ns).contains name = true := by
  rcases hset : setup.spaces.setLock isLocked scope name depth c s.heap with ⟨stop | ⟨⟩, h⟩
  · obtain ⟨u, hfailed, -, -⟩ := exec_lockStatement (M := M) mark mark' hset
    cases hfailed.symm.trans hexec
  · exact bound_of_setLock hvisible hset

end

/-! ## A protected variable -/

/-- A variable that has been locked is bound and protected. -/
theorem protects_of_lock {M : Machine} {setup : Setup} {c : Context} {mark mark' : Option Mark}
    {scope : Option Scope} {name : String} {depth : Int} {s₀ s : State} {ns : Ref}
    (hvisible : setup.spaces.visible scope name c = .ok (ns, []))
    (hlock : exec M c (.lock mark [.var mark' scope [.plain name]] depth) setup s₀ =
      (.ok .success, s)) : ∃ value, (s.heap.table ns).Protects name value := by
  have hbound := bound_of_exec true hvisible hlock
  obtain ⟨h', hset, htable⟩ := setLock_of_bound true depth hvisible hbound
  obtain ⟨t, hexec, rfl, -⟩ := exec_lockStatement (M := M) mark mark' hset
  cases hexec.symm.trans hlock
  obtain ⟨value, hvalue⟩ := Option.isSome_iff_exists.mp hbound
  refine ⟨value, ?_⟩
  rw [htable, if_pos rfl]
  refine ⟨(Table.get?_lockName _ name name).trans hvalue, ?_⟩
  rw [Table.isNameLocked_lockName, beq_self_eq_true, Bool.or_true]

theorem lock_does {setup : Setup} {Keeps : Table → Prop} (mark mark' : Option Mark)
    (scope : Option Scope) (name : String) (depth : Int) (c : Context) :
    (globalSeclusion setup Keeps).Does c (.lock mark [.var mark' scope [.plain name]] depth) := by
  refine ⟨.mk (fun _ _ _ h => nomatch h) (fun e he => ?_) (fun _ h => nomatch h)
    (fun _ _ h => nomatch h) (fun _ _ h => nomatch h), False.elim⟩
  obtain rfl := List.mem_singleton.mp he
  exact .mk (fun _ _ h => nomatch h) fun _ h => nomatch h

/-- A global variable that `:lockvar` protects keeps its value, whatever statements without an
`:unlockvar` are run in whatever contexts, and can be unlocked afterwards; provided that no object
refers to the global namespace and no code uses it as a whole. -/
theorem lockvar_protects {setup : Setup} {fuel : Nat} {c : Context} {mark mark' : Option Mark}
    {scope : Option Scope} {name : String} {depth : Int} {s₀ s : State}
    (hs₀ : (globalApart setup).Good s₀) (hc : (globalApart setup).Runs c)
    (hparse : (globalApart setup).Parses)
    (hglobal : setup.spaces.visible scope name c = .ok (setup.spaces.globals, []))
    (hlock : exec (Machine.ofFuel fuel) c (.lock mark [.var mark' scope [.plain name]] depth)
      setup s₀ = (.ok .success, s)) :
    ∃ value, (s.heap.table setup.spaces.globals).get? name = some value ∧
      ∀ (fuel : Nat) (code : List (Context × Stmt)),
        (∀ p ∈ code, (globalApart setup).Runs p.1 ∧ (globalApart setup).Clean p.2) →
        let t := (runStatements fuel code setup s).2
        (t.heap.table setup.spaces.globals).get? name = some value ∧
        ∀ (fuel : Nat) (c : Context) (mark mark' : Option Mark) (scope : Option Scope)
          (depth : Int), setup.spaces.visible scope name c = .ok (setup.spaces.globals, []) →
          ∃ u, exec (Machine.ofFuel fuel) c (.unlock mark [.var mark' scope [.plain name]] depth)
            setup t = (.ok .success, u) := by
  have hvim : setup.spaces.vim ≠ setup.spaces.globals := vim_ne_globals hc.1
  have hapart : (globalApart setup).Lawful :=
    globalSeclusion_lawful hvim (fun _ _ _ => trivial) (fun _ _ => trivial) fun _ _ => trivial
  have hgood : (globalApart setup).Good s := by
    have hexec := Seclusion.exec_good hapart hparse hc
      (lock_does mark mark' scope name depth c) fuel hs₀
    change (globalApart setup).Good (exec _ _ _ setup s₀).2 at hexec
    rw [hlock] at hexec
    exact hexec
  obtain ⟨value, hprotects⟩ := protects_of_lock hglobal hlock
  have hlocked : (globalSeclusion setup (·.Protects name value)).Good s := hgood.keeping hprotects
  have hlawful : (globalSeclusion setup (·.Protects name value)).Lawful :=
    globalSeclusion_lawful hvim (fun new hfree ht => ht.insert hfree new)
      (fun hfree ht => ht.erase hfree) fun other ht => ht.lockName other
  refine ⟨value, hprotects.1, fun fuel code hcode => ?_⟩
  have hgood' := Seclusion.runStatements_good hlawful ⟨hparse.statements, hparse.expression⟩
    (fun p hp => ⟨(hcode p hp).1, (hcode p hp).2, False.elim⟩) fuel hlocked
  have hkept := hgood'.keeps
  refine ⟨hkept.1, fun fuel c mark mark' scope depth hvisible => ?_⟩
  obtain ⟨h', hset, -⟩ := setLock_of_bound false depth hvisible (Option.isSome_of_eq_some hkept.1)
  obtain ⟨u, hu, -, -⟩ := exec_lockStatement (M := Machine.ofFuel fuel) mark mark' hset
  exact ⟨u, hu⟩

/-! ## A script with one global variable -/

/-- A setup in which all shared namespaces are objects of their own. -/
def apartSetup : Setup :=
  { bareSetup with
    spaces := { globals := ⟨0⟩, vim := ⟨1⟩, buffer := ⟨2⟩, window := ⟨3⟩, tab := ⟨4⟩ } }

/-- The top level of a script. -/
def topContext : Context := { script := { id := 1, name := "main", space := ⟨5⟩ } }

/-- The global variable `x` holds a Number. -/
def oneGlobal : State where
  heap := { cells := #[
    { value := .dict { entries := [("x", ⟨6⟩)] } }, { value := .dict {} }, { value := .dict {} },
    { value := .dict {} }, { value := .dict {} }, { value := .dict {} }, { value := .number 1 }] }

/-- The variable as a target. -/
def globalX : Expr := .var none (some .global) [.plain "x"]

/-- The state after `lockvar g:x`. -/
def lockedGlobal : State :=
  (exec (Machine.ofFuel 1) topContext (.lock none [globalX] 1) apartSetup oneGlobal).2

theorem topContext_runs : (globalApart apartSetup).Runs topContext := by
  refine ⟨?_, trivial⟩
  intro scope name first rest hvisible hmem
  cases scope with
  | none => exact .inr rfl
  | some scope =>
      cases scope with
      | global => exact .inl rfl
      | locals | arguments | unknown => cases hvisible
      | _ =>
          cases hvisible
          cases List.mem_singleton.mp hmem

theorem oneGlobal_good : (globalApart apartSetup).Good oneGlobal := by
  refine ⟨⟨⟨_, rfl, trivial⟩, ?_⟩, fun d hd => by simp [oneGlobal] at hd⟩
  rintro ⟨i⟩ hmem
  rcases i with _ | _ | _ | _ | _ | _ | _ | i
  · cases List.mem_singleton.mp hmem
  all_goals cases hmem

/-- An assignment and an `:unlet` later the variable is what it was, and is unlocked. -/
theorem lockedGlobal_protected :
    let code := [(topContext, Stmt.assign none globalX .set (.int none 2)),
      (topContext, .unlet none [globalX] false)]
    let t := (runStatements 1 code apartSetup lockedGlobal).2
    (t.heap.table ⟨0⟩).get? "x" = some ⟨6⟩ ∧
      ∃ u, exec (Machine.ofFuel 1) topContext (.unlock none [globalX] 1) apartSetup t =
        (.ok .success, u) := by
  intro code t
  have hparse : (globalApart apartSetup).Parses :=
    { statements := fun h => nomatch h
      expression := fun h => nomatch h }
  have hevals : ∀ e, (∀ mark scope, e ≠ .wholeScope mark scope) → e.parts = [] →
      (globalApart apartSetup).Evals e := by
    intro e hwhole hparts
    refine .mk (fun mark scope he => absurd he (hwhole mark scope)) ?_
    rw [hparts]
    exact fun _ hx => nomatch hx
  have hx : (globalApart apartSetup).Evals globalX := hevals _ (fun _ _ => nofun) rfl
  have hcode : ∀ p ∈ code,
      (globalApart apartSetup).Runs p.1 ∧ (globalApart apartSetup).Clean p.2 := by
    intro p hp
    simp only [code, List.mem_cons, List.not_mem_nil, or_false] at hp
    rcases hp with rfl | rfl
    · refine ⟨topContext_runs, .mk (fun _ _ _ => nofun) ?_ nofun nofun nofun⟩
      exact List.forall_mem_cons.mpr ⟨hx, List.forall_mem_singleton.mpr
        (hevals _ (fun _ _ => nofun) rfl)⟩
    · refine ⟨topContext_runs, .mk (fun _ _ _ => nofun) ?_ nofun nofun nofun⟩
      exact List.forall_mem_singleton.mpr hx
  have hlock : exec (Machine.ofFuel 1) topContext
      (.lock none [.var none (some .global) [.plain "x"]] 1) apartSetup oneGlobal =
        (.ok .success, lockedGlobal) := rfl
  obtain ⟨value, hvalue, hkept⟩ := lockvar_protects oneGlobal_good topContext_runs hparse rfl hlock
  obtain rfl : ⟨6⟩ = value := Option.some.inj hvalue
  obtain ⟨hget, hunlock⟩ := hkept 1 code hcode
  exact ⟨hget, hunlock 1 topContext none none (some .global) 1 rfl⟩

/-- `call remove(g:, 'x')` -/
def removeX : Stmt :=
  .call none
    (.call none none (.text "remove") [.wholeScope none (some .global), .text none "x"]) none

/-- A variable is removed although it is locked, and can then not be unlocked. -/
theorem remove_ignores_lockvar :
    (∃ s, exec (Machine.ofFuel 1) topContext (.lock none [globalX] 1) apartSetup oneGlobal =
      (.ok .success, s) ∧ s = lockedGlobal) ∧
    (lockedGlobal.heap.table ⟨0⟩).get? "x" = some ⟨6⟩ ∧
    NoUnlock removeX ∧
    let t := (exec (Machine.ofFuel 2) topContext removeX apartSetup lockedGlobal).2
    (t.heap.table ⟨0⟩).get? "x" = none ∧
    ∀ fuel u, exec (Machine.ofFuel fuel) topContext (.unlock none [globalX] 1) apartSetup t ≠
      (.ok .success, u) := by
  have hremoved : ((exec (Machine.ofFuel 2) topContext removeX apartSetup
      lockedGlobal).2.heap.table ⟨0⟩).get? "x" = none := by decide +kernel
  refine ⟨⟨_, rfl, rfl⟩, rfl, fun _ _ _ => nofun, hremoved, fun fuel u hunlock => ?_⟩
  have hbound : ((exec (Machine.ofFuel 2) topContext removeX apartSetup
      lockedGlobal).2.heap.table ⟨0⟩).contains "x" = true := bound_of_exec false rfl hunlock
  rw [Table.contains, hremoved] at hbound
  cases hbound

end Vimscript
