import Vimscript.Proofs.Variables.Lockvar

/-!
# Read-only variables

The arguments of a call, the variables of the editor and the `self` of a
`dict` function refuse to be written. One check refuses
(`Spaces.checkWritable`), and it looks at the scope a variable is written
with and, for `self`, at the frame that writes it. Two roads lead around
it. A scope that is used as a whole is a Dictionary like any other, so that
an item assigned through `a:` is an argument changed
(`whole_arguments_writable`). And a name without a scope is written where
it is found: a closure that has no `self` of its own finds that of the
function around it.

Where neither road is taken, read-only variables keep their values whatever
is executed, and an attempt to write one fails (`readOnly_kept`).
-/

namespace Vimscript

open Run

/-! ## Kinds of read-only variables -/

/-- A namespace in which there are read-only variables. -/
inductive ReadOnly where
  /-- The arguments of a call. -/
  | arguments (space : Ref)
  /-- The variables of the editor. -/
  | editor
  /-- The local variables of a call of a `dict` function. -/
  | self (space : Ref)

/-- A statement satisfies a condition and so do those it executes itself, but not those of the
functions it declares. -/
inductive Stmt.Throughout (S : Stmt → Prop) : Stmt → Prop
  | mk {s : Stmt} : S s → (∀ t ∈ s.nested, Throughout S t) → Throughout S s

theorem Stmt.Throughout.here {S : Stmt → Prop} {s : Stmt} (hs : s.Throughout S) : S s := by
  obtain ⟨h, -⟩ := hs
  exact h

theorem Stmt.Throughout.nested {S : Stmt → Prop} {s t : Stmt} (hs : s.Throughout S)
    (ht : t ∈ s.nested) : t.Throughout S := by
  obtain ⟨-, h⟩ := hs
  exact h t ht

/-- What a statement assigns to without a scope has a name that is written out and is not `self`. -/
def AvoidsSelf (s : Stmt) : Prop :=
  ∀ mark parts, .var mark none parts ∈ s.targets → ∃ name, parts = [.plain name] ∧ name ≠ "self"

namespace ReadOnly

/-- Where the variables are. -/
def space (setup : Setup) : ReadOnly → Ref
  | arguments space | self space => space
  | editor => setup.spaces.vim

/-- The names that are read-only there. -/
def Covers : ReadOnly → String → Prop
  | arguments _, _ => True
  | editor, name => name ∉ maintained
  | self _, name => name = "self"

/-- The scopes that stand for the namespace somewhere. -/
def Shown : ReadOnly → Option Scope → Prop
  | arguments _, scope => scope = some .arguments
  | editor, scope => scope = some .vim
  | self _, scope => scope = some .locals ∨ scope = none

/-- A frame with these local variables is that of a call on a Dictionary. -/
def Within : ReadOnly → Context → Prop
  | arguments _, _ | editor, _ => True
  | self space, c => ∀ f, c.frame = some f → f.own.locals = space → f.self.isSome = true

/-- Code that may find the `self` of a function around it. -/
def Inner : ReadOnly → Context → Prop
  | arguments _, _ | editor, _ => False
  | self _, c => ∃ f, c.frame = some f ∧ f.outer ≠ []

/-- Such code does not assign to it. -/
def Spares : ReadOnly → Stmt → Prop
  | arguments _, _ | editor, _ => True
  | self _, s => s.Throughout AvoidsSelf

/-- The closures that a statement declares are such code. -/
def Code (kind : ReadOnly) (s : Stmt) : Prop :=
  ∀ signature body, s.declared? = some (signature, body) → signature.flags.closure = true →
    ∀ t ∈ body, kind.Spares t

/-- The namespace is out of the hands of code, and something is true of it. -/
def seclusion (kind : ReadOnly) (setup : Setup) (Keeps : Table → Prop) : Seclusion where
  setup
  space := kind.space setup
  Keeps
  Shown := kind.Shown
  Within := kind.Within
  Code := kind.Code
  Inner := kind.Inner
  Spares := kind.Spares
  Locks _ := True

/-- No object refers to the namespace and no code uses it as a whole, and no closure assigns to a
`self` that it may find in a function around it. -/
abbrev apart (kind : ReadOnly) (setup : Setup) : Seclusion := kind.seclusion setup fun _ => True

/-- The read-only variables are bound as they are in a table. -/
def Agrees (kind : ReadOnly) (t₀ t : Table) : Prop :=
  ∀ name, kind.Covers name → t.get? name = t₀.get? name

/-- A variable that is named in a context is one of those that refuse to be written. -/
def Names : ReadOnly → Option Scope → String → Context → Prop
  | arguments _, scope, _, _ => scope = some .arguments
  | editor, scope, _, _ => scope = some .vim
  | self space, scope, name, c => (scope = some .locals ∨ scope = none) ∧ name = "self" ∧
      ∃ f, c.frame = some f ∧ f.own.locals = space ∧ f.self.isSome = true

/-! ## What is refused -/

variable {kind : ReadOnly} {setup : Setup} {scope : Option Scope} {name : String} {c : Context}

theorem checkWritable_of_names (hnames : kind.Names scope name c) :
    ∃ cause, Spaces.checkWritable scope name c = .error cause := by
  cases kind with
  | arguments space => subst hnames; exact ⟨_, rfl⟩
  | editor => subst hnames; exact ⟨_, rfl⟩
  | self space =>
      obtain ⟨hscope, rfl, f, hf, -, hself⟩ := hnames
      have hlocals : Spaces.effectiveScope scope c = .locals := by
        rcases hscope with rfl | rfl
        · rfl
        · simp [Spaces.effectiveScope, Context.inFunction, hf]
      have hreadOnly : Scope.locals.isReadOnly = false := rfl
      refine ⟨.readOnly "self", ?_⟩
      unfold Spaces.checkWritable
      simp [hlocals, hreadOnly, hf, hself]

theorem not_names_of_ok (kind : ReadOnly) (hok : Spaces.checkWritable scope name c = .ok ()) :
    ¬kind.Names scope name c := by
  intro hnames
  obtain ⟨cause, hcause⟩ := checkWritable_of_names hnames
  cases hcause.symm.trans hok

/-- Writing or removing a read-only variable fails and changes nothing. -/
theorem refused_of_names {h : Heap} (hnames : kind.Names scope name c) (sp : Spaces) :
    ∃ cause, cause.code = some "E46" ∧
      (∀ value, sp.set scope name value c h = (.error (.ofCause cause), h)) ∧
      ∀ bang, sp.unlet scope name bang c h = (.error (.ofCause cause), h) := by
  obtain ⟨cause, hcause⟩ := checkWritable_of_names hnames
  have hrequire := Spaces.requireWritable_of_error scope name c (h := h) hcause
  exact ⟨cause, Spaces.checkWritable_code scope name c hcause, fun _ => Op.bind_of_error hrequire,
    fun _ => Op.bind_of_error hrequire⟩

/-- Statements cannot write the variables: an assignment fails when it comes to write, and so does
an `:unlet`. A compound assignment has computed by then what to write. -/
structure Refuses (kind : ReadOnly) (M : Machine) (setup : Setup) (c : Context) : Prop where
  assign {mark : Option Mark} {scope : Option Scope} {parts : List NamePart} {name : String}
      {s t : State} (value : Ref) :
    evalName M parts c setup s = (.ok name, t) → kind.Names scope name c →
    ∃ cause, cause.code = some "E46" ∧
      Vimscript.assign M (.var mark scope parts) .set value c setup s =
        (.error (.ofCause cause), t)
  update {mark : Option Mark} {scope : Option Scope} {parts : List NamePart} {name : String}
      {s t : State} {op : Arith} {current value result : Ref} {h : Heap} :
    evalName M parts c setup s = (.ok name, t) → kind.Names scope name c →
    setup.spaces.getOrFail scope name c t.heap = (.ok current, t.heap) →
    Op.combine op current value (displayName scope name) t.heap = (.ok result, h) →
    ∃ cause, cause.code = some "E46" ∧
      Vimscript.assign M (.var mark scope parts) (.update op) value c setup s =
        (.error (.ofCause cause), { t with heap := h })
  unlet {mark : Option Mark} {scope : Option Scope} {parts : List NamePart} {name : String}
      {s t : State} (bang : Bool) :
    evalName M parts c setup s = (.ok name, t) → kind.Names scope name c →
    ∃ cause, cause.code = some "E46" ∧
      unletTarget M (.var mark scope parts) bang c setup s = (.error (.ofCause cause), t)

theorem refuses (kind : ReadOnly) (M : Machine) (setup : Setup) (c : Context) :
    kind.Refuses M setup c where
  assign value hname hnames := by
    obtain ⟨cause, hcode, hset, -⟩ := refused_of_names hnames setup.spaces
    refine ⟨cause, hcode, ?_⟩
    unfold Vimscript.assign
    dsimp only
    rw [bind_of_ok hname, bind_of_ok (a := setup.spaces) (t := _) rfl, pure_bind]
    exact op_of_error (hset value)
  update {_ _ _ _ _ _ _ _ _ result _} hname hnames hcurrent hcombine := by
    obtain ⟨cause, hcode, hset, -⟩ := refused_of_names hnames setup.spaces
    refine ⟨cause, hcode, ?_⟩
    rw [assign_update hname]
    refine op_of_error ?_
    rw [Spaces.update, Op.bind_of_ok hcurrent, Op.bind_of_ok hcombine]
    exact hset result
  unlet bang hname hnames := by
    obtain ⟨cause, hcode, -, hunlet⟩ := refused_of_names hnames setup.spaces
    refine ⟨cause, hcode, ?_⟩
    unfold unletTarget
    dsimp only
    rw [bind_of_ok hname, bind_of_ok (a := setup.spaces) (t := _) rfl]
    exact op_of_error (hunlet bang)

/-! ## What is kept -/

/-- The editor's variables are read-only as such, and not as something else. -/
theorem editor_of_vim (hc : (kind.apart setup).Runs c)
    (hvim : setup.spaces.vim = kind.space setup) : kind = editor := by
  have hshown : kind.Shown (some .vim) :=
    hc.1 (some .vim) "" setup.spaces.vim [] rfl (List.mem_singleton.mpr hvim.symm)
  cases kind with
  | arguments space => cases hshown
  | editor => rfl
  | self space => rcases hshown with hshown | hshown <;> cases hshown

section

variable {space : Ref} {h : Heap}

/-- The namespace of a call is not the global one. -/
theorem self_ne_globals (hc : ((self space).apart setup).Runs c) :
    space ≠ setup.spaces.globals := by
  rintro rfl
  have hshown : (self setup.spaces.globals).Shown (some .global) :=
    hc.1 (some .global) "" setup.spaces.globals [] rfl (List.mem_singleton_self _)
  rcases hshown with hshown | hshown <;> cases hshown

/-- Where the namespace is the innermost one, it is that of the frame. -/
theorem self_of_space (hc : ((self space).apart setup).Runs c)
    (hspace : setup.spaces.space scope c h = (.ok space, h)) :
    (scope = some .locals ∨ scope = none) ∧ ∃ f, c.frame = some f ∧ f.own.locals = space := by
  have hshown : scope = some .locals ∨ scope = none := hc.1.of_space hspace
  obtain ⟨rest, hvisible⟩ := Spaces.visible_of_space hspace
  refine ⟨hshown, ?_⟩
  rcases hframe : c.frame with _ | f
  · rcases hshown with rfl | rfl
    · simp [Spaces.visible, hframe] at hvisible
    · simp only [Spaces.visible, hframe, Except.ok.injEq, Prod.mk.injEq] at hvisible
      exact absurd hvisible.1.symm (self_ne_globals hc)
  · refine ⟨f, rfl, ?_⟩
    rcases hshown with rfl | rfl <;>
      simp only [Spaces.visible, hframe, Except.ok.injEq, Prod.mk.injEq] at hvisible
    · exact hvisible.1
    · exact hvisible.1

/-- A name without a scope that is written into the namespace is written by code in its frame or by
a closure. -/
theorem inner_of_target (hc : ((self space).apart setup).Runs c)
    (htarget : setup.spaces.target none name c h = (.ok space, h)) :
    setup.spaces.space none c h = (.ok space, h) ∨ (self space).Inner c := by
  rcases Spaces.visible_or_space htarget with ⟨first, rest, hvisible, hmem⟩ | hspace
  case inr => exact .inl hspace
  rcases hframe : c.frame with _ | f <;>
    simp only [Spaces.visible, hframe, Except.ok.injEq, Prod.mk.injEq] at hvisible
  · obtain ⟨rfl, rfl⟩ := hvisible
    exact absurd (List.mem_singleton.mp hmem) (self_ne_globals hc)
  · obtain ⟨rfl, rfl⟩ := hvisible
    rcases List.mem_cons.mp hmem with rfl | hmem
    · left
      simp only [Spaces.space, Spaces.visible, hframe]
      rfl
    · refine .inr ⟨f, hframe, fun houter => ?_⟩
      rw [houter] at hmem
      split at hmem
      · exact absurd (List.mem_singleton.mp hmem) (self_ne_globals hc)
      · cases hmem

/-- What may be written into the innermost namespace is not the `self` that is there. -/
theorem ne_self_of_space (hc : ((self space).apart setup).Runs c)
    (hok : Spaces.checkWritable scope name c = .ok ())
    (hspace : setup.spaces.space scope c h = (.ok space, h)) : name ≠ "self" := by
  rintro rfl
  obtain ⟨hscope, f, hf, hown⟩ := self_of_space hc hspace
  exact not_names_of_ok (self space) hok ⟨hscope, rfl, f, hf, hown, hc.2 f hf hown⟩

theorem ne_self_of_target {s : Stmt} {mark : Option Mark} {parts : List NamePart}
    (hc : ((self space).apart setup).Runs c) (hs : ((self space).apart setup).Does c s)
    (hmem : .var mark scope parts ∈ s.targets) (hspells : Spells parts name)
    (hok : Spaces.checkWritable scope name c = .ok ())
    (htarget : setup.spaces.target scope name c h = (.ok space, h)) : name ≠ "self" := by
  cases scope with
  | some scope => exact ne_self_of_space hc hok htarget
  | none =>
      rcases inner_of_target hc htarget with hspace | hinner
      · exact ne_self_of_space hc hok hspace
      · obtain ⟨text, rfl, htext⟩ := (hs.2 hinner).here mark parts hmem
        rw [hspells text rfl]
        exact htext

end

theorem Agrees.insert {t₀ t : Table} (ht : kind.Agrees t₀ t) (hname : ¬kind.Covers name)
    (value : Ref) : kind.Agrees t₀ (t.insert name value) := by
  intro other hother
  rw [Table.get?_insert, if_neg]
  · exact ht other hother
  · rintro rfl
    exact hname hother

theorem Agrees.erase {t₀ t : Table} (ht : kind.Agrees t₀ t) (hname : ¬kind.Covers name) :
    kind.Agrees t₀ (t.erase name) := by
  intro other hother
  rw [Table.get?_erase, if_neg]
  · exact ht other hother
  · rintro rfl
    exact hname hother

/-- What a variable is removed from is not where it is read-only. -/
theorem not_covers_of_unlet {h : Heap} (hc : (kind.apart setup).Runs c)
    (hok : Spaces.checkWritable scope name c = .ok ())
    (hspace : setup.spaces.space scope c h = (.ok (kind.space setup), h)) : ¬kind.Covers name := by
  have hshown : kind.Shown scope := hc.1.of_space hspace
  cases kind with
  | arguments space => exact absurd hshown (not_names_of_ok (arguments space) hok)
  | editor => exact absurd hshown (not_names_of_ok editor hok)
  | self space => exact ne_self_of_space hc hok hspace

theorem not_covers_of_set {h : Heap} {s : Stmt} {mark : Option Mark} {parts : List NamePart}
    (hc : (kind.apart setup).Runs c) (hs : (kind.apart setup).Does c s)
    (hmem : .var mark scope parts ∈ s.targets) (hspells : Spells parts name)
    (hok : Spaces.checkWritable scope name c = .ok ())
    (htarget : setup.spaces.target scope name c h = (.ok (kind.space setup), h)) :
    ¬kind.Covers name := by
  have hshown : kind.Shown scope := hc.1.of_target htarget
  cases kind with
  | arguments space => exact absurd hshown (not_names_of_ok (arguments space) hok)
  | editor => exact absurd hshown (not_names_of_ok editor hok)
  | self space => exact ne_self_of_target hc hs hmem hspells hok htarget

theorem spares_lambdaBody {params : List Vimscript.Name} {body : Expr} {s : Stmt}
    (hs : s ∈ Registry.lambdaBody params body) : kind.Code s ∧ kind.Spares s := by
  unfold Registry.lambdaBody at hs
  -- a lambda declares nothing, and assigns to variables with a scope
  have hsame : s.declared? = none ∧ s.nested = [] ∧ AvoidsSelf s := by
    rcases List.mem_append.mp hs with hs | hs
    · obtain ⟨p, -, rfl⟩ := List.mem_map.mp hs
      refine ⟨rfl, rfl, fun mark parts hmem => ?_⟩
      cases List.mem_singleton.mp hmem
    · obtain rfl := List.mem_singleton.mp hs
      exact ⟨rfl, rfl, fun mark parts hmem => nomatch hmem⟩
  obtain ⟨hdeclared, hnested, havoids⟩ := hsame
  refine ⟨fun signature body h => ?_, ?_⟩
  · rw [hdeclared] at h
    cases h
  · cases kind with
    | arguments | editor => trivial
    | self space =>
        refine .mk havoids fun t ht => ?_
        rw [hnested] at ht
        cases ht

theorem seclusion_lawful (hvim : setup.spaces.vim = kind.space setup → kind = editor)
    (t₀ : Table) : (kind.seclusion setup (kind.Agrees t₀)).Lawful where
  set value hc hs hmem hspells hok htarget _ ht :=
    ht.insert (not_covers_of_set hc hs hmem hspells hok htarget) value
  unlet hc hok hspace _ ht := ht.erase (not_covers_of_unlet hc hok hspace)
  lockName name _ ht := fun other hother =>
    (Table.get?_lockName _ name other).trans (ht other hother)
  unlockName _ _ ht := ht
  setVim value heq hname ht := by
    obtain rfl := hvim heq
    exact ht.insert (fun hnot => hnot (maintained_of_incidental hname)) value
  setError value heq hname ht := by
    obtain rfl := hvim heq
    exact ht.insert (fun hnot => hnot hname) value
  dropVim heq hname ht := by
    obtain rfl := hvim heq
    exact ht.erase fun hnot => hnot (maintained_of_incidental hname)
  global hshown := by
    cases kind with
    | arguments | editor => cases hshown
    | self => rcases hshown with hshown | hshown <;> cases hshown
  within isClosure parent self hown := by
    cases kind with
    | arguments | editor => trivial
    | self space =>
        rintro f ⟨⟩ hlocals
        refine absurd ?_ hown
        rw [← hlocals]
        cases isClosure
        · rfl
        · cases parent <;> rfl
  inner := by
    cases kind with
    | arguments | editor => exact id
    | self =>
        rintro _ _ _ _ ⟨f, ⟨⟩, houter⟩
        exact houter rfl
  lock _ := trivial
  unlock _ := trivial
  nested hs ht := by
    cases kind with
    | arguments | editor => trivial
    | self => exact hs.nested ht
  closure hs hdeclared hclosure ht := hs _ _ hdeclared hclosure _ ht
  lambda := spares_lambdaBody

end ReadOnly

/-- Whatever statements are executed, in whatever contexts and however they end, the read-only
variables of a namespace that is out of the hands of code are bound to the objects they were bound
to; and every attempt to write one of them fails. -/
theorem readOnly_kept {kind : ReadOnly} {setup : Setup} (hparse : (kind.apart setup).Parses)
    {s : State} (hs : (kind.apart setup).Good s) :
    (∀ fuel c stmt, (kind.apart setup).Runs c → (kind.apart setup).Does c stmt →
      let t := (exec (Machine.ofFuel fuel) c stmt setup s).2
      (kind.apart setup).Good t ∧
        kind.Agrees (s.heap.table (kind.space setup)) (t.heap.table (kind.space setup))) ∧
    (∀ fuel code, (∀ p ∈ code, (kind.apart setup).Runs p.1 ∧ (kind.apart setup).Does p.1 p.2) →
      let t := (runStatements fuel code setup s).2
      (kind.apart setup).Good t ∧
        kind.Agrees (s.heap.table (kind.space setup)) (t.heap.table (kind.space setup))) ∧
    ∀ M c, kind.Refuses M setup c := by
  -- in what follows the variables are compared with what they are in this state
  let t₀ := s.heap.table (kind.space setup)
  have hgood : (kind.seclusion setup (kind.Agrees t₀)).Good s := hs.keeping fun _ _ => rfl
  have hback : ∀ {t : State}, (kind.seclusion setup (kind.Agrees t₀)).Good t →
      (kind.apart setup).Good t ∧ kind.Agrees t₀ (t.heap.table (kind.space setup)) :=
    fun ht => ⟨ht.keeping trivial, ht.keeps⟩
  refine ⟨fun fuel c stmt hc hstmt => hback ?_, fun fuel code hcode => ?_, fun M c =>
    kind.refuses M setup c⟩
  · have hlawful := ReadOnly.seclusion_lawful (ReadOnly.editor_of_vim hc) t₀
    exact Seclusion.exec_good hlawful ⟨hparse.statements, hparse.expression⟩ hc hstmt fuel hgood
  · cases code with
    | nil => exact hback hgood
    | cons first rest =>
        have hc := (hcode first List.mem_cons_self).1
        have hlawful := ReadOnly.seclusion_lawful (ReadOnly.editor_of_vim hc) t₀
        exact hback (Seclusion.runStatements_good hlawful ⟨hparse.statements, hparse.expression⟩
          hcode fuel hgood)

/-! ## A function with one argument -/

/-- The code of a function that was called with one Number, `x`. -/
def callContext : Context :=
  { topContext with frame := some { own := { locals := ⟨6⟩, arguments := ⟨7⟩ } } }

def oneArgument : State where
  heap := { cells := #[
    { value := .dict {} }, { value := .dict {} }, { value := .dict {} }, { value := .dict {} },
    { value := .dict {} }, { value := .dict {} }, { value := .dict {} },
    { value := .dict { entries := [("x", ⟨8⟩)] } }, { value := .number 1 }] }

theorem callContext_runs : ((ReadOnly.arguments ⟨7⟩).apart apartSetup).Runs callContext := by
  refine ⟨?_, trivial⟩
  intro scope name first rest hvisible hmem
  cases scope with
  | none => cases hvisible; cases List.mem_singleton.mp hmem
  | some scope =>
      cases scope with
      | arguments => rfl
      | unknown => cases hvisible
      | _ => cases hvisible; cases List.mem_singleton.mp hmem

theorem oneArgument_good : ((ReadOnly.arguments ⟨7⟩).apart apartSetup).Good oneArgument := by
  refine ⟨⟨⟨_, rfl, trivial⟩, ?_⟩, fun d hd => by simp [oneArgument] at hd⟩
  rintro ⟨i⟩ hmem
  rcases i with _ | _ | _ | _ | _ | _ | _ | _ | _ | i
  case succ.succ.succ.succ.succ.succ.succ.zero => cases List.mem_singleton.mp hmem
  all_goals cases hmem

/-- Assigns a Number to `x`. -/
def assignX (scope : Option Scope) : Stmt :=
  .assign none (.var none scope [.plain "x"]) .set (.int none 2)

/-- The argument cannot be assigned, and a local variable of its name is another one. -/
theorem oneArgument_kept :
    let code := [(callContext, assignX (some .arguments)), (callContext, assignX none)]
    ((runStatements 1 code apartSetup oneArgument).2.heap.table ⟨7⟩).get? "x" = some ⟨8⟩ := by
  intro code
  have hparse : ((ReadOnly.arguments ⟨7⟩).apart apartSetup).Parses :=
    { statements := fun h => nomatch h
      expression := fun h => nomatch h }
  have hclean : ∀ scope, ((ReadOnly.arguments ⟨7⟩).apart apartSetup).Clean (assignX scope) := by
    intro scope
    refine .mk (fun _ _ => nofun) ?_ nofun nofun nofun
    exact List.forall_mem_cons.mpr ⟨.mk (fun _ _ => nofun) nofun,
      List.forall_mem_singleton.mpr (.mk (fun _ _ => nofun) nofun)⟩
  have hcode : ∀ p ∈ code, ((ReadOnly.arguments ⟨7⟩).apart apartSetup).Runs p.1 ∧
      ((ReadOnly.arguments ⟨7⟩).apart apartSetup).Does p.1 p.2 := by
    intro p hp
    simp only [code, List.mem_cons, List.not_mem_nil, or_false] at hp
    rcases hp with rfl | rfl
    · exact ⟨callContext_runs, hclean _, False.elim⟩
    · exact ⟨callContext_runs, hclean _, False.elim⟩
  obtain ⟨-, hagrees⟩ := (readOnly_kept hparse oneArgument_good).2.1 1 code hcode
  exact hagrees "x" trivial

/-- `let a:['x'] = 2` -/
def assignItemOfArguments : Stmt :=
  .assign none (.index none (.wholeScope none (some .arguments)) (.text none "x")) .set
    (.int none 2)

/-- An argument is changed by a statement that takes the arguments as a Dictionary. -/
theorem whole_arguments_writable :
    (oneArgument.heap.table ⟨7⟩).get? "x" = some ⟨8⟩ ∧
    ∃ s, exec (Machine.ofFuel 1) callContext assignItemOfArguments apartSetup oneArgument =
        (.ok .success, s) ∧
      (s.heap.table ⟨7⟩).get? "x" = some ⟨9⟩ :=
  ⟨rfl, _, rfl, rfl⟩

end Vimscript
