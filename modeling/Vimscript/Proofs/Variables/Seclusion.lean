import Vimscript.Proofs.Eval.RegimeCall
import Vimscript.Proofs.Variables.Locking
import Vimscript.Session

/-!
# Secluded namespaces

A namespace is an object like any other, and code that holds it as a
Dictionary can change it by every operation on Dictionaries. As long as no
object refers to it and no code takes it as a whole, it is reached through
variables only, and the operations on variables are few. A `Seclusion` is a
namespace with something that is to stay true of its table, the scopes
under which it shows, and the conditions on code. What is left to prove for
a particular one (`Seclusion.Lawful`) is about its table: that a variable
written, removed, locked or unlocked in it leaves true what is to stay
true.
-/

namespace Vimscript

open Run

/-! ## The policy -/

theorem Heap.value_setValue_cases (h : Heap) (r x : Ref) (v : Value) :
    x = r ∧ (h.setValue r v).value x = v ∨ (h.setValue r v).value x = h.value x := by
  by_cases hx : x = r
  · subst hx
    by_cases hin : x.index < h.size
    · exact .inl ⟨rfl, value_setValue h v hin⟩
    · right
      have hout := Nat.not_lt.mp hin
      rw [value_of_size_le hout, value_of_size_le (by rwa [size_setValue])]
  · right
    rw [value, value, cell_setValue_of_ne h v hx]

/-- No object refers to a namespace, and something is true of its table. -/
def Policy.secluded (space : Ref) (Keeps : Table → Prop) : Policy where
  Holds h := (∃ t, h.value space = .dict t ∧ Keeps t) ∧ ∀ r, space ∉ (h.value r).refs
  Given r := r ≠ space
  Free r := r ≠ space

namespace Policy

variable {space : Ref} {Keeps : Table → Prop} {h : Heap}

theorem secluded_table (hh : (secluded space Keeps).Holds h) : Keeps (h.table space) := by
  obtain ⟨⟨t, ht, hkeeps⟩, -⟩ := hh
  rw [Heap.table_of_dict ht]
  exact hkeeps

theorem secluded_carries (hh : (secluded space Keeps).Holds h) (r : Ref) :
    (secluded space Keeps).Carries (h.value r) := by
  rintro x hx rfl
  exact hh.2 r hx

theorem secluded_setValue {r : Ref} {v : Value} (hh : (secluded space Keeps).Holds h)
    (hr : r ≠ space) (hv : (secluded space Keeps).Carries v) :
    (secluded space Keeps).Holds (h.setValue r v) := by
  obtain ⟨⟨t, ht, hkeeps⟩, hrefs⟩ := hh
  refine ⟨⟨t, ?_, hkeeps⟩, fun x hx => ?_⟩
  · rw [Heap.value, Heap.cell_setValue_of_ne h v hr.symm]
    exact ht
  · rcases h.value_setValue_cases r x v with ⟨-, hvalue⟩ | hvalue <;> rw [hvalue] at hx
    · exact hv space hx rfl
    · exact hrefs x hx

theorem secluded_lawful : (secluded space Keeps).Lawful where
  carries r hh := secluded_carries hh r
  alloc := by
    intro h v hh hv
    obtain ⟨⟨t, ht, hkeeps⟩, hrefs⟩ := hh
    have hin := Heap.index_lt_of_dict ht
    have hnew : (h.alloc v).1 ≠ space := by
      rintro rfl
      exact Nat.lt_irrefl _ hin
    refine ⟨⟨⟨t, (h.value_alloc_of_lt v hin).trans ht, hkeeps⟩, fun x hx => ?_⟩, hnew, hnew⟩
    rw [Heap.value, Heap.cell_alloc] at hx
    split at hx
    · exact hv space hx rfl
    · exact hrefs x hx
  container _ _ := trivial
  free _ hr _ _ := hr
  freeBlob _ hr _ := hr
  replace hh hr hv := secluded_setValue hh hr hv
  setItem := by
    intro h list item value items i hh hlist hitems _ _ hvalue
    have hcarries := secluded_carries hh list
    rw [hitems] at hcarries
    refine secluded_setValue hh hlist (carries_list.mpr fun x hx => ?_)
    rcases List.mem_or_eq_of_mem_set hx with hx | rfl
    · exact carries_list.mp hcarries x hx
    · exact hvalue
  setEntry := by
    intro h dict value t key hh hdict ht _ hvalue
    have hcarries := secluded_carries hh dict
    rw [ht] at hcarries
    exact secluded_setValue hh hdict (hcarries.insert key hvalue)

/-- A change to the table of any namespace. -/
theorem secluded_modifyTable {ns : Ref} {f : Table → Table} (hh : (secluded space Keeps).Holds h)
    (hcarries : (secluded space Keeps).Carries (.dict (f (h.table ns))))
    (hkeeps : ns = space → Keeps (f (h.table ns))) :
    (secluded space Keeps).Holds (h.modifyTable ns f) := by
  by_cases hns : ns = space
  · subst hns
    obtain ⟨⟨t, ht, -⟩, hrefs⟩ := hh
    refine ⟨⟨_, Heap.value_setValue h _ (Heap.index_lt_of_dict ht), hkeeps rfl⟩, fun x hx => ?_⟩
    rcases h.value_setValue_cases ns x (.dict (f (h.table ns))) with ⟨-, hvalue⟩ | hvalue <;>
      rw [Heap.modifyTable, hvalue] at hx
    · exact hcarries ns hx rfl
    · exact hrefs x hx
  · exact secluded_setValue hh hns hcarries

theorem secluded_lockTo (hh : (secluded space Keeps).Holds h) (isLocked : Bool) (depth : Int)
    (r : Ref) : (secluded space Keeps).Holds (h.lockTo isLocked depth r) := by
  obtain ⟨⟨t, ht, hkeeps⟩, hrefs⟩ := hh
  refine ⟨⟨t, ?_, hkeeps⟩, fun x => ?_⟩
  · rw [Heap.lockTo, Heap.value_lockWithin]
    exact ht
  · rw [Heap.lockTo, Heap.value_lockWithin]
    exact hrefs x

end Policy

/-! ## Where a namespace shows -/

/-- A namespace is visible in a context only under certain scopes. -/
def Spaces.Shows (sp : Spaces) (Shown : Option Scope → Prop) (space : Ref) (c : Context) : Prop :=
  ∀ scope name first rest, sp.visible scope name c = .ok (first, rest) →
    space ∈ first :: rest → Shown scope

namespace Spaces

variable {sp : Spaces} {Shown : Option Scope → Prop} {space : Ref} {c : Context}
  {scope : Option Scope} {name : String} {h : Heap}

theorem visible_of_space (hspace : sp.space scope c h = (.ok space, h)) :
    ∃ rest, sp.visible scope "" c = .ok (space, rest) := by
  rw [Spaces.space] at hspace
  rcases hvisible : sp.visible scope "" c with cause | ⟨first, rest⟩ <;> rw [hvisible] at hspace
  · cases hspace
  · cases hspace
    exact ⟨rest, rfl⟩

theorem searched_of_visible {first : Ref} {rest : List Ref}
    (hvisible : sp.visible scope name c = .ok (first, rest)) :
    sp.searched scope name c h = (.ok (first :: rest), h) := by
  rw [searched, hvisible]
  rfl

theorem Shows.of_space (hc : sp.Shows Shown space c)
    (hspace : sp.space scope c h = (.ok space, h)) : Shown scope := by
  obtain ⟨rest, hvisible⟩ := visible_of_space hspace
  exact hc scope "" space rest hvisible List.mem_cons_self

/-- A name without a scope is written where it is found or into the innermost namespace. -/
theorem visible_or_space (htarget : sp.target none name c h = (.ok space, h)) :
    (∃ first rest, sp.visible none name c = .ok (first, rest) ∧ space ∈ first :: rest) ∨
      sp.space none c h = (.ok space, h) := by
  unfold target at htarget
  dsimp only at htarget
  rcases hvisible : sp.visible none name c with cause | ⟨first, rest⟩
  · have hsearched : sp.searched none name c h = (.error (.ofCause cause), h) := by
      rw [searched, hvisible]
      rfl
    rw [Op.bind_of_error hsearched] at htarget
    cases htarget
  · rw [Op.bind_of_ok (searched_of_visible hvisible), Op.bind_of_ok (Op.get_eq h)] at htarget
    rcases howner : h.owner? name (first :: rest) with _ | ns <;> rw [howner] at htarget
    · exact .inr htarget
    · cases htarget
      exact .inl ⟨first, rest, rfl, List.mem_of_find?_eq_some howner⟩

/-- A variable is written into a namespace that is visible. -/
theorem Shows.of_target (hc : sp.Shows Shown space c)
    (htarget : sp.target scope name c h = (.ok space, h)) : Shown scope := by
  cases scope with
  | some scope => exact hc.of_space htarget
  | none =>
      rcases visible_or_space htarget with ⟨first, rest, hvisible, hmem⟩ | hspace
      · exact hc none name first rest hvisible hmem
      · exact hc.of_space hspace

/-- What is visible in the frame of a call is its own or visible where the function was declared. -/
theorem mem_visible_enter {script : Script} {parent : Option Frame} {own : Level}
    {isClosure : Bool} {self : Option Ref} {first : Ref} {rest : List Ref}
    (hvisible : sp.visible scope name ⟨script, some (.enter own isClosure parent self)⟩ =
      .ok (first, rest)) (hmem : space ∈ first :: rest) :
    space = own.locals ∨ space = own.arguments ∨
      ∃ first rest, sp.visible scope name ⟨script, parent⟩ = .ok (first, rest) ∧
        space ∈ first :: rest := by
  by_cases hframe : scope = none ∨ scope = some .locals ∨ scope = some .arguments
  · rcases hframe with rfl | rfl | rfl <;> cases isClosure <;> rcases parent with _ | p <;>
      simp only [visible, Frame.enter, Except.ok.injEq, Prod.mk.injEq] at hvisible ⊢ <;>
      grind
  · -- no frame has a part in the other scopes
    refine .inr (.inr ⟨first, rest, ?_, hmem⟩)
    rw [← hvisible]
    rcases scope with _ | scope
    · simp at hframe
    · cases scope <;> simp_all [visible]

/-- The frame of a call shows a namespace where the code that declared the function could see it. -/
theorem Shows.enter {script : Script} {parent : Option Frame} {own : Level}
    (hc : sp.Shows Shown space ⟨script, parent⟩) (hlocals : own.locals ≠ space)
    (harguments : own.arguments ≠ space) (isClosure : Bool) (self : Option Ref) :
    sp.Shows Shown space ⟨script, some (.enter own isClosure parent self)⟩ := by
  intro scope name first rest hvisible hmem
  rcases mem_visible_enter hvisible hmem with hown | hown | ⟨first, rest, hvisible, hmem⟩
  · exact absurd hown.symm hlocals
  · exact absurd hown.symm harguments
  · exact hc scope name first rest hvisible hmem

/-- At the top level of a script a namespace shows where it does in any of the script's frames. -/
theorem Shows.top {script : Script} {frame : Option Frame}
    (hglobal : Shown (some .global) → Shown none) (hc : sp.Shows Shown space ⟨script, frame⟩) :
    sp.Shows Shown space ⟨script, none⟩ := by
  intro scope name first rest hvisible hmem
  cases scope with
  | none =>
      cases hvisible
      exact hglobal (hc (some .global) name _ _ rfl hmem)
  | some scope =>
      cases scope with
      | locals | arguments => cases hvisible
      | _ => exact hc _ name first rest hvisible hmem

end Spaces

/-! ## Seclusions -/

/-- A namespace that is kept out of the hands of code. -/
structure Seclusion where
  setup : Setup
  space : Ref
  /-- What stays true of its table. -/
  Keeps : Table → Prop
  /-- The scopes under which it shows. They are not used as a whole. -/
  Shown : Option Scope → Prop
  /-- What else is true of the contexts in which code runs. -/
  Within : Context → Prop
  /-- What else is true of every statement. -/
  Code : Stmt → Prop
  /-- Contexts in which there is a condition on statements of its own, -/
  Inner : Context → Prop
  /-- which is this. -/
  Spares : Stmt → Prop
  /-- Whether code locks, and whether it unlocks. -/
  Locks : Bool → Prop

namespace Seclusion

variable (V : Seclusion)

/-- Expressions that do not use the namespace as a whole. -/
def Evals (e : Expr) : Prop := e.Takes fun scope => ¬V.Shown scope

/-- Statements that satisfy the conditions, with all their parts. -/
def Clean (s : Stmt) : Prop := s.Every V.Code V.Evals

/-- Statements that are executed in a context. -/
def Does (c : Context) (s : Stmt) : Prop := V.Clean s ∧ (V.Inner c → V.Spares s)

/-- Contexts in which code runs. -/
def Runs (c : Context) : Prop := V.setup.spaces.Shows V.Shown V.space c ∧ V.Within c

/-- Functions that have been declared by such code in such a context. -/
structure Allows (d : Declaration) : Prop where
  shows : V.setup.spaces.Shows V.Shown V.space ⟨d.script, d.parent⟩
  clean {s : Stmt} : s ∈ d.body → V.Clean s
  spares {s : Stmt} : d.signature.flags.closure = true → s ∈ d.body → V.Spares s
  default {p : Vimscript.Name × Expr} : p ∈ d.signature.defaults → V.Evals p.2

/-- What the parser makes of a text is such code as well. -/
structure Parses : Prop where
  statements {parser : Parser} {text : String} {tree : Data} {program : Program} :
    V.setup.parser = some parser → parser.statements text = .ok tree →
    Reader.program tree = .ok program → ∀ s ∈ program.body, V.Clean s ∧ V.Spares s
  expression {parser : Parser} {text : String} {tree : Data} {e : Expr} :
    V.setup.parser = some parser → parser.expression text = .ok tree →
    Reader.expression tree = .ok e → V.Evals e

/-- The regime of a seclusion. -/
def regime : Regime where
  setup := V.setup
  policy := .secluded V.space V.Keeps
  Runs := V.Runs
  Evals := V.Evals
  Does := V.Does
  Assigns c e := ∃ s, V.Does c s ∧ e ∈ s.targets
  Locks := V.Locks
  Allows := V.Allows

/-- What a seclusion has to make sure of, apart from the variables that tell of an error. -/
structure Secure : Prop where
  -- variables
  set {c : Context} {s : Stmt} {mark : Option Mark} {scope : Option Scope} {parts : List NamePart}
    {name : String} {h : Heap} (value : Ref) : V.Runs c → V.Does c s →
    .var mark scope parts ∈ s.targets → Spells parts name →
    Spaces.checkWritable scope name c = .ok () →
    V.setup.spaces.target scope name c h = (.ok V.space, h) →
    (h.table V.space).isNameLocked name = false → V.Keeps (h.table V.space) →
    V.Keeps ((h.table V.space).insert name value)
  unlet {c : Context} {scope : Option Scope} {name : String} {h : Heap} : V.Runs c →
    Spaces.checkWritable scope name c = .ok () →
    V.setup.spaces.space scope c h = (.ok V.space, h) →
    (h.table V.space).isNameLocked name = false → V.Keeps (h.table V.space) →
    V.Keeps ((h.table V.space).erase name)
  lockName {t : Table} (name : String) : V.Locks true → V.Keeps t → V.Keeps (t.lockName name)
  unlockName {t : Table} (name : String) : V.Locks false → V.Keeps t → V.Keeps (t.unlockName name)
  setVim {t : Table} {name : String} (value : Ref) : V.setup.spaces.vim = V.space →
    name ∈ incidental → V.Keeps t → V.Keeps (t.insert name value)
  dropVim {t : Table} {name : String} : V.setup.spaces.vim = V.space →
    name ∈ incidental → V.Keeps t → V.Keeps (t.erase name)
  -- contexts
  global : V.Shown (some .global) → V.Shown none
  within {script : Script} {own : Level} (isClosure : Bool) (parent : Option Frame)
    (self : Option Ref) : own.locals ≠ V.space →
    V.Within ⟨script, some (.enter own isClosure parent self)⟩
  inner {script : Script} {own : Level} {parent : Option Frame} {self : Option Ref} :
    ¬V.Inner ⟨script, some (.enter own false parent self)⟩
  -- code
  lock {mark : Option Mark} {targets : List Expr} {depth : Int} :
    V.Code (.lock mark targets depth) → V.Locks true
  unlock {mark : Option Mark} {targets : List Expr} {depth : Int} :
    V.Code (.unlock mark targets depth) → V.Locks false
  nested {s t : Stmt} : V.Spares s → t ∈ s.nested → V.Spares t
  closure {s t : Stmt} {signature : Signature} {body : List Stmt} : V.Code s →
    s.declared? = some (signature, body) → signature.flags.closure = true → t ∈ body → V.Spares t
  lambda {params : List Vimscript.Name} {body : Expr} {s : Stmt} :
    s ∈ Registry.lambdaBody params body → V.Code s ∧ V.Spares s

/-- What stays true of the table is true whatever error is handled. -/
structure Lawful : Prop extends V.Secure where
  setError {t : Table} {name : String} (value : Ref) : V.setup.spaces.vim = V.space →
    name ∈ maintained → V.Keeps t → V.Keeps (t.insert name value)

variable {V}

/-- The body of a lambda evaluates its parameters and its expression. -/
theorem clean_lambdaBody (hV : V.Secure) {params : List Vimscript.Name} {body : Expr}
    (hbody : V.Evals body) {s : Stmt} (hs : s ∈ Registry.lambdaBody params body) : V.Clean s := by
  have hcode := (hV.lambda hs).1
  have hvar : ∀ (scope : Option Scope) (p : Vimscript.Name),
      V.Evals (.var none scope [.ofName p]) := by
    intro scope p
    refine .mk (fun _ _ h => nomatch h) ?_
    cases p <;> exact fun x hx => nomatch hx
  unfold Registry.lambdaBody at hs
  rcases List.mem_append.mp hs with hs | hs
  · obtain ⟨p, -, rfl⟩ := List.mem_map.mp hs
    refine .mk hcode ?_ (fun t ht => nomatch ht) (fun _ _ h => nomatch h) (fun _ _ h => nomatch h)
    intro e he
    simp only [Stmt.exprs, List.mem_cons, List.not_mem_nil, or_false] at he
    rcases he with rfl | rfl
    · exact hvar _ p
    · exact hvar _ p
  · obtain rfl := List.mem_singleton.mp hs
    refine .mk hcode ?_ (fun t ht => nomatch ht) (fun _ _ h => nomatch h) (fun _ _ h => nomatch h)
    intro e he
    obtain rfl := List.mem_singleton.mp he
    exact hbody

section

variable (hV : V.Secure) {c : Context} (hc : V.Runs c) {scope : Option Scope} {name : String}

theorem checkWritable_of_ok {h : Heap} {a : Unit}
    (hok : Spaces.requireWritable scope name c h = (.ok a, h)) :
    Spaces.checkWritable scope name c = .ok () := by
  rw [Spaces.requireWritable] at hok
  rcases hcheck : Spaces.checkWritable scope name c with cause | ⟨⟩
  · rw [hcheck] at hok
    cases hok
  · rfl

include hc in
theorem space_safe (hscope : ¬V.Shown scope) :
    Op.Safe (.secluded V.space V.Keeps) (· ≠ V.space) (V.setup.spaces.space scope c) := by
  have hreads := V.setup.spaces.space_reads scope c
  intro h hh
  refine ⟨?_, ?_⟩
  · rw [hreads h]
    exact hh
  · rintro ns hns rfl
    exact hscope (hc.1.of_space (Prod.ext hns (hreads h)))

include hV hc in
theorem set_safe {s : Stmt} {mark : Option Mark} {parts : List NamePart} {value : Ref}
    (hs : V.Does c s) (htarget : .var mark scope parts ∈ s.targets) (hname : Spells parts name)
    (hvalue : value ≠ V.space) : Op.Safe (.secluded V.space V.Keeps) (fun _ => True)
      (V.setup.spaces.set scope name value c) := by
  intro h hh
  refine .after (Spaces.requireWritable_reads scope name c) hh fun _ hok =>
    .after (V.setup.spaces.target_reads scope name c) hh fun ns hns => .get ?_
  dsimp only
  split
  · exact ⟨hh, by rintro b ⟨⟩⟩
  · rename_i hfree
    refine ⟨Policy.secluded_modifyTable hh ?_ ?_, fun _ _ => trivial⟩
    · exact (Policy.secluded_lawful.table hh ns).insert name hvalue
    · rintro rfl
      exact hV.set value hc hs htarget hname (checkWritable_of_ok hok) hns
        (Bool.eq_false_iff.mpr hfree) (Policy.secluded_table hh)

include hV hc in
theorem unlet_safe (bang : Bool) : Op.Safe (.secluded V.space V.Keeps) (fun _ => True)
    (V.setup.spaces.unlet scope name bang c) := by
  intro h hh
  refine .after (Spaces.requireWritable_reads scope name c) hh fun _ hok =>
    .after (V.setup.spaces.space_reads scope c) hh fun ns hns => .get ?_
  dsimp only
  split
  · cases bang
    · exact ⟨hh, by rintro b ⟨⟩⟩
    · exact .pure hh trivial
  · split
    · exact ⟨hh, by rintro b ⟨⟩⟩
    · rename_i hfree
      refine ⟨Policy.secluded_modifyTable hh ?_ ?_, fun _ _ => trivial⟩
      · exact (Policy.secluded_lawful.table hh ns).erase name
      · rintro rfl
        exact hV.unlet hc (checkWritable_of_ok hok) hns (Bool.eq_false_iff.mpr hfree)
          (Policy.secluded_table hh)

include hV in
theorem setLock_safe {isLocked : Bool} (depth : Int) (hlocks : V.Locks isLocked) :
    Op.Safe (.secluded V.space V.Keeps) (fun _ => True)
      (V.setup.spaces.setLock isLocked scope name depth c) := by
  intro h hh
  refine .after (V.setup.spaces.searched_reads scope name c) hh fun namespaces _ => .get ?_
  split
  · exact .fail _ hh
  · rename_i ns _
    have hlocked : (Policy.secluded V.space V.Keeps).Holds (h.modifyTable ns fun t =>
        if isLocked then t.lockName name else t.unlockName name) := by
      have hcarries := Policy.secluded_lawful.table hh ns
      refine Policy.secluded_modifyTable hh ?_ ?_
      · cases isLocked
        · exact hcarries
        · rw [if_pos rfl, Table.lockName]
          split <;> exact hcarries
      · rintro rfl
        cases isLocked
        · exact hV.unlockName name hlocks (Policy.secluded_table hh)
        · exact hV.lockName name hlocks (Policy.secluded_table hh)
    refine Op.SafeAt.bind (U := fun _ => True) ⟨hlocked, fun _ _ => trivial⟩
      fun _ h' hmodified hh' _ => .get ?_
    split
    · exact ⟨Policy.secluded_lockTo hh' isLocked depth _, fun _ _ => trivial⟩
    · exact .pure hh' trivial

theorem setVim_safe {value : Ref} (hvalue : value ≠ V.space)
    (hkeeps : V.setup.spaces.vim = V.space → ∀ t, V.Keeps t → V.Keeps (t.insert name value)) :
    Op.Safe (.secluded V.space V.Keeps) (fun _ => True) (V.setup.spaces.setVim name value) := by
  intro h hh
  refine ⟨Policy.secluded_modifyTable hh ?_ fun hvim => ?_, fun _ _ => trivial⟩
  · exact (Policy.secluded_lawful.table hh _).insert name hvalue
  · rw [hvim]
    exact hkeeps hvim _ (Policy.secluded_table hh)

include hV in
theorem dropVim_holds {h : Heap} (hname : name ∈ incidental)
    (hh : (Policy.secluded V.space V.Keeps).Holds h) :
    (Policy.secluded V.space V.Keeps).Holds
      (h.modifyTable V.setup.spaces.vim (·.erase name)) := by
  refine Policy.secluded_modifyTable hh ?_ fun hvim => ?_
  · exact (Policy.secluded_lawful.table hh _).erase name
  · have hkeeps := Policy.secluded_table hh
    rw [← hvim] at hkeeps
    exact hV.dropVim hvim hname hkeeps

end

theorem regime_lawful (hV : V.Secure) (hparse : V.Parses) : V.regime.Lawful where
  policy := Policy.secluded_lawful
  part he hx := he.part hx
  expr hs he := hs.1.expr he
  nested hs ht := ⟨hs.1.nested ht, fun hc => hV.nested (hs.2 hc) ht⟩
  target hs he := ⟨_, hs, he⟩
  lock hs := hV.lock hs.1.here
  unlock hs := hV.unlock hs.1.here
  statements _ _ hparser htree hprogram s hs := by
    obtain ⟨hclean, hspares⟩ := hparse.statements hparser htree hprogram s hs
    exact ⟨hclean, fun _ => hspares⟩
  expression := hparse.expression
  whole hc he := space_safe hc he.whole
  set := by
    rintro c mark scope parts name value hc ⟨s, hs, htarget⟩ hname hvalue
    exact set_safe hV hc hs htarget hname hvalue
  unlet _ _ bang hc := unlet_safe hV hc bang
  setLock _ _ depth _ hlocks := setLock_safe hV depth hlocks
  lockTo depth _ hh _ := Policy.secluded_lockTo hh _ depth _
  setVim hname hvalue := setVim_safe hvalue fun hvim _ => hV.setVim _ hvim hname
  dropVim hname hh := dropVim_holds hV hname hh
  lambda := by
    intro c mark params body name hc he
    exact {
      shows := hc.1
      clean := clean_lambdaBody hV (he.part (List.mem_singleton_self body))
      spares := fun _ hs => (hV.lambda hs).2
      default := fun hp => nomatch hp }
  declared := by
    intro c s signature body name scope hc hs hdeclared
    obtain ⟨hdefaults, hbody⟩ := hs.1.declared hdeclared
    refine ⟨?_, fun ht => hbody _ ht, fun hclosure ht => ?_, fun hp => hdefaults _ hp⟩
    · unfold Declaration.make
      dsimp only
      split
      · exact hc.1
      · exact hc.1.top hV.global
    · exact hV.closure hs.1.here hdeclared hclosure ht
  deleted hd := ⟨hd.shows, hd.clean, hd.spares, hd.default⟩
  enter := by
    intro d own self hd hown
    have hlocals : own.locals ≠ V.space := (hown own.locals (by simp)).1
    have harguments : own.arguments ≠ V.space := (hown own.arguments (by simp)).1
    exact ⟨hd.shows.enter hlocals harguments _ self, hV.within _ _ self hlocals⟩
  body := by
    intro d own self s hd hs
    refine ⟨hd.clean hs, fun hinner => hd.spares ?_ hs⟩
    cases hclosure : d.signature.flags.closure
    · rw [hclosure] at hinner
      exact absurd hinner hV.inner
    · rfl
  default hd hp := hd.default hp

theorem regime_handles (hV : V.Lawful) (hparse : V.Parses) (M : Machine) : V.regime.Handles M :=
  handles_of_setVim (regime_lawful hV.toSecure hparse)
    (fun _ value hname hvalue _ => setVim_safe hvalue fun hvim _ => hV.setError value hvim hname) M

/-! ## Whole runs -/

/-- A state in which the namespace is secluded: no object refers to it, and the functions that have
been declared are such as the code is. -/
def Good (V : Seclusion) (s : State) : Prop := V.regime.Good s

theorem Good.keeps {s : State} (hs : V.Good s) : V.Keeps (s.heap.table V.space) :=
  Policy.secluded_table hs.1

/-- More may be asked of the table of a secluded namespace. -/
theorem Good.keeping {s : State} {Keeps : Table → Prop} (hs : V.Good s)
    (hkeeps : Keeps (s.heap.table V.space)) : Seclusion.Good { V with Keeps } s := by
  obtain ⟨⟨⟨t, ht, -⟩, hrefs⟩, hregistry⟩ := hs
  refine ⟨⟨⟨t, ht, ?_⟩, hrefs⟩, fun d hd => ?_⟩
  · change s.heap.value V.space = .dict t at ht
    rwa [Heap.table_of_dict ht] at hkeeps
  · obtain ⟨hshows, hclean, hspares, hdefault⟩ := hregistry d hd
    exact ⟨hshows, hclean, hspares, hdefault⟩

end Seclusion

/-- A statement leaves the namespace secluded. -/
theorem Seclusion.exec_good {V : Seclusion} (hV : V.Lawful) (hparse : V.Parses) {c : Context}
    {s : Stmt} (hc : V.Runs c) (hs : V.Does c s) (fuel : Nat) {t : State} (ht : V.Good t) :
    V.Good (exec (Machine.ofFuel fuel) c s V.setup t).2 := by
  have hG := regime_lawful hV.toSecure hparse
  have hM := Regime.ofFuel_drives hG (fun _ => regime_handles hV hparse _) fuel
  exact (exec_safe hG hM hc hs t ht).1

theorem runScript_safe {G : Regime} (hG : G.Lawful) : ∀ body : List (Run Signal),
    (∀ x ∈ body, G.Safe G.policy.Signals x) → G.Safe (fun _ => True) (runScript body)
  | [], _ => .pure trivial
  | x :: rest, hbody => by
      obtain ⟨hfirst, hothers⟩ := List.forall_mem_cons.mp hbody
      have hrest := runScript_safe hG rest hothers
      refine .bind (.attempt hfirst) fun result _ => ?_
      split
      · exact hrest
      · exact hrest
      · exact .bind (report_safe hG _) fun _ _ => hrest
      · exact .bind (report_safe hG _) fun _ _ => hrest
      · exact .bind (report_safe hG _) fun _ _ => hrest
      · exact .bind (report_safe hG _) fun _ _ => hrest
      · exact .pure trivial
      · exact .throw _

/-- Statements, each in a context of its own, as a script runs them: what one fails with is reported
and the next one runs. -/
def runStatements (fuel : Nat) (code : List (Context × Stmt)) : Run Unit :=
  runScript (code.map fun p => exec (Machine.ofFuel fuel) p.1 p.2)

/-- Whatever the statements do and however they end, the namespace stays secluded. -/
theorem Seclusion.runStatements_good {V : Seclusion} (hV : V.Lawful) (hparse : V.Parses)
    {code : List (Context × Stmt)} (hcode : ∀ p ∈ code, V.Runs p.1 ∧ V.Does p.1 p.2) (fuel : Nat)
    {s : State} (hs : V.Good s) : V.Good (runStatements fuel code V.setup s).2 := by
  have hG := regime_lawful hV.toSecure hparse
  have hM := Regime.ofFuel_drives hG (fun _ => regime_handles hV hparse _) fuel
  refine (runScript_safe hG _ (fun x hx => ?_) s hs).1
  obtain ⟨p, hp, rfl⟩ := List.mem_map.mp hx
  exact exec_safe hG hM (hcode p hp).1 (hcode p hp).2

end Vimscript
