import Vimscript.Proofs.Function.Registry
import Vimscript.Proofs.Run.Result

/-!
# Operations on the declared functions

Declaring, storing and deleting functions go through many checks. What an
operation does once none of them stands in its way is said by
`Operation.Does`: it adds one declaration, which its name leads to
afterwards, or it deletes the one that its name stood for. The checks
are opened once, in `perform_does`; every later fact is about added and
deleted declarations only.

Only deleting marks a declaration, so the marks of a registry are the
record of what has been deleted (`Sound.after_flagged`). That deleting marks the
right one rests on soundness: where a name leads, there is a declaration.
-/

namespace Vimscript.Registry

open Run

variable {r r' : Registry} {scope : Option Scope} {name : Name} {script : Script}
  {space space' : FunctionSpace} {key key' : FunctionName} {id id' : Nat} {d : Declaration}

/-! ## Deleting -/

/-- What a name that is to be deleted stands for: what it leads to in the table of its scope, or,
without a scope and with nothing there, the function with that number. -/
inductive Names (r : Registry) (scope : Option Scope) (name : Name) (script : Script) :
    FunctionSpace → FunctionName → Nat → Prop where
  | inScope {key : FunctionName} {id : Nat} : FunctionName.ofData name = .ok key →
      r.Leads (spaceOf scope script) key id →
      Names r scope name script (spaceOf scope script) key id
  | numbered {key : FunctionName} {id : Nat} : FunctionName.ofData name = .ok key →
      (∀ id, ¬ r.Leads (spaceOf scope script) key id) → scope = none → r.Leads .numbered key id →
      Names r scope name script .numbered key id

theorem Names.leads (h : r.Names scope name script space key id) : r.Leads space key id := by
  cases h <;> assumption

/-- A name stands for one declaration. -/
theorem Names.unique (h : r.Names scope name script space key id)
    (h' : r.Names scope name script space' key' id') : id = id' := by
  have hkey : ∀ {key key'}, FunctionName.ofData name = .ok key →
      FunctionName.ofData name = .ok key' → key = key' :=
    fun h h' => Except.ok.inj (h.symm.trans h')
  cases h with
  | inScope hof hid =>
      cases h' with
      | inScope hof' hid' =>
          obtain rfl := hkey hof hof'
          exact Option.some.inj (hid.symm.trans hid')
      | numbered hof' hnone =>
          obtain rfl := hkey hof hof'
          exact absurd hid (hnone _)
  | numbered hof hnone _ hid =>
      cases h' with
      | inScope hof' hid' =>
          obtain rfl := hkey hof hof'
          exact absurd hid' (hnone _)
      | numbered hof' _ _ hid' =>
          obtain rfl := hkey hof hof'
          exact Option.some.inj (hid.symm.trans hid')

/-- A name that stands for a declaration can always be deleted. -/
theorem delete_of_names (h : r.Names scope name script space key id) (bang : Bool) :
    r.delete scope name bang script = .ok (r.deleteFrom space key id) := by
  unfold delete
  cases h with
  | inScope hkey hid =>
      rw [hkey]
      simp only [orFault, pure_bind, show Entries.find? key _ = some id from hid]
      rfl
  | numbered hkey hnone hscope hid =>
      have hmissing : Entries.find? key (r.table (spaceOf scope script)) = none :=
        Option.eq_none_iff_forall_ne_some.mpr hnone
      obtain rfl := hscope
      rw [hkey]
      simp only [orFault, pure_bind, hmissing, Option.isNone_none, if_true,
        show Entries.find? key r.numbered = some id from hid]
      rfl

/-- A name that stands for nothing is deleted in vain, with a bang, or not at all. -/
theorem delete_of_not_names (h : ∀ space key id, ¬ r.Names scope name script space key id)
    (bang : Bool) : Gives (fun r' => bang = true ∧ r' = r) (r.delete scope name bang script) := by
  unfold delete
  cases hkey : FunctionName.ofData name with
  | error f => exact gives_error _ _
  | ok key =>
      have hmissing : Entries.find? key (r.table (spaceOf scope script)) = none :=
        Option.eq_none_iff_forall_ne_some.mpr fun id hid => h _ _ _ (.inScope hkey hid)
      have hnumber : (if scope.isNone then Entries.find? key r.numbered else none) = none := by
        rw [ite_eq_right_iff]
        intro hscope
        refine Option.eq_none_iff_forall_ne_some.mpr fun id hid => ?_
        refine h _ _ _ (.numbered hkey (fun id hid => ?_) (Option.isNone_iff_eq_none.mp hscope) hid)
        exact h _ _ _ (.inScope hkey hid)
      simp only [orFault, pure_bind, hmissing, hnumber]
      split
      · exact gives_ok ⟨‹_›, rfl⟩
      · exact gives_error _ _

/-! ## What operations do -/

/-- An operation on the declared functions. What is stored has just been built. -/
inductive Operation where
  | declare (scope : Option Scope) (name : Name) (signature : Signature) (bang : Bool)
      (body : List Stmt) (c : Context)
  | store (d : Declaration) (fresh : d.isDeleted = false) (replace : Bool) (script : Script)
  | declareNumbered (signature : Signature) (body : List Stmt) (c : Context)
  | declareLambda (params : List Name) (body : Expr) (c : Context)
  | delete (scope : Option Scope) (name : Name) (bang : Bool) (script : Script)

/-- What an operation makes of a registry. -/
def perform (r : Registry) : Operation → Result Registry
  | .declare scope name signature bang body c => r.declare scope name signature bang body c
  | .store d _ replace script => r.store d replace script
  | .declareNumbered signature body c => .ok (r.declareNumbered signature body c).2
  | .declareLambda params body c => .ok (r.declareLambda params body c).2
  | .delete scope name bang script => r.delete scope name bang script

/-- A declaration has been added under its own name, which was free unless it may be replaced. -/
def AddsNamed (r : Registry) (space : FunctionSpace) (d : Declaration) (replace : Bool)
    (r' : Registry) : Prop :=
  ∃ key, FunctionName.ofData d.name = .ok key ∧
    (replace = false → ∀ id, ¬ r.Leads space key id) ∧ r.Adds (some (space, key)) d r'

/-- The declaration of a function under the next number. -/
def numberedDeclaration (r : Registry) (signature : Signature) (body : List Stmt) (c : Context) :
    Declaration :=
  .make (.text r.nextNumber) none signature body c

/-- The declaration of a lambda, a closure that accepts further arguments. -/
def lambdaDeclaration (r : Registry) (params : List Name) (body : Expr) (c : Context) :
    Declaration :=
  .make (.text ("<lambda>" ++ toString (r.lambdaCount + 1))) none
    { params, varargs := true, flags := { closure := true } } (lambdaBody params body) c

/-- What an operation does when it succeeds. -/
def Operation.Does (r r' : Registry) : Operation → Prop
  | declare scope name signature bang body c =>
    r.AddsNamed (spaceOf scope c.script)
      (.make name (if scope = some .script then scope else none) signature body c) bang r'
  | store d _ replace script => r.AddsNamed (spaceOf d.scope script) d replace r'
  | declareNumbered signature body c =>
    r.Adds (some (.numbered, .text r.nextNumber)) (r.numberedDeclaration signature body c) r' ∧
      r'.numberedCount = r.numberedCount + 1
  | declareLambda params body c => r.Adds none (r.lambdaDeclaration params body c) r'
  | delete scope name bang script =>
    (∃ space key id, r.Names scope name script space key id ∧ r.Deletes space key id r') ∨
      bang = true ∧ (∀ space key id, ¬ r.Names scope name script space key id) ∧ r' = r

/-- The end of declaring and of storing. -/
theorem addNamed_does (r : Registry) (space : FunctionSpace) (d : Declaration) (replace : Bool) :
    Gives (r.AddsNamed space d replace) (do
      let key ← orFault (FunctionName.ofData d.name)
      if (Entries.find? key (r.table space)).isSome && !replace then
        fail (.functionExists d.name.asText)
      return (r.addNamed space key d).2 : Result Registry) := by
  cases hkey : FunctionName.ofData d.name with
  | error f => exact gives_error _ _
  | ok key =>
      simp only [orFault, pure_bind]
      split
      · exact gives_error _ _
      · rename_i hfree
        refine gives_ok ⟨key, hkey, fun hreplace id hid => hfree ?_, r.addNamed_adds space key d⟩
        rw [show Entries.find? key (r.table space) = some id from hid, hreplace]
        rfl

theorem perform_does (r : Registry) (o : Operation) : Gives (o.Does r) (r.perform o) := by
  cases o with
  | declare scope name signature bang body c =>
      have hadd := r.addNamed_does (spaceOf scope c.script)
        (.make name (if scope = some .script then scope else none) signature body c) bang
      refine .ite (.after fun _ => ?_) ?_
      all_goals exact .ite (.after fun _ => hadd) hadd
  | store d fresh replace script => exact r.addNamed_does (spaceOf d.scope script) d replace
  | declareNumbered signature body c =>
      have hadd := addNamed_adds { r with numberedCount := r.numberedCount + 1 } .numbered
        (.text r.nextNumber) (r.numberedDeclaration signature body c)
      have hcount := numberedCount_setTable
        { r with numberedCount := r.numberedCount + 1,
                 declarations := r.declarations.push (r.numberedDeclaration signature body c) }
        .numbered (Entries.put (.text r.nextNumber) r.declarations.size r.numbered)
      refine gives_ok ⟨⟨hadd.declaration?, hadd.leads, ?_⟩, hcount⟩
      exact Nat.le_trans (Nat.le_succ _) (Nat.le_of_eq hcount.symm)
  | declareLambda params body c =>
      refine gives_ok ⟨fun id => declaration?_push rfl id, ?_, Nat.le_refl _⟩
      simp only [reduceCtorEq, if_false]
      exact Iff.rfl
  | delete scope name bang script =>
      by_cases h : ∃ space key id, r.Names scope name script space key id
      · obtain ⟨space, key, id, hid⟩ := h
        rw [perform, delete_of_names hid]
        exact gives_ok (.inl ⟨space, key, id, hid, r.deleteFrom_deletes space key id⟩)
      · have hnone : ∀ space key id, ¬ r.Names scope name script space key id :=
          fun space key id hid => h ⟨space, key, id, hid⟩
        intro r' hr'
        obtain ⟨hbang, rfl⟩ := delete_of_not_names hnone bang r' hr'
        exact .inr ⟨hbang, hnone, rfl⟩

/-! ## Single changes -/

/-- What one operation can make of a registry. -/
def Change (r r' : Registry) : Prop := ∃ o, r.perform o = .ok r'

theorem declare_changes (r : Registry) (scope : Option Scope) (name : Name)
    (signature : Signature) (bang : Bool) (body : List Stmt) (c : Context) :
    Gives r.Change (r.declare scope name signature bang body c) :=
  fun _ h => ⟨.declare scope name signature bang body c, h⟩

theorem store_changes (r : Registry) (hd : d.isDeleted = false) (replace : Bool)
    (script : Script) : Gives r.Change (r.store d replace script) :=
  fun _ h => ⟨.store d hd replace script, h⟩

theorem delete_changes (r : Registry) (scope : Option Scope) (name : Name) (bang : Bool)
    (script : Script) : Gives r.Change (r.delete scope name bang script) :=
  fun _ h => ⟨.delete scope name bang script, h⟩

theorem declareNumbered_changes (r : Registry) (signature : Signature) (body : List Stmt)
    (c : Context) : r.Change (r.declareNumbered signature body c).2 :=
  ⟨.declareNumbered signature body c, rfl⟩

theorem declareLambda_changes (r : Registry) (params : List Name) (body : Expr) (c : Context) :
    r.Change (r.declareLambda params body c).2 :=
  ⟨.declareLambda params body c, rfl⟩

/-- What becomes of a registry, whichever operation it was. -/
inductive Effect (r : Registry) : Registry → Prop where
  | same : Effect r r
  | added {r' : Registry} {place : Option (FunctionSpace × FunctionName)} {d : Declaration} :
      r.Adds place d r' → r.Belongs place d r' → Effect r r'
  | deleted {r' : Registry} {space : FunctionSpace} {key : FunctionName} {id : Nat} :
      r.Leads space key id → r.Deletes space key id r' → Effect r r'

theorem spaceOf_ne_numbered (scope : Option Scope) (script : Script) :
    spaceOf scope script ≠ .numbered := by
  unfold spaceOf
  split <;> exact nofun

theorem AddsNamed.effect {replace : Bool}
    (h : r.AddsNamed (spaceOf scope script) d replace r') (hd : d.isDeleted = false) :
    r.Effect r' := by
  obtain ⟨key, hkey, -, hadds⟩ := h
  refine .added hadds ⟨hd, fun hplace => ?_, fun hplace => ?_⟩
  · cases hplace
    exact hkey
  · exact absurd (congrArg Prod.fst (Option.some.inj hplace)) (spaceOf_ne_numbered scope script)

theorem Operation.Does.effect {o : Operation} (h : o.Does r r') : r.Effect r' := by
  cases o with
  | declare scope name signature bang body c => exact AddsNamed.effect h rfl
  | store d fresh replace script => exact AddsNamed.effect h fresh
  | declareNumbered signature body c =>
      obtain ⟨hadds, hcount⟩ := h
      refine .added hadds ⟨rfl, fun hplace => ?_, fun hplace => ?_⟩
      · cases hplace
        rfl
      · cases hplace
        exact ⟨rfl, by omega⟩
  | declareLambda params body c => exact .added h ⟨rfl, nofun, nofun⟩
  | delete scope name bang script =>
      rcases h with ⟨space, key, id, hid, hdeletes⟩ | ⟨-, -, rfl⟩
      · exact .deleted hid.leads hdeletes
      · exact .same

theorem Effect.sound (h : r.Effect r') (hr : r.Sound) : r'.Sound := by
  cases h with
  | same => exact hr
  | added hadds hd => exact hr.adds hadds hd
  | deleted hid hdeletes => exact hr.deletes hid hdeletes

/-! ## Histories of a registry -/

/-- The registry after an operation, which leaves it as it is by failing. -/
def apply (r : Registry) (o : Operation) : Registry :=
  match r.perform o with
  | .ok r' => r'
  | .error _ => r

/-- The registry after some operations. -/
def after (r : Registry) (ops : List Operation) : Registry := ops.foldl apply r

theorem apply_effect (r : Registry) (o : Operation) : r.Effect (r.apply o) := by
  unfold apply
  split
  · rename_i r' hr'
    exact (r.perform_does o r' hr').effect
  · exact .same

theorem Sound.apply (hr : r.Sound) (o : Operation) : (r.apply o).Sound :=
  (r.apply_effect o).sound hr

/-- A registry that another becomes by some operations, one after the other. -/
def Evolves (r r' : Registry) : Prop := ∃ ops, r.after ops = r'

theorem Evolves.refl (r : Registry) : r.Evolves r := ⟨[], rfl⟩

theorem Evolves.trans {r₁ r₂ r₃ : Registry} (h : r₁.Evolves r₂) (h' : r₂.Evolves r₃) :
    r₁.Evolves r₃ := by
  obtain ⟨ops, rfl⟩ := h
  obtain ⟨ops', rfl⟩ := h'
  exact ⟨ops ++ ops', List.foldl_append⟩

theorem Change.evolves (h : r.Change r') : r.Evolves r' := by
  obtain ⟨o, ho⟩ := h
  refine ⟨[o], ?_⟩
  rw [after, List.foldl_cons, List.foldl_nil, apply, ho]

theorem Sound.after (hr : r.Sound) (ops : List Operation) : (r.after ops).Sound := by
  induction ops generalizing r with
  | nil => exact hr
  | cons o ops ih => exact ih (hr.apply o)

theorem Evolves.sound (h : r.Evolves r') (hr : r.Sound) : r'.Sound := by
  obtain ⟨ops, rfl⟩ := h
  exact hr.after ops

/-! ## What all operations keep -/

/-- What all changes keep: a declaration stays as it is, except that it may be deleted, and once
it is deleted it stays so; and a number that names a function now has done so before, or had not
been given out. -/
structure Keeps (r r' : Registry) : Prop where
  declaration {id : Nat} {d : Declaration} : r.declaration? id = some d →
    ∃ isDeleted, r'.declaration? id = some { d with isDeleted } ∧
      (d.isDeleted = true → isDeleted = true)
  count : r.numberedCount ≤ r'.numberedCount
  number {key : FunctionName} {id : Nat} : r'.Leads .numbered key id →
    r.Leads .numbered key id ∨ ∃ n, r.numberedCount ≤ n ∧ key = .text (toString (n + 1))

theorem Keeps.refl (r : Registry) : r.Keeps r :=
  ⟨fun hd => ⟨_, hd, fun h => h⟩, Nat.le_refl _, .inl⟩

theorem Keeps.trans {r₁ r₂ r₃ : Registry} (h : r₁.Keeps r₂) (h' : r₂.Keeps r₃) : r₁.Keeps r₃ where
  declaration hd := by
    obtain ⟨b, hb, hsome⟩ := h.declaration hd
    obtain ⟨b', hb', hsome'⟩ := h'.declaration hb
    exact ⟨b', hb', fun hdeleted => hsome' (hsome hdeleted)⟩
  count := Nat.le_trans h.count h'.count
  number hid := by
    rcases h'.number hid with hid | ⟨n, hn, hkey⟩
    · exact h.number hid
    · exact .inr ⟨n, Nat.le_trans h.count hn, hkey⟩

/-- Declarations are kept when one is added. -/
theorem Adds.kept {place : Option (FunctionSpace × FunctionName)} (h : r.Adds place d r')
    {d' : Declaration} (hd' : r.declaration? id = some d') : r'.declaration? id = some d' := by
  have hlt := (Array.getElem?_eq_some_iff.mp hd').1
  rw [h.declaration?, if_neg (Nat.ne_of_lt hlt), hd']

theorem Effect.keeps (h : r.Effect r') : r.Keeps r' := by
  cases h with
  | same => exact .refl r
  | added hadds hplaced =>
      refine ⟨fun hd => ⟨_, hadds.kept hd, fun h => h⟩, hadds.numberedCount, fun hid => ?_⟩
      rw [hadds.leads] at hid
      split at hid
      · rename_i hplace
        exact .inr ⟨r.numberedCount, Nat.le_refl _, (hplaced.numbered hplace).1⟩
      · exact .inl hid
  | deleted hid hdeletes =>
      refine ⟨fun {id' d} hd => ?_, Nat.le_of_eq hdeletes.numberedCount.symm,
        fun h => .inl (hdeletes.leads.mp h).2⟩
      rw [hdeletes.declaration?, hd, Option.map_some]
      split
      · exact ⟨true, rfl, fun _ => rfl⟩
      · exact ⟨d.isDeleted, rfl, fun h => h⟩

theorem Evolves.keeps (h : r.Evolves r') : r.Keeps r' := by
  obtain ⟨ops, rfl⟩ := h
  induction ops generalizing r with
  | nil => exact .refl r
  | cons o ops ih => exact (r.apply_effect o).keeps.trans ih

/-! ## What has been deleted -/

/-- The declaration with a number is marked as deleted. -/
def Flagged (r : Registry) (id : Nat) : Prop :=
  ∃ d, r.declaration? id = some d ∧ d.isDeleted = true

/-- An operation deletes the declaration with a number: it is the one that the name stands for. -/
def Operation.Deletes (r : Registry) (id : Nat) : Operation → Prop
  | delete scope name _ script => ∃ space key, r.Names scope name script space key id
  | _ => False

/-- One of some operations deletes the declaration with a number. -/
def DeletedIn (r : Registry) (id : Nat) : List Operation → Prop
  | [] => False
  | o :: ops => o.Deletes r id ∨ (r.apply o).DeletedIn id ops

theorem flagged_iff (hd : r.declaration? id = some d) : r.Flagged id ↔ d.isDeleted = true := by
  simp only [Flagged, hd, Option.some.injEq, exists_eq_left']

theorem not_flagged_empty : ¬ Flagged {} id := by
  rintro ⟨d, hd, -⟩
  cases hd

/-- To add a declaration marks none. -/
theorem Adds.flagged {place : Option (FunctionSpace × FunctionName)} (h : r.Adds place d r')
    (hd : d.isDeleted = false) : r'.Flagged id ↔ r.Flagged id := by
  unfold Flagged
  rw [h.declaration?]
  split
  · rename_i hid
    have hnew : r.declaration? id = none := Array.getElem?_eq_none (Nat.le_of_eq hid.symm)
    simp [hnew, hd]
  · exact Iff.rfl

/-- To delete a declaration marks it and no other. -/
theorem Deletes.flagged (hr : r.Sound) (hid : r.Leads space key id)
    (h : r.Deletes space key id r') : r'.Flagged id' ↔ r.Flagged id' ∨ id' = id := by
  obtain ⟨d, hd, -⟩ := hr.found hid
  unfold Flagged
  simp only [h.declaration?, Option.map_eq_some_iff]
  by_cases hsame : id' = id
  · subst hsame
    simp [hd]
  · simp [hsame]

/-- An operation that fails was not going to delete anything. -/
theorem not_deletes_of_error {o : Operation} {stop : Stop} (ho : r.perform o = .error stop) :
    ¬ o.Deletes r id := by
  intro hdeletes
  cases o with
  | delete scope name bang script =>
      obtain ⟨space, key, hid⟩ := hdeletes
      cases ho.symm.trans (delete_of_names hid bang)
  | _ => exact hdeletes

theorem Sound.apply_flagged (hr : r.Sound) (o : Operation) :
    (r.apply o).Flagged id ↔ r.Flagged id ∨ o.Deletes r id := by
  have hadded : ∀ {place d}, r.Adds place d (r.apply o) → d.isDeleted = false →
      ¬ o.Deletes r id → ((r.apply o).Flagged id ↔ r.Flagged id ∨ o.Deletes r id) := by
    intro place d hadds hd hno
    rw [hadds.flagged hd, or_iff_left hno]
  cases ho : r.perform o with
  | error stop =>
      have hsame : r.apply o = r := by rw [Registry.apply, ho]
      rw [hsame, or_iff_left (not_deletes_of_error ho)]
  | ok r' =>
      have hresult : r.apply o = r' := by rw [Registry.apply, ho]
      have hdoes := r.perform_does o r' ho
      rw [← hresult] at hdoes
      cases o with
      | declare scope name signature bang body c =>
          obtain ⟨key, -, -, hadds⟩ := hdoes
          exact hadded hadds rfl not_false
      | store d fresh replace script =>
          obtain ⟨key, -, -, hadds⟩ := hdoes
          exact hadded hadds fresh not_false
      | declareNumbered signature body c => exact hadded hdoes.1 rfl not_false
      | declareLambda params body c => exact hadded hdoes rfl not_false
      | delete scope name bang script =>
          rcases hdoes with ⟨space, key, id', hid', hdeletes⟩ | ⟨-, hnone, hsame⟩
          · rw [hdeletes.flagged hr hid'.leads]
            refine or_congr_right ⟨?_, ?_⟩
            · rintro rfl
              exact ⟨space, key, hid'⟩
            · rintro ⟨space', key', hid⟩
              exact hid.unique hid'
          · rw [hsame, or_iff_left]
            rintro ⟨space, key, hid⟩
            exact hnone space key id hid

/-- The marks tell what has been deleted. -/
theorem Sound.after_flagged (hr : r.Sound) (ops : List Operation) :
    (r.after ops).Flagged id ↔ r.Flagged id ∨ r.DeletedIn id ops := by
  induction ops generalizing r with
  | nil => exact (or_iff_left fun h => h).symm
  | cons o ops ih =>
      rw [Registry.after, List.foldl_cons, ← Registry.after, ih (hr.apply o), hr.apply_flagged,
        or_assoc]
      rfl

end Vimscript.Registry
