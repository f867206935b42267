import Vimscript.Proofs.Eval.Compound
import Vimscript.Proofs.Heap.LockBall

/-!
# Locked names

A namespace keeps the names `:lockvar` protects beside its bindings, and
the operations on variables find a namespace in different ways: a write
goes where the name is found or into the innermost namespace, a removal
only into the innermost one, a lock where the name is found. What keeps the
two parts of a namespace together is the same for all of them. One
operation leaves a namespace as it is or makes one of five changes to it
(`Table.Edited`), and each change is made behind the check that belongs to
it: `Access.edits` says so once, for every operation, context and
namespace.

From there on the operations no longer matter. A change keeps every locked
name bound (`Table.Edited.locksBound`), and it keeps the binding of a name
that is locked before and after it (`Table.Edited.get?_of_locked`), except
in the namespace of the editor, which the runtime itself writes. Both carry
over to sequences of operations by induction.
-/

namespace Vimscript

/-! ## Tables -/

namespace Table

/-- Every protected name is bound. -/
def LocksBound (t : Table) : Prop := t.lockedNames ⊆ t.keys

theorem isNameLocked_iff {t : Table} {name : String} :
    t.isNameLocked name = true ↔ name ∈ t.lockedNames := by
  simp [isNameLocked]

theorem LocksBound.contains {t : Table} (ht : t.LocksBound) {name : String}
    (hname : t.isNameLocked name = true) : t.contains name = true :=
  contains_iff.mpr (ht (isNameLocked_iff.mp hname))

theorem get?_insert (t : Table) (name other : String) (value : Ref) :
    (t.insert name value).get? other = if name = other then some value else t.get? other :=
  Entries.find?_put name other value t.entries

theorem get?_erase (t : Table) (name other : String) :
    (t.erase name).get? other = if name = other then none else t.get? other :=
  Entries.find?_remove name other t.entries

theorem get?_lockName (t : Table) (name other : String) :
    (t.lockName name).get? other = t.get? other := by
  unfold lockName
  split <;> rfl

theorem isNameLocked_lockName (t : Table) (name other : String) :
    (t.lockName name).isNameLocked other = (t.isNameLocked other || name == other) := by
  rw [Bool.eq_iff_iff, isNameLocked_iff, Bool.or_eq_true, isNameLocked_iff, beq_iff_eq]
  unfold lockName
  split
  · rename_i hlocked
    refine ⟨Or.inl, ?_⟩
    rintro (hother | rfl)
    · exact hother
    · exact isNameLocked_iff.mp hlocked
  · rw [List.mem_cons, or_comm, eq_comm]

theorem isNameLocked_unlockName (t : Table) (name other : String) :
    (t.unlockName name).isNameLocked other = (t.isNameLocked other && name != other) := by
  rw [Bool.eq_iff_iff, isNameLocked_iff, Bool.and_eq_true, isNameLocked_iff, unlockName,
    List.mem_filter, bne_iff_ne, bne_iff_ne]
  exact and_congr_right fun _ => ne_comm

/-- What one operation on variables can make of a namespace. Only the namespace of the editor takes
a new value for a name that is locked. -/
inductive Edited (isVim : Prop) (t : Table) : Table → Prop
  | same : Edited isVim t t
  | written (name : String) (value : Ref) : t.isNameLocked name = false ∨ isVim →
      Edited isVim t (t.insert name value)
  | removed (name : String) : t.isNameLocked name = false → Edited isVim t (t.erase name)
  | locked (name : String) : t.contains name = true → Edited isVim t (t.lockName name)
  | unlocked (name : String) : Edited isVim t (t.unlockName name)
  | cleared : Edited isVim t {}

variable {isVim : Prop} {t u : Table}

theorem Edited.locksBound (hu : Edited isVim t u) (ht : t.LocksBound) : u.LocksBound := by
  cases hu with
  | same => exact ht
  | written name value _ =>
      intro other hother
      have hbound := contains_iff.mpr (ht hother)
      rw [← contains_iff, contains, get?_insert]
      split
      · rfl
      · exact hbound
  | removed name hfree =>
      intro other hother
      have hlocked : t.isNameLocked other = true := isNameLocked_iff.mpr hother
      have hne : name ≠ other := by
        rintro rfl
        rw [hlocked] at hfree
        cases hfree
      rw [← contains_iff, contains, get?_erase, if_neg hne]
      exact contains_iff.mpr (ht hother)
  | locked name hbound =>
      intro other hother
      rw [← isNameLocked_iff, isNameLocked_lockName, Bool.or_eq_true] at hother
      rw [← contains_iff, contains, get?_lockName]
      rcases hother with hother | hother
      · exact ht.contains hother
      · rw [← beq_iff_eq.mp hother]
        exact hbound
  | unlocked name =>
      intro other hother
      have hall := hother
      rw [← isNameLocked_iff, isNameLocked_unlockName, Bool.and_eq_true] at hall
      exact ht (isNameLocked_iff.mp hall.1)
  | cleared => exact List.nil_subset _

/-- A name that stays locked stays bound to the same object. -/
theorem Edited.get?_of_locked (hu : Edited isVim t u) (hvim : ¬isVim) {name : String}
    (hbefore : t.isNameLocked name = true) (hafter : u.isNameLocked name = true) :
    u.get? name = t.get? name := by
  cases hu with
  | same => rfl
  | written other value hfree =>
      rcases hfree with hfree | hfree
      · rw [get?_insert, if_neg]
        rintro rfl
        rw [hbefore] at hfree
        cases hfree
      · exact absurd hfree hvim
  | removed other hfree =>
      rw [get?_erase, if_neg]
      rintro rfl
      rw [hbefore] at hfree
      cases hfree
  | locked other _ => exact get?_lockName t other name
  | unlocked other => rfl
  | cleared => simp [isNameLocked] at hafter

end Table

/-! ## Namespaces in the heap -/

namespace Heap

theorem index_lt_of_contains {h : Heap} {r : Ref} {name : String}
    (hr : (h.table r).contains name = true) : r.index < h.size := by
  refine Nat.lt_of_not_le fun hout => ?_
  have hdefault : h.value r = .number 0 := by
    rw [value, cell, Array.getD_eq_getD_getElem?, Array.getElem?_eq_none hout]
    rfl
  rw [table, hdefault] at hr
  cases hr

theorem table_modifyTable (h : Heap) (ns r : Ref) (f : Table → Table) :
    (h.modifyTable ns f).table r =
      if r = ns ∧ ns.index < h.size then f (h.table ns) else h.table r := by
  by_cases hr : r = ns
  · subst hr
    by_cases hin : r.index < h.size
    · rw [if_pos ⟨rfl, hin⟩, modifyTable, table, value_setValue h _ hin]
    · -- there is no such object, and setting its value does nothing
      have hsame : h.modifyTable r f = h := by
        have hnone : h.cells[r.index]? = none := Array.getElem?_eq_none (Nat.not_lt.mp hin)
        rw [modifyTable, setValue]
        congr 1
        refine Array.ext (by simp) fun i hi hi' => ?_
        have hne : r.index ≠ i := fun he => hin (he ▸ hi')
        rw [Array.getElem_modify, if_neg hne]
      rw [if_neg fun hboth => hin hboth.2, hsame]
  · rw [if_neg fun hboth => hr hboth.1, table, table, value, value, modifyTable,
      cell_setValue_of_ne h _ hr]

theorem value_lockWithin (isLocked : Bool) (r : Ref) (steps : Nat) (root : Ref) (h : Heap) :
    (h.lockWithin isLocked steps root).value r = h.value r :=
  (lockWithin_flagged isLocked steps root h).value r

theorem table_lockTo (h : Heap) (isLocked : Bool) (depth : Int) (root r : Ref) :
    (h.lockTo isLocked depth root).table r = h.table r := by
  rw [table, table, lockTo, value_lockWithin]

end Heap

theorem Table.Edited.modifyTable {isVim : Prop} {h : Heap} {ns r : Ref} {f : Table → Table}
    (hf : r = ns → ns.index < h.size → Edited isVim (h.table ns) (f (h.table ns))) :
    Edited isVim (h.table r) ((h.modifyTable ns f).table r) := by
  rw [Heap.table_modifyTable]
  split
  · rename_i hr
    obtain ⟨rfl, hin⟩ := hr
    exact hf rfl hin
  · exact .same

/-! ## One operation -/

/-- An operation on variables and where it is performed. -/
inductive Access where
  | set (scope : Option Scope) (name : String) (value : Ref) (c : Context)
  | unlet (scope : Option Scope) (name : String) (bang : Bool) (c : Context)
  | lock (scope : Option Scope) (name : String) (depth : Int) (c : Context)
  | unlock (scope : Option Scope) (name : String) (depth : Int) (c : Context)
  | setVim (name : String) (value : Ref)
  | clear

/-- What an operation on variables does. -/
def Access.perform (sp : Spaces) : Access → Op Unit
  | set scope name value c => sp.set scope name value c
  | unlet scope name bang c => sp.unlet scope name bang c
  | lock scope name depth c => sp.setLock true scope name depth c
  | unlock scope name depth c => sp.setLock false scope name depth c
  | setVim name value => sp.setVim name value
  | clear => sp.clear

namespace Spaces

open Table

variable (sp : Spaces) (scope : Option Scope) (name : String) (c : Context) (h : Heap) (r : Ref)

theorem set_edits (value : Ref) :
    Edited (r = sp.vim) (h.table r) ((sp.set scope name value c h).2.table r) := by
  let Q : Heap → Prop := fun h' => Edited (r = sp.vim) (h.table r) (h'.table r)
  have hsame : Q h := .same
  refine (requireWritable_reads scope name c).bind_heap (Q := Q) hsame fun _ _ => ?_
  refine (target_reads sp scope name c).bind_heap (Q := Q) hsame fun ns _ => ?_
  rw [Op.bind_of_ok (Op.get_eq h)]
  dsimp only
  split
  · exact hsame
  · rename_i hfree
    exact .modifyTable fun _ _ => .written name value (.inl (by simpa using hfree))

theorem unlet_edits (bang : Bool) :
    Edited (r = sp.vim) (h.table r) ((sp.unlet scope name bang c h).2.table r) := by
  let Q : Heap → Prop := fun h' => Edited (r = sp.vim) (h.table r) (h'.table r)
  have hsame : Q h := .same
  refine (requireWritable_reads scope name c).bind_heap (Q := Q) hsame fun _ _ => ?_
  refine (space_reads sp scope c).bind_heap (Q := Q) hsame fun ns _ => ?_
  rw [Op.bind_of_ok (Op.get_eq h)]
  dsimp only
  split
  · cases bang <;> exact hsame
  · split
    · exact hsame
    · rename_i hfree
      exact .modifyTable fun _ _ => .removed name (by simpa using hfree)

/-- Locking finds the namespace that binds the name, and changes only its list of names. -/
theorem setLock_of_owner {isLocked : Bool} {depth : Int} {namespaces : List Ref} {ns : Ref}
    (hsearched : sp.searched scope name c h = (.ok namespaces, h))
    (howner : h.owner? name namespaces = some ns) :
    ((sp.setLock isLocked scope name depth c h).2.table r) =
      (h.modifyTable ns fun t =>
        if isLocked then t.lockName name else t.unlockName name).table r := by
  unfold setLock
  rw [Op.bind_of_ok hsearched, Op.bind_of_ok (Op.get_eq h)]
  rw [howner]
  dsimp only
  generalize (fun t : Table => if isLocked = true then t.lockName name else t.unlockName name) = f
  rw [Op.bind_of_ok (Op.modify_eq (fun h => h.modifyTable ns f) h), Op.bind_of_ok (Op.get_eq _)]
  rcases ((h.modifyTable ns f).table ns).get? name with _ | value
  · rfl
  · exact Heap.table_lockTo _ isLocked depth value r

theorem contains_of_owner {namespaces : List Ref} {ns : Ref}
    (howner : h.owner? name namespaces = some ns) : (h.table ns).contains name = true :=
  List.find?_some (p := fun ns => (h.table ns).contains name) howner

/-- A lock that finds no variable fails and changes nothing. -/
theorem setLock_of_no_owner {isLocked : Bool} {depth : Int}
    (hnone : ∀ namespaces ns, sp.searched scope name c h = (.ok namespaces, h) →
      h.owner? name namespaces ≠ some ns) :
    (sp.setLock isLocked scope name depth c h).2 = h := by
  refine (searched_reads sp scope name c).bind_heap (Q := fun h' => h' = h) rfl
    fun namespaces hsearched => ?_
  rw [Op.bind_of_ok (Op.get_eq h)]
  rcases howner : h.owner? name namespaces with _ | ns
  · rfl
  · exact absurd howner (hnone namespaces ns hsearched)

theorem setLock_edits (isLocked : Bool) (depth : Int) :
    Edited (r = sp.vim) (h.table r) ((sp.setLock isLocked scope name depth c h).2.table r) := by
  by_cases hfound : ∃ namespaces ns, sp.searched scope name c h = (.ok namespaces, h) ∧
      h.owner? name namespaces = some ns
  · obtain ⟨namespaces, ns, hsearched, howner⟩ := hfound
    rw [setLock_of_owner sp scope name c h r hsearched howner]
    refine .modifyTable fun _ _ => ?_
    cases isLocked with
    | true => exact .locked name (contains_of_owner name h howner)
    | false => exact .unlocked name
  · rw [setLock_of_no_owner sp scope name c h fun namespaces ns hsearched howner =>
      hfound ⟨namespaces, ns, hsearched, howner⟩]
    exact .same

end Spaces

/-- One operation makes one of the changes that are allowed, to any namespace. -/
theorem Access.edits (sp : Spaces) (h : Heap) (r : Ref) (a : Access) :
    Table.Edited (r = sp.vim) (h.table r) ((a.perform sp h).2.table r) := by
  cases a with
  | set scope name value c => exact sp.set_edits scope name c h r value
  | unlet scope name bang c => exact sp.unlet_edits scope name c h r bang
  | lock scope name depth c => exact sp.setLock_edits scope name c h r true depth
  | unlock scope name depth c => exact sp.setLock_edits scope name c h r false depth
  | setVim name value =>
      refine .modifyTable fun hr _ => ?_
      exact .written name value (.inr hr)
  | clear => exact .modifyTable fun _ _ => .cleared

/-! ## Sequences of operations -/

/-- The heap after some operations, each of which may have failed. -/
def Spaces.after (sp : Spaces) : List Access → Heap → Heap
  | [], h => h
  | a :: rest, h => after sp rest (a.perform sp h).2

theorem Spaces.after_locksBound (sp : Spaces) (accesses : List Access) {h : Heap} {r : Ref}
    (hh : (h.table r).LocksBound) : ((sp.after accesses h).table r).LocksBound := by
  induction accesses generalizing h with
  | nil => exact hh
  | cons a rest ih => exact ih ((a.edits sp h r).locksBound hh)

/-- A name that is locked all the time is bound to one object all the time. -/
theorem Spaces.after_get? (sp : Spaces) (accesses : List Access) {h : Heap} {r : Ref}
    (hr : r ≠ sp.vim) {name : String}
    (hlocked : ∀ done, done <+: accesses → ((sp.after done h).table r).isNameLocked name = true) :
    ((sp.after accesses h).table r).get? name = (h.table r).get? name := by
  induction accesses generalizing h with
  | nil => rfl
  | cons a rest ih =>
      have hnow := hlocked [] List.nil_prefix
      have hnext := hlocked [a] (List.prefix_append [a] rest)
      calc ((sp.after (a :: rest) h).table r).get? name
          = ((a.perform sp h).2.table r).get? name :=
            ih fun done hdone => hlocked (a :: done) (List.cons_prefix_cons.mpr ⟨rfl, hdone⟩)
        _ = (h.table r).get? name := (a.edits sp h r).get?_of_locked hr hnow hnext

/-! ## What is refused -/

namespace Spaces

variable (sp : Spaces) (scope : Option Scope) (name : String) (c : Context) {h : Heap} {ns : Ref}

/-- The code of the error by which a locked variable refuses to be written: that of a read-only
variable where it is one, and else that of a locked one. -/
def refusalCode : String :=
  match checkWritable scope name c with
  | .ok () => "E741"
  | .error _ => "E46"

theorem checkWritable_code {cause : Cause} (hcause : checkWritable scope name c = .error cause) :
    cause.code = some "E46" := by
  unfold checkWritable at hcause
  dsimp only at hcause
  split at hcause
  · cases hcause; rfl
  · split at hcause
    · cases hcause; rfl
    · cases hcause

theorem requireWritable_of_error {cause : Cause}
    (hcause : checkWritable scope name c = .error cause) :
    requireWritable scope name c h = (.error (.ofCause cause), h) := by
  rw [requireWritable, hcause]
  rfl

/-- An operation that makes sure first that the variable may be written. -/
theorem refused_of_checked {op : Op Unit}
    (hop : checkWritable scope name c = .ok () →
      op h = (.error (.ofCause (.locked (displayName scope name))), h)) :
    ∃ cause, (requireWritable scope name c >>= fun _ => op) h = (.error (.ofCause cause), h) ∧
      cause.code = some (refusalCode scope name c) := by
  rcases hcheck : checkWritable scope name c with cause | ⟨⟩
  · refine ⟨cause, ?_, ?_⟩
    · exact Op.bind_of_error (requireWritable_of_error scope name c hcheck)
    · rw [refusalCode, hcheck, checkWritable_code scope name c hcheck]
  · refine ⟨.locked (displayName scope name), ?_, ?_⟩
    · have hrequire : requireWritable scope name c h = (.ok (), h) := by
        rw [requireWritable, hcheck]
        rfl
      rw [Op.bind_of_ok hrequire, hop hcheck]
    · rw [refusalCode, hcheck]
      rfl

theorem set_of_locked (value : Ref) (htarget : sp.target scope name c h = (.ok ns, h))
    (hlocked : (h.table ns).isNameLocked name = true) :
    ∃ cause, sp.set scope name value c h = (.error (.ofCause cause), h) ∧
      cause.code = some (refusalCode scope name c) := by
  refine refused_of_checked scope name c fun _ => ?_
  rw [Op.bind_of_ok htarget, Op.bind_of_ok (Op.get_eq h)]
  dsimp only
  rw [if_pos hlocked]
  rfl

theorem unlet_of_locked (bang : Bool) (hspace : sp.space scope c h = (.ok ns, h))
    (hlocked : (h.table ns).isNameLocked name = true) (hbound : (h.table ns).LocksBound) :
    ∃ cause, sp.unlet scope name bang c h = (.error (.ofCause cause), h) ∧
      cause.code = some (refusalCode scope name c) := by
  refine refused_of_checked scope name c fun _ => ?_
  rw [Op.bind_of_ok hspace, Op.bind_of_ok (Op.get_eq h)]
  simp only [hbound.contains hlocked, hlocked, Bool.not_true, Bool.false_eq_true, if_false, if_true]
  rfl

/-- Locking a variable is of no concern to any other, whatever the two hold. -/
theorem setLock_isNameLocked (isLocked : Bool) (depth : Int) (r : Ref) (other : String)
    (hother : ∀ namespaces, sp.searched scope name c h = (.ok namespaces, h) →
      h.owner? name namespaces = some r → other ≠ name) :
    ((sp.setLock isLocked scope name depth c h).2.table r).isNameLocked other =
      (h.table r).isNameLocked other := by
  by_cases hfound : ∃ namespaces ns, sp.searched scope name c h = (.ok namespaces, h) ∧
      h.owner? name namespaces = some ns
  · obtain ⟨namespaces, ns, hsearched, howner⟩ := hfound
    rw [setLock_of_owner sp scope name c h r hsearched howner, Heap.table_modifyTable]
    split
    · rename_i hr
      obtain ⟨rfl, -⟩ := hr
      have hne := (hother namespaces hsearched howner).symm
      cases isLocked with
      | true => simp [Table.isNameLocked_lockName, hne]
      | false => simp [Table.isNameLocked_unlockName, hne]
    · rfl
  · rw [setLock_of_no_owner sp scope name c h fun namespaces ns hsearched howner =>
      hfound ⟨namespaces, ns, hsearched, howner⟩]

end Spaces

/-- The locks on variables are sound in a heap: every protected name is bound; outside the namespace
of the editor a name that stays protected, whatever is done to the variables, stays bound to the
same object; writing or removing it is refused and changes nothing; and no variable is locked or
unlocked together with another. -/
structure Spaces.LocksHold (sp : Spaces) (h : Heap) : Prop where
  bound (r : Ref) : (h.table r).LocksBound
  kept (accesses : List Access) (r : Ref) (name : String) : r ≠ sp.vim →
    (∀ done, done <+: accesses → ((sp.after done h).table r).isNameLocked name = true) →
    ∃ value, (h.table r).get? name = some value ∧
      ((sp.after accesses h).table r).get? name = some value
  set_refused (scope : Option Scope) (name : String) (value : Ref) (c : Context) (ns : Ref) :
    sp.target scope name c h = (.ok ns, h) → (h.table ns).isNameLocked name = true →
    ∃ cause, sp.set scope name value c h = (.error (.ofCause cause), h) ∧
      cause.code = some (refusalCode scope name c)
  unlet_refused (scope : Option Scope) (name : String) (bang : Bool) (c : Context) (ns : Ref) :
    sp.space scope c h = (.ok ns, h) → (h.table ns).isNameLocked name = true →
    ∃ cause, sp.unlet scope name bang c h = (.error (.ofCause cause), h) ∧
      cause.code = some (refusalCode scope name c)
  lock_alone (isLocked : Bool) (scope : Option Scope) (name : String) (depth : Int) (c : Context)
      (r : Ref) (other : String) :
    (∀ namespaces, sp.searched scope name c h = (.ok namespaces, h) →
      h.owner? name namespaces = some r → other ≠ name) →
    ((sp.setLock isLocked scope name depth c h).2.table r).isNameLocked other =
      (h.table r).isNameLocked other

/-- Where every protected name is bound, the locks hold after any sequence of operations on
variables, in any contexts and whether they succeed or fail. -/
theorem locksHold_after (sp : Spaces) (h : Heap) (hbound : ∀ r, (h.table r).LocksBound)
    (accesses : List Access) : sp.LocksHold (sp.after accesses h) := by
  have hafter : ∀ r, ((sp.after accesses h).table r).LocksBound := fun r =>
    sp.after_locksBound accesses (hbound r)
  generalize sp.after accesses h = h at hafter
  constructor
  case bound => exact hafter
  case kept =>
    intro accesses r name hr hlocked
    have hcontains := (hafter r).contains (hlocked [] List.nil_prefix)
    obtain ⟨value, hvalue⟩ := Option.isSome_iff_exists.mp hcontains
    exact ⟨value, hvalue, (sp.after_get? accesses hr hlocked).trans hvalue⟩
  case set_refused =>
    intro scope name value c ns htarget hlocked
    exact sp.set_of_locked scope name c value htarget hlocked
  case unlet_refused =>
    intro scope name bang c ns hspace hlocked
    exact sp.unlet_of_locked scope name c bang hspace hlocked (hafter ns)
  case lock_alone =>
    intro isLocked scope name depth c r other hother
    exact sp.setLock_isNameLocked scope name c isLocked depth r other hother

/-- A global variable that is written and locked is locked, and so is a second one of the same
value until it is unlocked. -/
theorem locksHold_after_alias :
    let sp : Spaces := { globals := ⟨0⟩, vim := ⟨1⟩, buffer := ⟨2⟩, window := ⟨3⟩, tab := ⟨4⟩ }
    let h : Heap := { cells := #[{ value := .dict {} }, { value := .dict {} }] }
    let c : Context := { script := { id := 1, name := "main", space := ⟨5⟩ } }
    let accesses : List Access :=
      [.set none "a" ⟨1⟩ c, .set none "b" ⟨1⟩ c, .lock none "a" 2 c, .lock none "b" 2 c,
        .set none "a" ⟨0⟩ c, .unlock none "b" 2 c, .unlet none "a" true c]
    (∀ r, (h.table r).LocksBound) ∧ sp.LocksHold (sp.after accesses h) ∧
      (sp.after accesses h).table ⟨0⟩ =
        { entries := [("a", ⟨1⟩), ("b", ⟨1⟩)], lockedNames := ["a"] } := by
  intro sp h c accesses
  have hempty : ∀ r, (h.table r).LocksBound := by
    rintro ⟨_ | _ | i⟩
    · exact List.nil_subset _
    · exact List.nil_subset _
    · exact List.nil_subset _
  exact ⟨hempty, locksHold_after sp h hempty accesses, by decide +kernel⟩

end Vimscript
