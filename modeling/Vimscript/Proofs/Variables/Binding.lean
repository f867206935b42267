import Vimscript.Proofs.Variables.Seclusion

/-!
# Which binding is read and written

Several namespaces may be visible under a name without a scope: the local
variables of the frame, those of the frames around a closure, and at last
the global ones, if the closures start at the top level of a script. A name
is read, written and locked in the innermost of them that binds it
(`Heap.Owns`); a new one is written into the innermost of all
(`Spaces.Home`). A write then changes that one binding and nothing else
(`Heap.Rebound`), and is found there when the variable is read again,
because the namespaces further in still do not bind the name
(`set_hits_one_binding`).

Removing a variable does not follow the rule. It only looks into the
innermost namespace, so that a variable of a frame around a closure, or a
global one that a lambda reads, can be read and written but not removed
(`unlet_removes_read_iff`).
-/

namespace Vimscript

/-! ## One binding changed -/

namespace Table

/-- The names of a table once one of them has been bound or removed: the others keep their order, a
known name keeps its place, and a new one comes last. -/
def keysWith (t : Table) (name : String) : Option Ref → List String
  | some _ => if name ∈ t.keys then t.keys else t.keys ++ [name]
  | none => t.keys.filter (· != name)

theorem keys_insert (t : Table) (name : String) (value : Ref) :
    (t.insert name value).keys = t.keysWith name (some value) :=
  Entries.names_put name value t.entries

theorem keys_erase (t : Table) (name : String) :
    (t.erase name).keys = t.keysWith name none := by
  rw [keys, erase, Entries.remove, Entries.names, keysWith, keys, Entries.names, List.filter_map]
  rfl

end Table

namespace Heap

variable {h h' : Heap} {name : String} {ns : Ref} {value : Option Ref} {namespaces : List Ref}

/-- A heap is another in which one binding of a namespace has been made, replaced or removed: every
other object is as it was, and so are the other bindings of the namespace and its locks. -/
structure Rebound (ns : Ref) (name : String) (value : Option Ref) (h h' : Heap) : Prop where
  size : h'.size = h.size
  elsewhere {r : Ref} : r ≠ ns → h'.cell r = h.cell r
  isLocked : h'.isLocked ns = h.isLocked ns
  lockedNames : (h'.table ns).lockedNames = (h.table ns).lockedNames
  keys : (h'.table ns).keys = (h.table ns).keysWith name value
  get? (other : String) :
    (h'.table ns).get? other = if name = other then value else (h.table ns).get? other

theorem rebound_modifyTable {f : Table → Table} (hns : ns.index < h.size)
    (hlocked : (f (h.table ns)).lockedNames = (h.table ns).lockedNames)
    (hkeys : (f (h.table ns)).keys = (h.table ns).keysWith name value)
    (hget : ∀ other, (f (h.table ns)).get? other =
      if name = other then value else (h.table ns).get? other) :
    Rebound ns name value h (h.modifyTable ns f) := by
  have htable : (h.modifyTable ns f).table ns = f (h.table ns) := by
    rw [table_modifyTable, if_pos ⟨rfl, hns⟩]
  exact
    { size := size_setValue h ns _
      elsewhere := fun hr => cell_setValue_of_ne h _ hr
      isLocked := isLocked_setValue h _ ns ns
      lockedNames := by rw [htable, hlocked]
      keys := by rw [htable, hkeys]
      get? := fun other => by rw [htable, hget] }

theorem rebound_insert (hns : ns.index < h.size) (name : String) (value : Ref) :
    Rebound ns name (some value) h (h.modifyTable ns (·.insert name value)) :=
  rebound_modifyTable hns rfl (Table.keys_insert _ name value)
    fun other => Table.get?_insert _ name other value

theorem rebound_erase (hns : ns.index < h.size) (name : String) :
    Rebound ns name none h (h.modifyTable ns (·.erase name)) :=
  rebound_modifyTable hns rfl (Table.keys_erase _ name) fun other => Table.get?_erase _ name other

theorem Rebound.get?_of_ne (hh' : Rebound ns name value h h') {r : Ref} (hr : r ≠ ns)
    (other : String) : (h'.table r).get? other = (h.table r).get? other := by
  rw [table, table, Heap.value, Heap.value, hh'.elsewhere hr]

/-! ## Namespaces that bind a name -/

/-- Of some namespaces, one is the first that binds a name. -/
def Owns (h : Heap) (name : String) (namespaces : List Ref) (ns : Ref) : Prop :=
  ∃ inner outer, namespaces = inner ++ ns :: outer ∧
    (∀ x ∈ inner, (h.table x).get? name = none) ∧ ((h.table ns).get? name).isSome = true

theorem owner?_eq_some_iff : h.owner? name namespaces = some ns ↔ h.Owns name namespaces ns := by
  rw [owner?, List.find?_eq_some_iff_append]
  constructor
  · rintro ⟨hns, inner, outer, heq, hinner⟩
    refine ⟨inner, outer, heq, fun x hx => ?_, hns⟩
    simpa [Table.contains] using hinner x hx
  · rintro ⟨inner, outer, heq, hinner, hns⟩
    refine ⟨hns, inner, outer, heq, fun x hx => ?_⟩
    simp [Table.contains, hinner x hx]

theorem owner?_eq_none_iff :
    h.owner? name namespaces = none ↔ ∀ x ∈ namespaces, (h.table x).get? name = none := by
  simp [owner?, Table.contains]

theorem Owns.mem (hns : h.Owns name namespaces ns) : ns ∈ namespaces := by
  obtain ⟨inner, outer, rfl, -, -⟩ := hns
  simp

theorem Owns.contains (hns : h.Owns name namespaces ns) : (h.table ns).contains name = true := by
  obtain ⟨-, -, -, -, hbound⟩ := hns
  exact hbound

/-- A name is read where it is found first. -/
theorem Owns.binding? (hns : h.Owns name namespaces ns) :
    h.binding? name namespaces = (h.table ns).get? name := by
  obtain ⟨inner, outer, rfl, hinner, hbound⟩ := hns
  have hnone : inner.findSome? (fun x => (h.table x).get? name) = none :=
    List.findSome?_eq_none_iff.mpr hinner
  obtain ⟨value, hvalue⟩ := Option.isSome_iff_exists.mp hbound
  rw [Heap.binding?, List.findSome?_append, hnone, Option.none_or, List.findSome?_cons, hvalue]

/-- It is found in the first of the namespaces if that binds it, and only then. -/
theorem Owns.eq_first_iff {first : Ref} {rest : List Ref} (hns : h.Owns name (first :: rest) ns) :
    ns = first ↔ (h.table first).contains name = true := by
  constructor
  · rintro rfl
    exact hns.contains
  · intro hfirst
    have howner : h.owner? name (first :: rest) = some first := by
      simp [owner?, hfirst]
    rw [owner?_eq_some_iff.mpr hns] at howner
    exact Option.some.inj howner

/-- A name that has been bound where no namespace further in binds it is found there. -/
theorem Rebound.owns {value : Ref} {inner outer : List Ref}
    (hh' : Rebound ns name (some value) h h')
    (hinner : ∀ x ∈ inner, x ≠ ns ∧ (h.table x).get? name = none) :
    h'.Owns name (inner ++ ns :: outer) ns := by
  refine ⟨inner, outer, rfl, fun x hx => ?_, ?_⟩
  · obtain ⟨hne, hnone⟩ := hinner x hx
    rw [hh'.get?_of_ne hne, hnone]
  · rw [hh'.get?, if_pos rfl]
    rfl

theorem Rebound.owns_first {value : Ref} (hh' : Rebound ns name (some value) h h')
    (rest : List Ref) : h'.Owns name (ns :: rest) ns :=
  have hinner : ∀ x ∈ ([] : List Ref), x ≠ ns ∧ (h.table x).get? name = none :=
    List.forall_mem_nil _
  hh'.owns hinner

end Heap

/-! ## Where a variable is written -/

namespace Spaces

variable {sp : Spaces} {h : Heap} {c : Context} {scope : Option Scope} {name : String}

/-- The namespaces that are visible in a context are Dictionaries of a heap. -/
def SeesTables (sp : Spaces) (h : Heap) (c : Context) : Prop :=
  ∀ scope name first rest, sp.visible scope name c = .ok (first, rest) →
    ∀ ns ∈ first :: rest, ∃ t, h.value ns = .dict t

/-- The namespace a variable is written into. -/
inductive Home (sp : Spaces) (h : Heap) (name : String) (c : Context) : Option Scope → Ref → Prop
  /-- A name without a scope is written where it is found. -/
  | found {first ns : Ref} {rest : List Ref} : sp.visible none name c = .ok (first, rest) →
      h.Owns name (first :: rest) ns → Home sp h name c none ns
  /-- A new one is written into the innermost namespace, -/
  | new {first : Ref} {rest : List Ref} : sp.visible none name c = .ok (first, rest) →
      (∀ x ∈ first :: rest, (h.table x).get? name = none) → Home sp h name c none first
  /-- and so is one with a scope. -/
  | inScope {scope : Scope} {first : Ref} {rest : List Ref} :
      sp.visible (some scope) name c = .ok (first, rest) → Home sp h name c (some scope) first

/-- Which namespaces are visible does not depend on the name. -/
theorem visible_congr {first : Ref} {rest : List Ref} (other : String)
    (hvisible : sp.visible scope name c = .ok (first, rest)) :
    sp.visible scope other c = .ok (first, rest) := by
  rcases scope with _ | scope <;> rcases hframe : c.frame with _ | f
  case some.none | some.some => cases scope <;> simp_all [visible]
  all_goals simp_all [visible]

theorem space_of_visible {first : Ref} {rest : List Ref}
    (hvisible : sp.visible scope name c = .ok (first, rest)) :
    sp.space scope c h = (.ok first, h) := by
  rw [space, visible_congr "" hvisible]
  rfl

theorem Home.visible {ns : Ref} (hns : sp.Home h name c scope ns) :
    ∃ first rest, sp.visible scope name c = .ok (first, rest) ∧ ns ∈ first :: rest := by
  cases hns with
  | found hvisible howns => exact ⟨_, _, hvisible, howns.mem⟩
  | new hvisible _ => exact ⟨_, _, hvisible, List.mem_cons_self⟩
  | inScope hvisible => exact ⟨_, _, hvisible, List.mem_cons_self⟩

theorem target_of_home {ns : Ref} (hns : sp.Home h name c scope ns) :
    sp.target scope name c h = (.ok ns, h) := by
  cases hns with
  | found hvisible howns =>
      unfold target
      dsimp only
      rw [Op.bind_of_ok (searched_of_visible hvisible), Op.bind_of_ok (Op.get_eq h),
        Heap.owner?_eq_some_iff.mpr howns]
      rfl
  | new hvisible hnew =>
      unfold target
      dsimp only
      rw [Op.bind_of_ok (searched_of_visible hvisible), Op.bind_of_ok (Op.get_eq h),
        Heap.owner?_eq_none_iff.mpr hnew]
      exact space_of_visible hvisible
  | inScope hvisible => exact space_of_visible hvisible

theorem exists_home {first : Ref} {rest : List Ref}
    (hvisible : sp.visible scope name c = .ok (first, rest)) :
    ∃ ns, sp.Home h name c scope ns := by
  cases scope with
  | some scope => exact ⟨first, .inScope hvisible⟩
  | none =>
      rcases howner : h.owner? name (first :: rest) with _ | ns
      · exact ⟨first, .new hvisible (Heap.owner?_eq_none_iff.mp howner)⟩
      · exact ⟨ns, .found hvisible (Heap.owner?_eq_some_iff.mp howner)⟩

/-- What has been written is found where it was written. -/
theorem Home.owns {h' : Heap} {ns value first : Ref} {rest : List Ref}
    (hns : sp.Home h name c scope ns) (hh' : h.Rebound ns name (some value) h')
    (hvisible : sp.visible scope name c = .ok (first, rest)) :
    h'.Owns name (first :: rest) ns := by
  cases hns with
  | found hvisible' howns =>
      cases hvisible'.symm.trans hvisible
      obtain ⟨inner, outer, heq, hinner, hbound⟩ := howns
      rw [heq]
      refine hh'.owns fun x hx => ⟨?_, hinner x hx⟩
      rintro rfl
      rw [hinner x hx] at hbound
      cases hbound
  | new hvisible' _ =>
      cases hvisible'.symm.trans hvisible
      exact hh'.owns_first rest
  | inScope hvisible' =>
      cases hvisible'.symm.trans hvisible
      exact hh'.owns_first rest

/-- A variable is read where it is found first. -/
theorem reads_of_owns {first ns value : Ref} {rest : List Ref}
    (hvisible : sp.visible scope name c = .ok (first, rest))
    (hns : h.Owns name (first :: rest) ns) (hvalue : (h.table ns).get? name = some value) :
    sp.get? scope name c h = (.ok (some value), h) ∧
    sp.getOrFail scope name c h = (.ok value, h) ∧
    sp.isDefined scope name c h = (.ok true, h) := by
  have hbinding : h.binding? name (first :: rest) = some value := hns.binding?.trans hvalue
  have hget : sp.get? scope name c h = (.ok (some value), h) := by
    unfold get?
    rw [Op.bind_of_ok (searched_of_visible hvisible), Op.bind_of_ok (Op.get_eq h), hbinding]
    rfl
  refine ⟨hget, ?_, ?_⟩
  · unfold getOrFail
    rw [Op.bind_of_ok hget]
    rfl
  · unfold isDefined
    rw [hvisible]
    dsimp only
    rw [Op.bind_of_ok (Op.get_eq h), hbinding]
    rfl

/-! ## Writing -/

/-- Why a variable refuses to be written, as the code of an error. -/
inductive Refuses (sp : Spaces) (h : Heap) (scope : Option Scope) (name : String) (c : Context) :
    String → Prop
  | readOnly {cause : Cause} : checkWritable scope name c = .error cause →
      Refuses sp h scope name c "E46"
  | notThere {cause : Cause} : checkWritable scope name c = .ok () →
      sp.visible scope name c = .error cause → Refuses sp h scope name c "E461"
  | locked {ns : Ref} : checkWritable scope name c = .ok () → sp.Home h name c scope ns →
      (h.table ns).isNameLocked name = true → Refuses sp h scope name c "E741"

theorem visible_code {cause : Cause} (hcause : sp.visible scope name c = .error cause) :
    cause.code = some "E461" := by
  unfold visible at hcause
  split at hcause <;> cases hcause
  rfl

theorem space_of_not_visible {cause : Cause} (hcause : sp.visible scope name c = .error cause) :
    ∃ cause', sp.space scope c h = (.error (.ofCause cause'), h) ∧ cause'.code = some "E461" := by
  rcases hempty : sp.visible scope "" c with cause' | ⟨first, rest⟩
  · refine ⟨cause', ?_, visible_code hempty⟩
    rw [space, hempty]
    rfl
  · cases (visible_congr name hempty).symm.trans hcause

theorem target_of_not_visible {cause : Cause} (hcause : sp.visible scope name c = .error cause) :
    ∃ cause', sp.target scope name c h = (.error (.ofCause cause'), h) ∧
      cause'.code = some "E461" := by
  cases scope with
  | some scope => exact space_of_not_visible hcause
  | none =>
      refine ⟨cause, ?_, visible_code hcause⟩
      have hsearched : sp.searched none name c h = (.error (.ofCause cause), h) := by
        rw [searched, hcause]
        rfl
      exact Op.bind_of_error hsearched

theorem requireWritable_of_ok (hok : checkWritable scope name c = .ok ()) :
    requireWritable scope name c h = (.ok (), h) := by
  rw [requireWritable, hok]
  rfl

/-- A write that is refused has changed nothing. -/
theorem set_of_refuses {code : String} (hrefuses : sp.Refuses h scope name c code) (value : Ref) :
    ∃ cause, sp.set scope name value c h = (.error (.ofCause cause), h) ∧
      cause.code = some code := by
  cases hrefuses with
  | readOnly hcause =>
      refine ⟨_, ?_, checkWritable_code scope name c hcause⟩
      exact Op.bind_of_error (requireWritable_of_error scope name c hcause)
  | notThere hok hcause =>
      obtain ⟨cause, htarget, hcode⟩ := target_of_not_visible (h := h) hcause
      refine ⟨cause, ?_, hcode⟩
      unfold set
      rw [Op.bind_of_ok (requireWritable_of_ok hok), Op.bind_of_error htarget]
  | locked hok hns hlocked =>
      refine ⟨.locked (displayName scope name), ?_, rfl⟩
      unfold set
      rw [Op.bind_of_ok (requireWritable_of_ok hok), Op.bind_of_ok (target_of_home hns),
        Op.bind_of_ok (Op.get_eq h), hlocked]
      rfl

theorem set_of_home {ns : Ref} (hok : checkWritable scope name c = .ok ())
    (hns : sp.Home h name c scope ns) (hfree : (h.table ns).isNameLocked name = false)
    (value : Ref) :
    sp.set scope name value c h = (.ok (), h.modifyTable ns (·.insert name value)) := by
  unfold set
  rw [Op.bind_of_ok (requireWritable_of_ok hok), Op.bind_of_ok (target_of_home hns),
    Op.bind_of_ok (Op.get_eq h), hfree]
  rfl

/-- A variable refuses to be written or there is a place for it. -/
theorem refuses_or_home (sp : Spaces) (h : Heap) (scope : Option Scope) (name : String)
    (c : Context) :
    (∃ code, sp.Refuses h scope name c code) ∨
      checkWritable scope name c = .ok () ∧
        ∃ ns, sp.Home h name c scope ns ∧ (h.table ns).isNameLocked name = false := by
  rcases hcheck : checkWritable scope name c with cause | ⟨⟩
  · exact .inl ⟨_, .readOnly hcheck⟩
  rcases hvisible : sp.visible scope name c with cause | ⟨first, rest⟩
  · exact .inl ⟨_, .notThere hcheck hvisible⟩
  obtain ⟨ns, hns⟩ := exists_home (h := h) hvisible
  rcases hlocked : (h.table ns).isNameLocked name with _ | _
  · exact .inr ⟨rfl, ns, hns, hlocked⟩
  · exact .inl ⟨_, .locked hcheck hns hlocked⟩

/-- A write of a variable either fails with the code of what refuses it, and changes nothing, or
nothing refuses it, and then it changes one binding, in the namespace where the variable has its
place, and the variable reads as what was written. -/
theorem set_hits_one_binding (hc : sp.SeesTables h c) (scope : Option Scope) (name : String)
    (value : Ref) :
    (∃ code cause, sp.Refuses h scope name c code ∧ cause.code = some code ∧
      sp.set scope name value c h = (.error (.ofCause cause), h)) ∨
    (∀ code, ¬sp.Refuses h scope name c code) ∧
      ∃ ns h', sp.Home h name c scope ns ∧ sp.set scope name value c h = (.ok (), h') ∧
        h.Rebound ns name (some value) h' ∧
        sp.get? scope name c h' = (.ok (some value), h') ∧
        sp.getOrFail scope name c h' = (.ok value, h') ∧
        sp.isDefined scope name c h' = (.ok true, h') := by
  rcases sp.refuses_or_home h scope name c with ⟨code, hrefuses⟩ | ⟨hok, ns, hns, hfree⟩
  · obtain ⟨cause, hset, hcode⟩ := set_of_refuses hrefuses value
    exact .inl ⟨code, cause, hrefuses, hcode, hset⟩
  · have hset := set_of_home hok hns hfree value
    obtain ⟨first, rest, hvisible, hmem⟩ := hns.visible
    obtain ⟨t, ht⟩ := hc scope name first rest hvisible ns hmem
    have hrebound := Heap.rebound_insert (Heap.index_lt_of_dict ht) name value
    have hget : ((h.modifyTable ns (·.insert name value)).table ns).get? name = some value := by
      rw [hrebound.get?, if_pos rfl]
    refine .inr ⟨fun code hrefuses => ?_, ns, _, hns, hset, hrebound,
      reads_of_owns hvisible (hns.owns hrebound hvisible) hget⟩
    obtain ⟨cause, hfailed, -⟩ := set_of_refuses hrefuses value
    cases hfailed.symm.trans hset

end Spaces

/-! ## Removing -/

namespace Spaces

variable {sp : Spaces} {h : Heap} {c : Context} {name : String} {first ns : Ref} {rest : List Ref}

/-- A variable is locked where it is found. -/
theorem setLock_of_owns {scope : Option Scope} (isLocked : Bool) (depth : Int)
    (hvisible : sp.visible scope name c = .ok (first, rest))
    (hns : h.Owns name (first :: rest) ns) :
    ∃ h', sp.setLock isLocked scope name depth c h = (.ok (), h') ∧
      ∀ r, h'.table r = if r = ns then
        (if isLocked then (h.table r).lockName name else (h.table r).unlockName name)
        else h.table r := by
  have hsearched := searched_of_visible (h := h) hvisible
  have howner := Heap.owner?_eq_some_iff.mpr hns
  refine ⟨(sp.setLock isLocked scope name depth c h).2, Prod.ext ?_ rfl, fun r => ?_⟩
  · unfold setLock
    rw [Op.bind_of_ok hsearched, Op.bind_of_ok (Op.get_eq h), howner]
    dsimp only
    generalize (fun t : Table => if isLocked = true then t.lockName name else t.unlockName name) = f
    rw [Op.bind_of_ok (Op.modify_eq (fun h => h.modifyTable ns f) h), Op.bind_of_ok (Op.get_eq _)]
    rcases ((h.modifyTable ns f).table ns).get? name with _ | value <;> rfl
  · have hin := Heap.index_lt_of_contains hns.contains
    rw [sp.setLock_of_owner scope name c h r hsearched howner, Heap.table_modifyTable]
    by_cases hr : r = ns
    · rw [if_pos ⟨hr, hin⟩, if_pos hr, hr]
    · rw [if_neg fun hboth => hr hboth.1, if_neg hr]

/-- What is removed is a binding of the innermost namespace. -/
theorem unlet_of_contains {scope : Option Scope} (bang : Bool)
    (hok : checkWritable scope name c = .ok ())
    (hvisible : sp.visible scope name c = .ok (first, rest))
    (hbound : (h.table first).contains name = true)
    (hfree : (h.table first).isNameLocked name = false) :
    sp.unlet scope name bang c h = (.ok (), h.modifyTable first (·.erase name)) := by
  unfold unlet
  rw [Op.bind_of_ok (requireWritable_of_ok hok), Op.bind_of_ok (space_of_visible hvisible),
    Op.bind_of_ok (Op.get_eq h)]
  simp only [hbound, hfree, Bool.not_true, Bool.false_eq_true, if_false]
  rfl

/-- A variable that the innermost namespace does not bind counts as missing. -/
theorem unlet_of_not_contains {scope : Option Scope} (hok : checkWritable scope name c = .ok ())
    (hvisible : sp.visible scope name c = .ok (first, rest))
    (hbound : (h.table first).contains name = false) (bang : Bool) :
    sp.unlet scope name bang c h =
      (if bang then .ok ()
        else .error (.ofCause (.noSuchVariable (displayName scope name))), h) := by
  unfold unlet
  rw [Op.bind_of_ok (requireWritable_of_ok hok), Op.bind_of_ok (space_of_visible hvisible),
    Op.bind_of_ok (Op.get_eq h)]
  simp only [hbound, Bool.not_false, if_true]
  cases bang <;> rfl

/-- Reading, writing and locking a visible name concern one binding, in the namespace where the name
is found first. Removing it concerns that binding just when it is in the innermost namespace. If it
is not, the variable counts as missing although it can be read. -/
theorem unlet_removes_read_iff (hvisible : sp.visible none name c = .ok (first, rest))
    (hns : h.Owns name (first :: rest) ns) (hself : checkWritable none name c = .ok ())
    (hfree : (h.table ns).isNameLocked name = false) (bang : Bool) :
    (∃ value, (h.table ns).get? name = some value ∧
      sp.get? none name c h = (.ok (some value), h)) ∧
    (∀ value, ∃ h', sp.set none name value c h = (.ok (), h') ∧
      h.Rebound ns name (some value) h') ∧
    (∀ isLocked depth, ∃ h', sp.setLock isLocked none name depth c h = (.ok (), h') ∧
      ∀ r, h'.table r = if r = ns then
        (if isLocked then (h.table r).lockName name else (h.table r).unlockName name)
        else h.table r) ∧
    ((∃ h', sp.unlet none name bang c h = (.ok (), h') ∧ h.Rebound ns name none h') ↔
      ns = first) ∧
    (ns ≠ first → sp.unlet none name bang c h =
      (if bang then .ok () else .error (.ofCause (.noSuchVariable name)), h)) := by
  have hin : ns.index < h.size := Heap.index_lt_of_contains hns.contains
  obtain ⟨value, hvalue⟩ := Option.isSome_iff_exists.mp hns.contains
  have hmissing : ns ≠ first → sp.unlet none name bang c h =
      (if bang then .ok () else .error (.ofCause (.noSuchVariable name)), h) := by
    intro hne
    have hbound : (h.table first).contains name = false :=
      Bool.eq_false_iff.mpr fun hbound => hne (hns.eq_first_iff.mpr hbound)
    exact unlet_of_not_contains hself hvisible hbound bang
  refine ⟨⟨value, hvalue, (reads_of_owns hvisible hns hvalue).1⟩, fun new => ?_,
    fun isLocked depth => setLock_of_owns isLocked depth hvisible hns, ⟨?_, ?_⟩, hmissing⟩
  · exact ⟨_, set_of_home hself (.found hvisible hns) hfree new, Heap.rebound_insert hin name new⟩
  · rintro ⟨h', hunlet, hrebound⟩
    refine Decidable.byContradiction fun hne => ?_
    -- nothing has been changed, so the name is still bound
    obtain rfl : h = h' := (Prod.mk.inj ((hmissing hne).symm.trans hunlet)).2
    have hgone := hrebound.get? name
    rw [if_pos rfl, hvalue] at hgone
    cases hgone
  · rintro rfl
    exact ⟨_, unlet_of_contains bang hself hvisible hns.contains hfree,
      Heap.rebound_erase hin name⟩

end Spaces

/-! ## A closure -/

/-- Shared namespaces that are objects of their own. -/
def fiveSpaces : Spaces :=
  { globals := ⟨0⟩, vim := ⟨1⟩, buffer := ⟨2⟩, window := ⟨3⟩, tab := ⟨4⟩ }

/-- Where the code of a closure runs that was declared in another function. -/
def closureContext : Context where
  script := { id := 1, name := "main", space := ⟨5⟩ }
  frame := some (.enter { locals := ⟨6⟩, arguments := ⟨7⟩ } true
    (some { own := { locals := ⟨8⟩, arguments := ⟨9⟩ } }) none)

/-- The function around the closure has a variable `n`, and both of them have a variable `m`. -/
def closureHeap : Heap where
  cells := #[
    { value := .dict {} }, { value := .dict {} }, { value := .dict {} }, { value := .dict {} },
    { value := .dict {} }, { value := .dict {} },
    { value := .dict { entries := [("m", ⟨10⟩)] } }, { value := .dict {} },
    { value := .dict { entries := [("n", ⟨10⟩), ("m", ⟨11⟩)] } }, { value := .dict {} },
    { value := .number 10 }, { value := .number 11 }]

theorem closure_seesTables : fiveSpaces.SeesTables closureHeap closureContext := by
  intro scope name first rest hvisible ns hns
  cases scope with
  | none =>
      cases hvisible
      have hpair : ns ∈ [(⟨6⟩ : Ref), ⟨8⟩] := hns
      rcases List.mem_pair.mp hpair with rfl | rfl <;> exact ⟨_, rfl⟩
  | some scope =>
      cases scope with
      | unknown => cases hvisible
      | locals =>
          cases hvisible
          have hpair : ns ∈ [(⟨6⟩ : Ref), ⟨8⟩] := hns
          rcases List.mem_pair.mp hpair with rfl | rfl <;> exact ⟨_, rfl⟩
      | arguments =>
          cases hvisible
          have hpair : ns ∈ [(⟨7⟩ : Ref), ⟨9⟩] := hns
          rcases List.mem_pair.mp hpair with rfl | rfl <;> exact ⟨_, rfl⟩
      | _ => cases hvisible; cases List.mem_singleton.mp hns; exact ⟨_, rfl⟩

/-- A closure writes a variable of the function around it where it is, and leaves its own variables
alone. -/
theorem closure_sets_outer : fiveSpaces.SeesTables closureHeap closureContext ∧
    ∃ h', fiveSpaces.set none "n" ⟨11⟩ closureContext closureHeap = (.ok (), h') ∧
      closureHeap.Rebound ⟨8⟩ "n" (some ⟨11⟩) h' ∧
      fiveSpaces.getOrFail none "n" closureContext h' = (.ok ⟨11⟩, h') := by
  refine ⟨closure_seesTables, ?_⟩
  rcases Spaces.set_hits_one_binding closure_seesTables none "n" ⟨11⟩ with
    ⟨code, cause, -, -, hset⟩ | ⟨-, ns, h', hns, hset, hrebound, -, hget, -⟩
  · cases hset
  · have htarget : fiveSpaces.target none "n" closureContext closureHeap = (.ok ⟨8⟩, closureHeap) :=
      rfl
    cases (Spaces.target_of_home hns).symm.trans htarget
    exact ⟨h', hset, hrebound, hget⟩

/-- A closure removes a variable of its own, and the one it hid shows again. -/
theorem closure_unlets_own : closureHeap.Owns "m" [⟨6⟩, ⟨8⟩] ⟨6⟩ ∧
    ∃ h', fiveSpaces.unlet none "m" false closureContext closureHeap = (.ok (), h') ∧
      closureHeap.Rebound ⟨6⟩ "m" none h' ∧
      fiveSpaces.getOrFail none "m" closureContext h' = (.ok ⟨11⟩, h') := by
  have howns : closureHeap.Owns "m" [⟨6⟩, ⟨8⟩] ⟨6⟩ := ⟨[], [⟨8⟩], rfl, List.forall_mem_nil _, rfl⟩
  have hvisible : fiveSpaces.visible none "m" closureContext = .ok (⟨6⟩, [⟨8⟩]) := rfl
  obtain ⟨-, -, -, hremoves, -⟩ := Spaces.unlet_removes_read_iff hvisible howns rfl rfl false
  obtain ⟨h', hunlet, hrebound⟩ := hremoves.mpr rfl
  refine ⟨howns, h', hunlet, hrebound, ?_⟩
  cases hunlet
  rfl

/-- A variable of the function around a closure is read there, and may be written, but it cannot be
removed: it counts as missing. -/
theorem closure_cannot_unlet_outer :
    fiveSpaces.getOrFail none "n" closureContext closureHeap = (.ok ⟨10⟩, closureHeap) ∧
    Spaces.checkWritable none "n" closureContext = .ok () ∧
    (closureHeap.table ⟨8⟩).isNameLocked "n" = false ∧
    fiveSpaces.unlet none "n" false closureContext closureHeap =
      (.error (.ofCause (.noSuchVariable "n")), closureHeap) :=
  ⟨rfl, rfl, rfl, rfl⟩

end Vimscript
