import Vimscript.Library.Container
import Vimscript.Proofs.Heap.Edit
import Vimscript.Proofs.Heap.LockBall
import Vimscript.Proofs.Variables.Lockvar

/-!
# Locked entries of a Dictionary

Code that has the global namespace as the Dictionary `g:` does not ask
whether a name is protected. But `:lockvar` also locks the value of the
variable, and three of the operations on Dictionaries ask for that: an item
is neither assigned nor removed by `:unlet`, and `extend()` does not replace
it, while its value is locked. So a variable that has been locked is a
locked entry of `g:` (`lockedEntry_of_lock`), and each of the three keeps such an
entry, whatever objects it is performed on.

Each of the three checks an entry and changes it afterwards. What happens in
between may extend a List in place, but leaves Dictionaries and locks alone
(`Heap.Joined`), so the check still holds when the change is made.
-/

namespace Vimscript

namespace Heap

variable {dict r : Ref} {name : String} {value : Ref} {h h' : Heap}

/-- A Dictionary has an entry, and the value of the entry is locked. -/
structure LockedEntry (dict : Ref) (name : String) (value : Ref) (h : Heap) : Prop where
  entry : (h.table dict).get? name = some value
  locked : h.isLocked value = true

/-- An entry whose value is locked stays as it is. -/
def KeepsEntry (dict : Ref) (name : String) (value : Ref) (h h' : Heap) : Prop :=
  LockedEntry dict name value h → LockedEntry dict name value h'

theorem Joined.keepsEntry (hj : h.Joined h') : KeepsEntry dict name value h h' := by
  intro hg
  have hvalue := hj.dict dict _ (value_of_get? hg.entry)
  refine ⟨?_, (hj.isLocked value).trans hg.locked⟩
  rw [table_of_dict hvalue]
  exact hg.entry

theorem keepsEntry_extending (dict : Ref) (name : String) (value : Ref) :
    Extending (KeepsEntry dict name value) where
  refl _ hg := hg
  trans h₁₂ h₂₃ hg := h₂₃ (h₁₂ hg)
  alloc h v := (joined_extending.alloc h v).keepsEntry

theorem keepsEntry_setValue (hr : r ≠ dict) (v : Value) :
    KeepsEntry dict name value h (h.setValue r v) := by
  intro hg
  refine ⟨?_, (isLocked_setValue h v r value).trans hg.locked⟩
  rw [table, Heap.value, cell_setValue_of_ne h v hr.symm]
  exact hg.entry

theorem keepsEntry_modifyTable {f : Table → Table}
    (hf : r = dict → (f (h.table r)).get? name = (h.table r).get? name) :
    KeepsEntry dict name value h (h.modifyTable r f) := by
  intro hg
  refine ⟨?_, (isLocked_setValue h _ r value).trans hg.locked⟩
  rw [table_modifyTable]
  split
  · rename_i hr
    obtain ⟨rfl, -⟩ := hr
    exact (hf rfl).trans hg.entry
  · exact hg.entry

theorem LockedEntry.key_ne (hg : LockedEntry dict name value h) {key : String}
    (hkey : (h.table r).get? key = none) : r = dict → key ≠ name := by
  rintro rfl rfl
  cases hkey.symm.trans hg.entry

theorem LockedEntry.eq_value (hg : LockedEntry dict name value h) {key : String} {held : Ref}
    (hheld : (h.table r).get? key = some held) : r = dict → key = name → held = value := by
  rintro rfl rfl
  exact Option.some.inj (hheld.symm.trans hg.entry)

/-- An entry is kept by what does nothing where the value to be replaced is locked. -/
theorem keepsEntry_of_asked {key : String} {current : Ref}
    (hcurrent : r = dict → key = name → current = value)
    (hrefused : h.isLocked current = true → h' = h)
    (hother : (r = dict → key ≠ name) → KeepsEntry dict name value h h') :
    KeepsEntry dict name value h h' := by
  by_cases hself : r = dict ∧ key = name
  · intro hg
    rw [hrefused (hcurrent hself.1 hself.2 ▸ hg.locked)]
    exact hg
  · exact hother fun hr hkey => hself ⟨hr, hkey⟩

/-- A Dictionary with an entry is no List, Blob or anything else. -/
theorem LockedEntry.ne (hg : LockedEntry dict name value h) {v : Value} (hr : h.value r = v)
    (hv : ∀ t, v ≠ .dict t) : r ≠ dict := by
  rintro rfl
  exact hv _ (hr.symm.trans (value_of_get? hg.entry))

end Heap

namespace Op

open Heap

variable {dict : Ref} {name : String} {value : Ref}

theorem combined_keepsEntry (op : LetOp) (current new : Ref) (what : String) :
    Keeps (KeepsEntry dict name value) (combined op current new what) :=
  fun h => (combined_joined op current new what h).keepsEntry

theorem insert_keepsEntry {r : Ref} {key : String} (hkey : r = dict → key ≠ name) (new : Ref) :
    Keeps (KeepsEntry dict name value)
      (modify fun h => h.modifyTable r (·.insert key new)) := by
  intro h
  change KeepsEntry dict name value h (h.modifyTable r (·.insert key new))
  refine keepsEntry_modifyTable fun hr => ?_
  rw [Table.get?_insert, if_neg (hkey hr)]

/-- What follows a check of the entry that is to be replaced. -/
theorem storeEntry_keepsEntry (isDict : Callee → Bool) {r current : Ref} {key : String}
    (c : Cause) (new : Ref) (hcurrent : r = dict → key = name → current = value) :
    Keeps (KeepsEntry dict name value) (do
      if ← isLocked current then fail c
      let new ← adopted isDict r new
      modify fun h => h.modifyTable r (·.insert key new)) := by
  have hH := keepsEntry_extending dict name value
  intro h
  refine keepsEntry_of_asked hcurrent (fun hlocked => ?_) fun hkey => ?_
  · rw [bind_of_ok (isLocked_eq current h), hlocked]
    rfl
  · refine Keeps.bind hH (isLocked_keeps hH current) (fun locked => .failIf hH ?_) h
    exact .bind hH (fun h => (adopted_joined isDict r new h).keepsEntry) fun new =>
      insert_keepsEntry hkey new

theorem assignEntry_keepsEntry (isDict : Callee → Bool) (r : Ref) (key : String) (op : LetOp)
    (new : Ref) : Keeps (KeepsEntry dict name value) (assignEntry isDict r key op new) := by
  have hH := keepsEntry_extending dict name value
  intro h hg
  unfold assignEntry
  rw [bind_of_ok (get_eq h)]
  rcases hcurrent : (h.table r).get? key with _ | current
  · cases op with
    | update op => exact hg
    | set =>
        refine Keeps.bind hH (isLocked_keeps hH r) (fun locked => .failIf hH ?_) h hg
        exact .bind hH (fun h => (adopted_joined isDict r new h).keepsEntry) fun new =>
          insert_keepsEntry (hg.key_ne hcurrent) new
  · exact Keeps.bind hH (combined_keepsEntry op current new key)
      (fun new => storeEntry_keepsEntry isDict _ new (hg.eq_value hcurrent)) h hg

/-- To assign an item keeps every locked entry. -/
theorem assignItem_keepsEntry (isDict : Callee → Bool) (container key : Ref) (op : LetOp)
    (new : Ref) : Keeps (KeepsEntry dict name value) (assignItem isDict container key op new) := by
  have hH := keepsEntry_extending dict name value
  intro h hg
  unfold assignItem
  rw [bind_of_ok (value_eq container h)]
  cases hv : h.value container with
  | dict t =>
      exact Keeps.bind hH (toText_keeps hH key)
        (fun k => assignEntry_keepsEntry isDict container k op new) h hg
  | list items =>
      have hne : container ≠ dict := hg.ne hv (by simp)
      refine Keeps.bind hH (toNumber_keeps hH key) (fun i => ?_) h hg
      split
      · exact .bind hH (.orFault hH _) fun _ => .fail hH _
      · refine .bind hH (combined_keepsEntry op _ new _) fun new => ?_
        refine .bind hH (isLocked_keeps hH _) fun locked => .failIf hH ?_
        exact fun h => keepsEntry_setValue hne _
  | blob bytes =>
      have hne : container ≠ dict := hg.ne hv (by simp)
      have hstore : ∀ (f : Int → List UInt8) (new : Ref), Keeps (KeepsEntry dict name value)
          (toNumber new >>= fun n => setValue container (.blob (f n))) := fun f new =>
        .bind hH (toNumber_keeps hH new) fun n h => keepsEntry_setValue hne _
      refine Keeps.bind hH (toNumber_keeps hH key) (fun i => ?_) h hg
      split
      · exact .bind hH (.orFault hH _) fun _ => .fail hH _
      · split
        · exact hstore _ new
        · refine .bind hH (number_keeps hH _) fun held => ?_
          refine .bind hH (fun h => (combine_joined _ held new _ h).keepsEntry) fun new => ?_
          exact hstore _ new
  | number _ | float _ | string _ | funcref _ => exact hg

/-- To remove an item by `:unlet` keeps every locked entry. -/
theorem unletItem_keepsEntry (container key : Ref) (bang : Bool) :
    Keeps (KeepsEntry dict name value) (unletItem container key bang) := by
  have hH := keepsEntry_extending dict name value
  intro h hg
  unfold unletItem
  rw [bind_of_ok (value_eq container h)]
  cases hv : h.value container with
  | dict t =>
      refine (toText_reads key).bind_heap hg fun k _ => ?_
      cases hheld : t.get? k with
      | none => cases bang <;> exact hg
      | some held =>
          dsimp only
          rw [bind_of_ok (isLocked_eq container h), bind_of_ok (isLocked_eq held h)]
          by_cases hfree : (h.isLocked container || h.isLocked held) = true
          · rw [if_pos hfree]
            exact hg
          · have hkey : container = dict → k ≠ name := by
              intro hr hk
              rw [← table_of_dict hv] at hheld
              exact hfree (by rw [hg.eq_value hheld hr hk, hg.locked, Bool.or_true])
            have herase : KeepsEntry dict name value h
                (h.modifyTable container (·.erase k)) := by
              refine keepsEntry_modifyTable fun hr => ?_
              rw [Table.get?_erase, if_neg (hkey hr)]
            rw [modifyTable, table_of_dict hv] at herase
            rw [if_neg hfree]
            exact herase hg
  | list items =>
      have hne : container ≠ dict := hg.ne hv (by simp)
      refine Keeps.bind hH (toNumber_keeps hH key) (fun i => ?_) h hg
      split
      · exact .bind hH (.orFault hH _) fun _ => .fail hH _
      · refine .bind hH (isLocked_keeps hH container) fun locked => .failIf hH ?_
        exact fun h => keepsEntry_setValue hne _
  | number _ | float _ | string _ | blob _ | funcref _ => exact hg

end Op

namespace Library

open Heap

variable {dict : Ref} {name : String} {value : Ref}

theorem refuseLocked_keepsEntry (r : Ref) (c : Cause) :
    Op.Keeps (KeepsEntry dict name value) (refuseLocked r c) := by
  have hH := keepsEntry_extending dict name value
  exact .bind hH (Op.isLocked_keeps hH r) fun _ => .ite (.fail hH c) (.pure hH ())

theorem refuseLocked_of_locked {r : Ref} {h : Heap} (hr : h.isLocked r = true) (c : Cause) :
    refuseLocked r c h = (.error (.ofCause c), h) := by
  rw [refuseLocked, Op.bind_of_ok (Op.isLocked_eq r h), hr]
  rfl

/-- An entry is replaced where it is not locked, and what follows is done. -/
theorem replaceEntry_keepsEntry {r held : Ref} {key : String} {rest : Op Unit} {c : Cause}
    (hheld : r = dict → key = name → held = value) (new : Ref)
    (hrest : Op.Keeps (KeepsEntry dict name value) rest) :
    Op.Keeps (KeepsEntry dict name value) (do
      refuseLocked held c
      modify fun h => h.modifyTable r (·.insert key new)
      rest) := by
  have hH := keepsEntry_extending dict name value
  intro h
  refine keepsEntry_of_asked hheld (fun hlocked => ?_) fun hkey => ?_
  · rw [Op.bind_of_error (refuseLocked_of_locked hlocked c)]
  · refine Op.Keeps.bind hH (refuseLocked_keepsEntry held c) (fun _ => ?_) h
    exact .bind hH (Op.insert_keepsEntry hkey new) fun _ => hrest

theorem extendEntries_keepsEntry (mode : ExtendMode) (r : Ref) (entries : List (String × Ref)) :
    Op.Keeps (KeepsEntry dict name value) (extendEntries mode r entries) := by
  have hH := keepsEntry_extending dict name value
  induction entries with
  | nil => exact .pure hH ()
  | cons entry rest ih =>
      obtain ⟨key, new⟩ := entry
      intro h hg
      rw [extendEntries, Op.bind_of_ok (Op.get_eq h)]
      cases hheld : (h.table r).get? key with
      | none =>
          refine Op.Keeps.bind hH (refuseLocked_keepsEntry r _) (fun _ => ?_) h hg
          exact .bind hH (Op.insert_keepsEntry (hg.key_ne hheld) new) fun _ => ih
      | some held =>
          cases mode with
          | error => exact hg
          | keep => exact ih h hg
          | force => exact replaceEntry_keepsEntry (hg.eq_value hheld) new ih h hg

/-- `extend()` keeps every locked entry. -/
theorem extend_keepsEntry (r other : Ref) (how : Option Ref) :
    Op.Keeps (KeepsEntry dict name value) (extend r other how) := by
  have hH := keepsEntry_extending dict name value
  intro h hg
  unfold extend
  rw [Op.bind_of_ok (Op.value_eq r h), Op.bind_of_ok (Op.value_eq other h)]
  cases hv : h.value r with
  | list items =>
      have hne : r ≠ dict := hg.ne hv (by simp)
      have hitems : ∀ items, Op.Keeps (KeepsEntry dict name value) (withItems r items) :=
        fun items => .bind hH (fun h => keepsEntry_setValue hne _) fun _ => .pure hH r
      cases h.value other with
      | list more =>
          refine Op.Keeps.bind hH (refuseLocked_keepsEntry r _) (fun _ => ?_) h hg
          cases how with
          | none => exact hitems _
          | some e =>
              refine .bind hH (Op.toNumber_keeps hH e) fun i => .ite ?_ (hitems _)
              exact .bind hH (.orFault hH _) fun _ => .bind hH (.fail hH _) fun _ => hitems _
      | number _ | float _ | string _ | dict _ | blob _ | funcref _ => exact hg
  | dict t =>
      cases h.value other with
      | dict more =>
          refine Op.Keeps.bind hH (Op.toTextD_keeps hH "force" how) (fun mode => ?_) h hg
          cases ExtendMode.ofText? mode with
          | none => exact .fail hH _
          | some mode => exact .bind hH (extendEntries_keepsEntry mode r _) fun _ => .pure hH r
      | number _ | float _ | string _ | list _ | blob _ | funcref _ => exact hg
  | number _ | float _ | string _ | blob _ | funcref _ => exact hg

end Library

/-! ## Variables that have been locked -/

open Heap

variable {setup : Setup} {c : Context} {scope : Option Scope} {name : String} {depth : Int}
  {ns value : Ref}

/-- Locking a variable locks the object it is bound to. -/
theorem Spaces.setLock_locks {sp : Spaces} {h : Heap}
    (hvisible : sp.visible scope name c = .ok (ns, []))
    (hbound : (h.table ns).get? name = some value) (hin : value.index < h.size) :
    (sp.setLock true scope name depth c h).2.isLocked value = true := by
  have hcontains : (h.table ns).contains name = true := Option.isSome_of_eq_some hbound
  have howner : h.owner? name [ns] = some ns := by simp [Heap.owner?, hcontains]
  have hkept : ((h.modifyTable ns (·.lockName name)).table ns).get? name = some value := by
    rw [table_modifyTable, if_pos ⟨rfl, index_lt_of_contains hcontains⟩, Table.get?_lockName,
      hbound]
  have hball : value ∈ (h.modifyTable ns (·.lockName name)).ball value depth :=
    ⟨0, by omega, reachesIn_zero_iff.mpr rfl⟩
  unfold setLock
  rw [Op.bind_of_ok (searched_of_visible hvisible), Op.bind_of_ok (Op.get_eq h), howner]
  simp only [if_true]
  rw [Op.bind_of_ok (Op.modify_eq (fun h => h.modifyTable ns (·.lockName name)) h),
    Op.bind_of_ok (Op.get_eq _), hkept]
  refine (lockTo_flagged true depth value _).inside hball ?_
  rw [modifyTable, size_setValue]
  exact hin

/-- A variable that has been locked is a locked entry of its namespace. -/
theorem lockedEntry_of_lock {M : Machine} {mark mark' : Option Mark} {s₀ s : State}
    (hvisible : setup.spaces.visible scope name c = .ok (ns, []))
    (hlock : exec M c (.lock mark [.var mark' scope [.plain name]] depth) setup s₀ =
      (.ok .success, s))
    (hbound : (s₀.heap.table ns).get? name = some value)
    (hin : value.index < s₀.heap.size) : LockedEntry ns name value s.heap := by
  obtain ⟨h', hset, htable⟩ :=
    setLock_of_bound true depth hvisible (Option.isSome_of_eq_some hbound)
  have hlocked : (setup.spaces.setLock true scope name depth c s₀.heap).2.isLocked value = true :=
    Spaces.setLock_locks hvisible hbound hin
  rw [hset] at hlocked
  obtain ⟨t, hexec, rfl, -⟩ := exec_lockStatement (M := M) mark mark' hset
  cases hexec.symm.trans hlock
  refine ⟨?_, hlocked⟩
  rw [htable, if_pos rfl, Table.get?_lockName, hbound]

/-- Once `:lockvar` has locked a variable, code that has the namespace as a Dictionary can assign
items, remove them by `:unlet` and `extend()` it, and the variable keeps its value. -/
theorem lockvar_keepsEntry {M : Machine} {mark mark' : Option Mark} {s₀ s : State}
    (hvisible : setup.spaces.visible scope name c = .ok (ns, []))
    (hlock : exec M c (.lock mark [.var mark' scope [.plain name]] depth) setup s₀ =
      (.ok .success, s))
    (hbound : (s₀.heap.table ns).get? name = some value)
    (hin : value.index < s₀.heap.size) {h : Heap} (hh : KeepsEntry ns name value s.heap h) :
    LockedEntry ns name value h ∧
    (∀ isDict container key op new,
      LockedEntry ns name value (Op.assignItem isDict container key op new h).2) ∧
    (∀ container key bang, LockedEntry ns name value (Op.unletItem container key bang h).2) ∧
    ∀ r other how, LockedEntry ns name value (Library.extend r other how h).2 := by
  have hg : LockedEntry ns name value h := hh (lockedEntry_of_lock hvisible hlock hbound hin)
  refine ⟨hg, ?_, ?_, ?_⟩
  · exact fun isDict container key op new =>
      Op.assignItem_keepsEntry isDict container key op new h hg
  · exact fun container key bang => Op.unletItem_keepsEntry container key bang h hg
  · exact fun r other how => Library.extend_keepsEntry r other how h hg

end Vimscript
