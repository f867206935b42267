import Vimscript.Proofs.Eval.LockedContainer
import Vimscript.Proofs.Operator.Stopping

/-!
# Storing what is assigned

The assignment of an item, an entry or a byte ends in the same way. First
the value is computed that is to be stored. This makes new objects at most,
with one exception: `+=` on two Lists extends the old item in place
(`Heap.Computes`). It does so only after the one lock test that could still
refuse, so that an assignment that is refused has changed nothing
(`Op.replace_cases`). Then one object is written to, and what is stored is
what is read there afterwards (`ItemReplaced`, `EntryReplaced`,
`ByteReplaced`).
-/

namespace Vimscript

/-! ## What is assigned -/

/-- The value that an operator assigns and the heap with it, for what is held now and the value on
the right: this value itself, the first of two Lists after it has been extended, or a new object
for the value that the operator gives. -/
inductive Heap.Computes (h : Heap) (current value : Ref) : LetOp → Ref → Heap → Prop
  | set : Computes h current value .set value h
  | joined {items added : List Ref} : Joins h .add current value items added →
      Computes h current value (.update .add) current
        (h.setValue current (.list (items ++ added)))
  | applied {op : Arith} {v : Value} :
      (op = .add → ∀ items added, h.value current = .list items → h.value value ≠ .list added) →
      op.onValues (h.value current) (h.value value) = .ok v →
      Computes h current value (.update op) (h.alloc v).1 (h.alloc v).2

/-- An operator has a value for what is held and the value on the right. -/
def Heap.Combinable (h : Heap) (op : LetOp) (current value : Ref) : Prop :=
  ∀ a, op = .update a → ∃ v, a.onValues (h.value current) (h.value value) = .ok v

/-- The List that `+=` extends. -/
def Heap.Extends (h : Heap) (op : LetOp) (current value : Ref) : Prop :=
  ∃ a items added, op = .update a ∧ Joins h a current value items added

namespace Heap.Computes

variable {h h₁ : Heap} {current value assigned : Ref} {op : LetOp}

theorem combinable (hcomputes : h.Computes current value op assigned h₁) :
    h.Combinable op current value := by
  rintro a rfl
  cases hcomputes with
  | joined hjoins =>
      rw [hjoins.left, hjoins.right]
      exact ⟨_, rfl⟩
  | applied _ hv => exact ⟨_, hv⟩

/-- Only the List that is extended changes. -/
theorem kept (hcomputes : h.Computes current value op assigned h₁)
    (hno : ¬h.Extends op current value) : h.Kept h₁ := by
  cases hcomputes with
  | set => exact kept_extending.refl h
  | joined hjoins => exact absurd ⟨_, _, _, rfl, hjoins⟩ hno
  | applied _ _ => exact kept_extending.alloc h _

theorem cell (hcomputes : h.Computes current value op assigned h₁) {r : Ref}
    (hr : r.index < h.size) (hno : r = current → ¬h.Extends op current value) :
    h₁.cell r = h.cell r := by
  cases hcomputes with
  | set => rfl
  | joined hjoins =>
      refine Heap.cell_setValue_of_ne h _ ?_
      rintro rfl
      exact hno rfl ⟨_, _, _, rfl, hjoins⟩
  | applied _ _ => exact (kept_extending.alloc h _).cell r hr

theorem heapJoined (hcomputes : h.Computes current value op assigned h₁) : h.Joined h₁ := by
  cases hcomputes with
  | set => exact joined_extending.refl h
  | joined hjoins => exact joined_extended hjoins.left
  | applied _ _ => exact joined_extending.alloc h _

theorem size_le (hcomputes : h.Computes current value op assigned h₁) : h.size ≤ h₁.size := by
  cases hcomputes with
  | set => exact Nat.le_refl _
  | joined _ => exact Nat.le_of_eq (size_setValue h _ _).symm
  | applied _ _ =>
      rw [size_alloc]
      exact Nat.le_succ _

end Heap.Computes

theorem Heap.value_alloc_self (h : Heap) (v : Value) : (h.alloc v).2.value (h.alloc v).1 = v := by
  rw [value, cell_alloc, if_pos rfl]

namespace Op

variable {h : Heap} {current value : Ref}

theorem apply_of_ok {op : Arith} {a b : Ref} {v : Value}
    (hv : op.onValues (h.value a) (h.value b) = .ok v) :
    op.apply a b h = (.ok (h.alloc v).1, (h.alloc v).2) := by
  rw [Arith.apply, bind_of_ok (value_eq a h), bind_of_ok (value_eq b h), hv]
  rfl

theorem apply_of_error {op : Arith} {a b : Ref} {stop : Stop}
    (hv : op.onValues (h.value a) (h.value b) = .error stop) :
    op.apply a b h = (.error stop, h) := by
  rw [Arith.apply, bind_of_ok (value_eq a h), bind_of_ok (value_eq b h), hv]
  rfl

/-- A locked List is not extended. -/
theorem combine_of_locked {items added : List Ref} (hleft : h.value current = .list items)
    (hright : h.value value = .list added) (hlocked : h.isLocked current = true) (what : String) :
    combine .add current value what h = (.error (.ofCause (.locked what)), h) := by
  unfold combine
  rw [bind_of_ok (value_eq current h), bind_of_ok (value_eq value h), hleft, hright]
  dsimp only
  rw [bind_of_ok (isLocked_eq current h), hlocked]
  rfl

theorem combine_eq_apply {op : Arith}
    (hno : op = .add → ∀ items added, h.value current = .list items →
      h.value value ≠ .list added) (what : String) :
    combine op current value what h = op.apply current value h := by
  unfold combine
  rw [bind_of_ok (value_eq current h), bind_of_ok (value_eq value h)]
  generalize hleft : h.value current = left at hno ⊢
  generalize hright : h.value value = right at hno ⊢
  split
  · exact absurd rfl (hno rfl _ _ rfl)
  · rfl

/-- A value is assigned, or the operator stops short and changes nothing: a List is locked, or there
is no value. -/
theorem combined_cases (op : LetOp) (current value : Ref) (what : String) (h : Heap) :
    (∃ assigned h₁, combined op current value what h = (.ok assigned, h₁) ∧
      h.Computes current value op assigned h₁) ∨
    ∃ stop, combined op current value what h = (.error stop, h) ∧
      ((stop = .ofCause (.locked what) ∧ h.isLocked current = true ∧
        h.Combinable op current value) ∨
      (Unconverted stop ∧ ¬h.Combinable op current value)) := by
  cases op with
  | set => exact .inl ⟨value, h, rfl, .set⟩
  | update a =>
      by_cases hlists : a = .add ∧ ∃ items added, h.value current = .list items ∧
        h.value value = .list added
      · obtain ⟨rfl, items, added, hleft, hright⟩ := hlists
        cases hlocked : h.isLocked current with
        | false =>
            have hjoins : Joins h .add current value items added := ⟨rfl, hleft, hright, hlocked⟩
            exact .inl ⟨_, _, combine_of_joins hjoins what, .joined hjoins⟩
        | true =>
            refine .inr ⟨_, combine_of_locked hleft hright hlocked what, .inl ⟨rfl, rfl, ?_⟩⟩
            rintro _ ⟨⟩
            rw [hleft, hright]
            exact ⟨_, rfl⟩
      · have hno : a = .add → ∀ items added, h.value current = .list items →
            h.value value ≠ .list added :=
          fun hadd items added hleft hright => hlists ⟨hadd, items, added, hleft, hright⟩
        have hrun := combine_eq_apply hno what
        rcases hv : a.onValues (h.value current) (h.value value) with stop | v
        · refine .inr ⟨stop, hrun.trans (apply_of_error hv),
            .inr ⟨Unconverted.onValues_fails _ _ _ stop hv, ?_⟩⟩
          intro hcombinable
          obtain ⟨v, hok⟩ := hcombinable a rfl
          rw [hv] at hok
          cases hok
        · exact .inl ⟨_, _, hrun.trans (apply_of_ok hv), .applied hno hv⟩

/-- What the assignments of an item and of an entry have in common. -/
def replace (op : LetOp) (current value : Ref) (what : String) (store : Ref → Op Unit) :
    Op Unit := do
  let assigned ← combined op current value what
  if ← isLocked current then fail (.locked what)
  store assigned

/-- An old item is replaced once a value for it has been computed and it is not locked. Otherwise
nothing has changed. -/
theorem replace_cases (op : LetOp) (current value : Ref) (what : String) (store : Ref → Op Unit)
    (h : Heap) :
    (∃ assigned h₁, h.Computes current value op assigned h₁ ∧ h.isLocked current = false ∧
      replace op current value what store h = store assigned h₁) ∨
    ∃ stop h', replace op current value what store h = (.error stop, h') ∧ h.Kept h' ∧
      ((stop = .ofCause (.locked what) ∧ h.isLocked current = true ∧
        h.Combinable op current value) ∨
      (Unconverted stop ∧ ¬h.Combinable op current value)) := by
  unfold replace
  obtain ⟨assigned, h₁, hout, hcomputes⟩ | ⟨stop, hout, hstop⟩ :=
    combined_cases op current value what h
  · have hlock := hcomputes.heapJoined.isLocked current
    cases hlocked : h.isLocked current with
    | false =>
        refine .inl ⟨assigned, h₁, hcomputes, rfl, ?_⟩
        rw [hlocked] at hlock
        rw [bind_of_ok hout, bind_of_ok (isLocked_eq current h₁), hlock, if_neg Bool.false_ne_true]
    | true =>
        have hno : ¬h.Extends op current value := by
          rintro ⟨a, items, added, -, hjoins⟩
          have hunlocked := hjoins.unlocked
          rw [hlocked] at hunlocked
          cases hunlocked
        refine .inr ⟨.ofCause (.locked what), h₁, ?_, hcomputes.kept hno,
          .inl ⟨rfl, rfl, hcomputes.combinable⟩⟩
        rw [hlocked] at hlock
        rw [bind_of_ok hout, bind_of_ok (isLocked_eq current h₁), hlock]
        rfl
  · exact .inr ⟨stop, h, bind_of_error hout, Heap.kept_extending.refl h, hstop⟩

end Op

/-! ## What is read afterwards -/

namespace Op

variable {h : Heap} {container key r : Ref}

theorem toText_eq {name : String} (hkey : (h.value key).toText = .ok name) :
    toText key h = (.ok name, h) := by
  rw [toText, bind_of_ok (value_eq key h), hkey]
  rfl

theorem toNumber_eq {i : Int} (hkey : (h.value key).toNumber = .ok i) :
    toNumber key h = (.ok i, h) := by
  rw [toNumber, bind_of_ok (value_eq key h), hkey]
  rfl

theorem position?_natCast {length p : Nat} (hp : p < length) :
    position? length (p : Int) = some p :=
  position?_eq_some_iff.mpr ⟨hp, .inl rfl⟩

theorem index_entry {t : Table} {name : String} (ht : h.value container = .dict t)
    (hkey : (h.value key).toText = .ok name) (hget : t.get? name = some r) :
    index container key h = boundTo container r h := by
  unfold index
  rw [bind_of_ok (value_eq container h), ht]
  dsimp only
  rw [bind_of_ok (toText_eq hkey), hget]

theorem index_item {items : List Ref} {p : Nat} (hitems : h.value container = .list items)
    (hkey : (h.value key).toNumber = .ok (p : Int)) (hget : items[p]? = some r) :
    index container key h = (.ok r, h) := by
  have hp := (List.getElem?_eq_some_iff.mp hget).1
  unfold index
  rw [bind_of_ok (value_eq container h), hitems]
  dsimp only
  rw [bind_of_ok (toNumber_eq hkey), position?_natCast hp, Option.bind_some, hget]
  rfl

theorem index_byte {bytes : List UInt8} {p : Nat} {b : UInt8}
    (hbytes : h.value container = .blob bytes)
    (hkey : (h.value key).toNumber = .ok (p : Int)) (hget : bytes[p]? = some b) :
    index container key h =
      (.ok (h.alloc (.number b.toNat)).1, (h.alloc (.number b.toNat)).2) := by
  have hp := (List.getElem?_eq_some_iff.mp hget).1
  unfold index
  rw [bind_of_ok (value_eq container h), hbytes]
  dsimp only
  rw [bind_of_ok (toNumber_eq hkey), position?_natCast hp, Option.bind_some, hget]
  rfl

/-- A Funcref that was not given its Dictionary is made anew for the one it is read from. -/
theorem boundTo_funcref {f : Funcref} (hf : h.value r = .funcref f)
    (hfixed : f.isSelfFixed = false) :
    boundTo container r h =
      (.ok (h.alloc (.funcref { f with self := some container })).1,
        (h.alloc (.funcref { f with self := some container })).2) := by
  unfold boundTo
  rw [bind_of_ok (value_eq r h), hf]
  dsimp only
  rw [hfixed, if_neg Bool.false_ne_true]
  rfl

theorem boundTo_object (hno : ∀ f, h.value r = .funcref f → f.isSelfFixed = true) :
    boundTo container r h = (.ok r, h) := by
  unfold boundTo
  rw [bind_of_ok (value_eq r h)]
  generalize h.value r = v at hno
  cases v with
  | funcref f =>
      dsimp only
      rw [if_pos (hno f rfl)]
      rfl
  | number _ | float _ | string _ | list _ | dict _ | blob _ => rfl

end Op

/-! ## The write -/

/-- An item of a List is another object; all else is as it was. -/
structure ItemReplaced (h h' : Heap) (list : Ref) (p : Nat) (assigned : Ref) : Prop where
  size : h'.size = h.size
  kept : ∀ r, r ≠ list → h'.cell r = h.cell r
  isLocked : h'.isLocked list = h.isLocked list
  items : h'.value list = .list ((h.items list).set p assigned)
  read : ∀ key, (h'.value key).toNumber = .ok (p : Int) →
    Op.index list key h' = (.ok assigned, h')

/-- An entry of a Dictionary is another object: the key keeps its place, or comes last if it is new.
A Funcref is read as one that is called on the Dictionary, unless it was given another. -/
structure EntryReplaced (h h' : Heap) (dict : Ref) (t : Table) (name : String) (assigned : Ref) :
    Prop where
  kept : ∀ r, r.index < h.size → r ≠ dict → h'.cell r = h.cell r
  isLocked : h'.isLocked dict = h.isLocked dict
  isDict : h'.value dict = .dict (h'.table dict)
  keys : (h'.table dict).keys = if name ∈ t.keys then t.keys else t.keys ++ [name]
  others : ∀ other, other ≠ name → (h'.table dict).get? other = t.get? other
  lockedNames : (h'.table dict).lockedNames = t.lockedNames
  read : ∀ key, (h'.value key).toText = .ok name →
    (∀ f, h.value assigned = .funcref f → f.isSelfFixed = true) →
      Op.index dict key h' = (.ok assigned, h')
  readFuncref : ∀ key f, (h'.value key).toText = .ok name → h.value assigned = .funcref f →
    f.isSelfFixed = false →
      Op.index dict key h' = (.ok (h'.alloc (.funcref { f with self := some dict })).1,
        (h'.alloc (.funcref { f with self := some dict })).2)

/-- A byte of a Blob is another number modulo 256; all else is as it was. -/
structure ByteReplaced (h h' : Heap) (blob : Ref) (bytes : List UInt8) (p : Nat) (n : Int) :
    Prop where
  kept : ∀ r, r.index < h.size → r ≠ blob → h'.cell r = h.cell r
  isLocked : h'.isLocked blob = h.isLocked blob
  bytes : h'.value blob = .blob (bytes.set p (UInt8.ofNat (n % 256).toNat))
  read : ∀ key, (h'.value key).toNumber = .ok (p : Int) →
    Op.index blob key h' =
      (.ok (h'.alloc (.number (n % 256))).1, (h'.alloc (.number (n % 256))).2)

theorem setItem_replaces {h : Heap} {list : Ref} {p : Nat} (hp : p < (h.items list).length)
    (assigned : Ref) :
    ∃ h', Op.setItem list p assigned h = (.ok (), h') ∧ ItemReplaced h h' list p assigned := by
  have hlist : h.value list = .list (h.items list) :=
    Heap.value_of_getElem? (List.getElem?_eq_getElem hp)
  have hvalue := Heap.value_setValue h (.list ((h.items list).set p assigned))
    (Heap.index_lt_of_list hlist)
  refine ⟨_, rfl, ?_⟩
  exact
    { size := Heap.size_setValue h _ _
      kept := fun r hr => Heap.cell_setValue_of_ne h _ hr
      isLocked := Heap.isLocked_setValue h _ list list
      items := hvalue
      read := fun key hkey => Op.index_item hvalue hkey (List.getElem?_set_self hp) }

theorem byte_replaces {h h₁ : Heap} {blob : Ref} {bytes : List UInt8} {p : Nat}
    (hblob : h.value blob = .blob bytes) (hkept : h.Kept h₁) (hp : p < bytes.length) (n : Int) :
    ByteReplaced h (h₁.setValue blob (.blob (bytes.set p (UInt8.ofNat (n % 256).toNat)))) blob bytes
      p n := by
  have hin : blob.index < h.size := by
    refine Nat.lt_of_not_le fun hout => ?_
    rw [Heap.value_of_size_le hout] at hblob
    cases hblob
  have hvalue := Heap.value_setValue h₁ (.blob (bytes.set p (UInt8.ofNat (n % 256).toNat)))
    (Nat.lt_of_lt_of_le hin hkept.size)
  refine
    { kept := fun r hr hne => (Heap.cell_setValue_of_ne h₁ _ hne).trans (hkept.cell r hr)
      isLocked := (Heap.isLocked_setValue h₁ _ blob blob).trans
        (congrArg Cell.isLocked (hkept.cell blob hin))
      bytes := hvalue
      read := fun key hkey => ?_ }
  have hbyte : ((UInt8.ofNat (n % 256).toNat).toNat : Int) = n % 256 := by
    rw [UInt8.toNat_ofNat']
    omega
  rw [Op.index_byte hvalue hkey (List.getElem?_set_self hp), hbyte]

namespace Table

theorem get?_insert_self (t : Table) (name : String) (value : Ref) :
    (t.insert name value).get? name = some value := by
  rw [get?, insert, Entries.find?_put, if_pos rfl]

theorem get?_insert_of_ne (t : Table) {name other : String} (hne : other ≠ name) (value : Ref) :
    (t.insert name value).get? other = t.get? other := by
  rw [get?, insert, Entries.find?_put, if_neg (Ne.symm hne), get?]

end Table

/-- Writes a value under a key; a `dict` function is made one of the Dictionary first. -/
def Op.storeEntry (isDict : Callee → Bool) (dict : Ref) (name : String) (value : Ref) :
    Op Unit := do
  let value ← adopted isDict dict value
  modify fun h => h.modifyTable dict (·.insert name value)

section

variable {h : Heap} {dict assigned : Ref} {t : Table}

/-- An entry has been written if what has been written is read as the value that was assigned. -/
theorem entryReplaced_of_insert {h₁ h' : Heap} {name : String} {stored : Ref}
    (ht : h.value dict = .dict t) (hkept : h.Kept h₁)
    (hh' : h' = h₁.setValue dict (.dict (t.insert name stored)))
    (hread : (∀ f, h.value assigned = .funcref f → f.isSelfFixed = true) →
      Op.boundTo dict stored h' = (.ok assigned, h'))
    (hreadFuncref : ∀ f, h.value assigned = .funcref f → f.isSelfFixed = false →
      Op.boundTo dict stored h' = (.ok (h'.alloc (.funcref { f with self := some dict })).1,
        (h'.alloc (.funcref { f with self := some dict })).2)) :
    EntryReplaced h h' dict t name assigned := by
  have hin := Heap.index_lt_of_dict ht
  have hvalue : h'.value dict = .dict (t.insert name stored) := by
    rw [hh']
    exact Heap.value_setValue h₁ _ (Nat.lt_of_lt_of_le hin hkept.size)
  have htable : h'.table dict = t.insert name stored := Heap.table_of_dict hvalue
  have hentry : ∀ key, (h'.value key).toText = .ok name →
      Op.index dict key h' = Op.boundTo dict stored h' :=
    fun key hkey => Op.index_entry hvalue hkey (Table.get?_insert_self t name stored)
  refine
    { kept := fun r hr hne => ?_
      isLocked := ?_
      isDict := by rw [htable, hvalue]
      keys := by rw [htable]; exact Entries.names_put name stored t.entries
      others := fun other hne => by rw [htable, Table.get?_insert_of_ne t hne]
      lockedNames := by rw [htable]; rfl
      read := fun key hkey hno => (hentry key hkey).trans (hread hno)
      readFuncref := fun key f hkey hf hfixed =>
        (hentry key hkey).trans (hreadFuncref f hf hfixed) }
  · rw [hh', Heap.cell_setValue_of_ne h₁ _ hne]
    exact hkept.cell r hr
  · rw [hh', Heap.isLocked_setValue]
    exact congrArg Cell.isLocked (hkept.cell dict hin)

/-- Writing to another object leaves a Funcref one, and makes none. -/
theorem funcref_setValue {h : Heap} {dict r : Ref} {t : Table} (hdict : dict.index < h.size)
    (hnot : ∀ f, h.value dict ≠ .funcref f) (f : Funcref) :
    (h.setValue dict (.dict t)).value r = .funcref f ↔ h.value r = .funcref f := by
  by_cases hr : r = dict
  · subst hr
    rw [Heap.value_setValue h _ hdict]
    exact iff_of_false nofun (hnot f)
  · rw [Heap.value, Heap.cell_setValue_of_ne h _ hr, Heap.value]

/-- A `dict` function that was not given a Dictionary is stored as a new Funcref. -/
theorem adopted_funcref {isDict : Callee → Bool} {f : Funcref}
    (hf : h.value assigned = .funcref f) (hcallee : isDict f.callee = true)
    (hfixed : f.isSelfFixed = false) :
    Op.adopted isDict dict assigned h =
      (.ok (h.alloc (.funcref { f with self := some dict })).1,
        (h.alloc (.funcref { f with self := some dict })).2) := by
  unfold Op.adopted
  rw [Op.bind_of_ok (Op.value_eq assigned h), hf]
  dsimp only
  rw [hcallee, hfixed]
  rfl

theorem adopted_object {isDict : Callee → Bool}
    (hno : ∀ f, h.value assigned = .funcref f → isDict f.callee = true → f.isSelfFixed = true) :
    Op.adopted isDict dict assigned h = (.ok assigned, h) := by
  unfold Op.adopted
  rw [Op.bind_of_ok (Op.value_eq assigned h)]
  generalize h.value assigned = v at hno
  cases v with
  | funcref f =>
      dsimp only
      rw [if_neg]
      · rfl
      · intro hadopts
        rw [Bool.and_eq_true, Bool.not_eq_true'] at hadopts
        rw [hno f rfl hadopts.1] at hadopts
        cases hadopts.2
  | number _ | float _ | string _ | list _ | dict _ | blob _ => rfl

/-- An entry is written, and what is written is read as the value that was assigned. -/
theorem storeEntry_replaces (isDict : Callee → Bool) (ht : h.value dict = .dict t)
    (name : String) (assigned : Ref) :
    ∃ h', Op.storeEntry isDict dict name assigned h = (.ok (), h') ∧
      EntryReplaced h h' dict t name assigned := by
  have hin := Heap.index_lt_of_dict ht
  have hnot : ∀ f, h.value dict ≠ .funcref f := by
    intro f hf
    rw [ht] at hf
    cases hf
  by_cases hadopted : ∃ f, h.value assigned = .funcref f ∧ isDict f.callee = true ∧
    f.isSelfFixed = false
  · -- a Funcref that is called on the Dictionary is stored in place of the value
    obtain ⟨f, hf, hcallee, hfixed⟩ := hadopted
    have hvalue := Heap.value_alloc_of_lt h (.funcref { f with self := some dict }) hin
    have hnew := Heap.value_alloc_self h (.funcref { f with self := some dict })
    have hstore : Op.storeEntry isDict dict name assigned h =
        (.ok (), (h.alloc (.funcref { f with self := some dict })).2.setValue dict
          (.dict (t.insert name (h.alloc (.funcref { f with self := some dict })).1))) := by
      unfold Op.storeEntry
      rw [Op.bind_of_ok (adopted_funcref hf hcallee hfixed), Op.modify_eq, Heap.modifyTable,
        Heap.table_of_dict (hvalue.trans ht)]
    refine ⟨_, hstore, entryReplaced_of_insert ht (Heap.kept_extending.alloc h _) rfl ?_ ?_⟩
    · intro hno
      rw [hno f hf] at hfixed
      cases hfixed
    · intro f' hf' hfixed'
      rw [hf] at hf'
      cases hf'
      have hin₁ : dict.index < ((h.alloc (.funcref { f with self := some dict })).2).size := by
        rw [Heap.size_alloc]
        exact Nat.lt_succ_of_lt hin
      refine Op.boundTo_funcref (f := { f with self := some dict })
        ((funcref_setValue hin₁ ?_ _).mpr hnew) hfixed
      rw [hvalue]
      exact hnot
  · have hobject : Op.adopted isDict dict assigned h = (.ok assigned, h) := by
      refine adopted_object fun f hf hcallee => ?_
      refine Decidable.byContradiction fun hfixed => ?_
      exact hadopted ⟨f, hf, hcallee, eq_false_of_ne_true hfixed⟩
    have hstore : Op.storeEntry isDict dict name assigned h =
        (.ok (), h.setValue dict (.dict (t.insert name assigned))) := by
      unfold Op.storeEntry
      rw [Op.bind_of_ok hobject, Op.modify_eq, Heap.modifyTable, Heap.table_of_dict ht]
    refine ⟨_, hstore, entryReplaced_of_insert ht (Heap.kept_extending.refl h) rfl ?_ ?_⟩
    · intro hno
      exact Op.boundTo_object fun f hf => hno f ((funcref_setValue hin hnot f).mp hf)
    · intro f hf hfixed
      exact Op.boundTo_funcref ((funcref_setValue hin hnot f).mpr hf) hfixed

end

end Vimscript
