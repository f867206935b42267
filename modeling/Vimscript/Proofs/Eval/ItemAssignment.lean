import Vimscript.Proofs.Eval.Storing

/-!
# Assigning an item

`:let` for an item of a List, an entry of a Dictionary or a byte of a Blob
finds the old item, computes what is to be stored, asks for the locks and
writes last. So it fails and has changed nothing, or it succeeds and has
changed nothing else (`LawfulUpdate`).

`ItemRefusal` lists the errors that are the assignment's own. All the others
are those of conversions and of arithmetic, with codes of their own, so that
each code of the list tells exactly what was wrong
(`assignItem_failsWith_iff`). One of the errors may not come to be: the text
of an index error has the index in it, and an index with too many digits is
not written.
-/

namespace Vimscript

/-! ## How an assignment ends -/

/-- The number that an operator assigns to a byte, for the old byte and the value on the right. The
old byte has been made a Number by the time the operator is applied. -/
inductive Heap.ByteComputes (h : Heap) (old : UInt8) (value : Ref) : LetOp → Int → Prop
  | set {n : Int} : (h.value value).toNumber = .ok n → ByteComputes h old value .set n
  | update {a : Arith} {v : Value} {n : Int} :
      a.onValues (.number old.toNat) ((h.alloc (.number old.toNat)).2.value value) = .ok v →
      v.toNumber = .ok n → ByteComputes h old value (.update a) n

/-- What an assignment that succeeds has done: the place that the key selects holds what the
operator computes, and nothing else has changed. -/
inductive LawfulUpdate (h h' : Heap) (container key : Ref) (op : LetOp) (value : Ref) : Prop
  | entry {t : Table} {name : String} {current assigned : Ref} {h₁ : Heap} :
      h.value container = .dict t → (h.value key).toText = .ok name →
      t.get? name = some current → h.isLocked current = false →
      h.Computes current value op assigned h₁ → EntryReplaced h₁ h' container t name assigned →
      LawfulUpdate h h' container key op value
  | newEntry {t : Table} {name : String} :
      h.value container = .dict t → (h.value key).toText = .ok name → t.get? name = none →
      op = .set → h.isLocked container = false → EntryReplaced h h' container t name value →
      LawfulUpdate h h' container key op value
  | item {items : List Ref} {i : Int} {p : Nat} {current assigned : Ref} {h₁ : Heap} :
      h.value container = .list items → (h.value key).toNumber = .ok i →
      i = p ∨ i = (p : Int) - items.length → items[p]? = some current →
      h.isLocked current = false → h.Computes current value op assigned h₁ →
      ItemReplaced h₁ h' container p assigned → LawfulUpdate h h' container key op value
  | byte {bytes : List UInt8} {i n : Int} {p : Nat} {old : UInt8} :
      h.value container = .blob bytes → (h.value key).toNumber = .ok i →
      i = p ∨ i = (p : Int) - bytes.length → bytes[p]? = some old →
      h.ByteComputes old value op n → ByteReplaced h h' container bytes p n →
      LawfulUpdate h h' container key op value

/-- A container of so many items or bytes, with the error for an index that selects none of them. -/
inductive Heap.Indexed (h : Heap) (container : Ref) : Nat → (String → Cause) → Prop
  | list {items : List Ref} : h.value container = .list items →
      Indexed h container items.length .listIndex
  | blob {bytes : List UInt8} : h.value container = .blob bytes →
      Indexed h container bytes.length .blobIndex

/-- The errors of an assignment that are its own, not those of a conversion or of arithmetic. -/
inductive ItemRefusal (h : Heap) (container key : Ref) (op : LetOp) (value : Ref) : Cause → Prop
  | notIndexable : (∀ t, h.value container ≠ .dict t) →
      (∀ items, h.value container ≠ .list items) → (∀ bytes, h.value container ≠ .blob bytes) →
      ItemRefusal h container key op value .notIndexable
  | outside {length : Nat} {cause : String → Cause} {i : Int} : h.Indexed container length cause →
      (h.value key).toNumber = .ok i → ¬(-(length : Int) ≤ i ∧ i < length) →
      Number.isLong i = false → ItemRefusal h container key op value (cause (toString i))
  | noSuchKey {t : Table} {name : String} : h.value container = .dict t →
      (h.value key).toText = .ok name → t.get? name = none → op ≠ .set →
      ItemRefusal h container key op value (.noSuchKey name)
  | lockedDict {t : Table} {name : String} : h.value container = .dict t →
      (h.value key).toText = .ok name → t.get? name = none → op = .set →
      h.isLocked container = true → ItemRefusal h container key op value (.locked name)
  | lockedEntry {t : Table} {name : String} {current : Ref} : h.value container = .dict t →
      (h.value key).toText = .ok name → t.get? name = some current → h.isLocked current = true →
      h.Combinable op current value → ItemRefusal h container key op value (.locked name)
  | lockedItem {items : List Ref} {i : Int} {p : Nat} {current : Ref} :
      h.value container = .list items → (h.value key).toNumber = .ok i →
      i = p ∨ i = (p : Int) - items.length → items[p]? = some current →
      h.isLocked current = true → h.Combinable op current value →
      ItemRefusal h container key op value (.locked (Op.itemName i))

/-- The ways in which an assignment can end. -/
inductive ItemOutcome (h : Heap) (container key : Ref) (op : LetOp) (value : Ref) :
    Except Stop Unit × Heap → Prop
  | updated {h' : Heap} : LawfulUpdate h h' container key op value →
      ItemOutcome h container key op value (.ok (), h')
  | refused {c : Cause} {h' : Heap} : ItemRefusal h container key op value c → h.Kept h' →
      ItemOutcome h container key op value (.error (.ofCause c), h')
  | unconverted {stop : Stop} {h' : Heap} : Unconverted stop → h.Kept h' →
      ItemOutcome h container key op value (.error stop, h')

section

variable {h : Heap} {container key value : Ref} {op : LetOp}

theorem write_short {i : Int} (hlong : Number.isLong i = false) (h : Heap) :
    (orFault (Number.write i) : Op String) h = (.ok (toString i), h) := by
  rw [Number.write, hlong]
  rfl

theorem write_long {i : Int} (hlong : Number.isLong i = true) (h : Heap) :
    (orFault (Number.write i) : Op String) h = (.error (.fault (.tooManyDigits none)), h) := by
  rw [Number.write, hlong]
  rfl

theorem toNumber_cases (r : Ref) (h : Heap) :
    (∃ i, (h.value r).toNumber = .ok i ∧ Op.toNumber r h = (.ok i, h)) ∨
    ∃ stop, Unconverted stop ∧ Op.toNumber r h = (.error stop, h) := by
  rw [Op.toNumber, Op.bind_of_ok (Op.value_eq r h)]
  rcases hr : (h.value r).toNumber with stop | i
  · exact .inr ⟨stop, Unconverted.toNumber_fails _ stop hr, rfl⟩
  · exact .inl ⟨i, rfl, rfl⟩

theorem toText_cases (r : Ref) (h : Heap) :
    (∃ k, (h.value r).toText = .ok k ∧ Op.toText r h = (.ok k, h)) ∨
    ∃ stop, Unconverted stop ∧ Op.toText r h = (.error stop, h) := by
  rw [Op.toText, Op.bind_of_ok (Op.value_eq r h)]
  rcases hr : (h.value r).toText with stop | k
  · exact .inr ⟨stop, Unconverted.toText_fails _ stop hr, rfl⟩
  · exact .inl ⟨k, rfl, rfl⟩

theorem ItemOutcome.ofNumber {r : Ref} {h₁ : Heap} {f : Int → Op Unit} (hkept : h.Kept h₁)
    (hf : ∀ i, (h₁.value r).toNumber = .ok i → ItemOutcome h container key op value (f i h₁)) :
    ItemOutcome h container key op value ((Op.toNumber r >>= f) h₁) := by
  obtain ⟨i, hi, hrun⟩ | ⟨stop, hstop, hrun⟩ := toNumber_cases r h₁
  · rw [Op.bind_of_ok hrun]
    exact hf i hi
  · rw [Op.bind_of_error hrun]
    exact .unconverted hstop hkept

theorem ItemOutcome.ofText {f : String → Op Unit}
    (hf : ∀ k, (h.value key).toText = .ok k → ItemOutcome h container key op value (f k h)) :
    ItemOutcome h container key op value ((Op.toText key >>= f) h) := by
  obtain ⟨k, hk, hrun⟩ | ⟨stop, hstop, hrun⟩ := toText_cases key h
  · rw [Op.bind_of_ok hrun]
    exact hf k hk
  · rw [Op.bind_of_error hrun]
    exact .unconverted hstop (Heap.kept_extending.refl h)

theorem position?_eq_none_iff {length : Nat} {i : Int} :
    position? length i = none ↔ ¬(-(length : Int) ≤ i ∧ i < length) := by
  rw [← position?_isSome_iff, Option.not_isSome_iff_eq_none]

theorem LetOp.update_ne_set (a : Arith) : LetOp.update a ≠ .set := by
  intro h
  cases h

/-- Behind the ends of a container there is nothing to assign to. -/
theorem ItemOutcome.outside {length : Nat} {cause : String → Cause} {i : Int}
    (hindexed : h.Indexed container length cause) (hkey : (h.value key).toNumber = .ok i)
    (hnone : position? length i = none) :
    ItemOutcome h container key op value
      (((orFault (Number.write i) : Op String) >>= fun text => fail (cause text)) h) := by
  have hrange : ¬(-(length : Int) ≤ i ∧ i < length) := position?_eq_none_iff.mp hnone
  cases hlong : Number.isLong i with
  | false =>
      rw [Op.bind_of_ok (write_short hlong h)]
      exact .refused (.outside hindexed hkey hrange hlong) (Heap.kept_extending.refl h)
  | true =>
      rw [Op.bind_of_error (write_long hlong h)]
      exact .unconverted (.strained _) (Heap.kept_extending.refl h)

/-- An old item is replaced, if it is not locked and what is computed for it can be stored. -/
theorem ItemOutcome.ofReplace {current : Ref} (what : String) (store : Ref → Op Unit)
    (hrefuses : h.isLocked current = true → h.Combinable op current value →
      ItemRefusal h container key op value (.locked what))
    (hstores : ∀ assigned h₁, h.isLocked current = false → h.Computes current value op assigned h₁ →
      ∃ h', store assigned h₁ = (.ok (), h') ∧ LawfulUpdate h h' container key op value) :
    ItemOutcome h container key op value (Op.replace op current value what store h) := by
  obtain ⟨assigned, h₁, hcomputes, hfree, hrun⟩ | ⟨stop, h', hrun, hkept, hstop⟩ :=
    Op.replace_cases op current value what store h
  · obtain ⟨h', hstore, hupdate⟩ := hstores assigned h₁ hfree hcomputes
    rw [hrun, hstore]
    exact .updated hupdate
  · rw [hrun]
    obtain ⟨rfl, hlocked, hcombinable⟩ | ⟨hunconverted, -⟩ := hstop
    · exact .refused (hrefuses hlocked hcombinable) hkept
    · exact .unconverted hunconverted hkept

theorem assignItem_list (isDict : Callee → Bool) {items : List Ref}
    (hitems : h.value container = .list items) :
    ItemOutcome h container key op value (Op.assignItem isDict container key op value h) := by
  unfold Op.assignItem
  rw [Op.bind_of_ok (Op.value_eq container h), hitems]
  refine .ofNumber (Heap.kept_extending.refl h) fun i hkey => ?_
  rcases hp : position? items.length i with _ | p
  · exact .outside (.list hitems) hkey hp
  · obtain ⟨hlt, hi⟩ := position?_eq_some_iff.mp hp
    have hcurrent : items[p]? = some (items.getD p default) := by
      rw [List.getD_eq_getElem?_getD, List.getElem?_eq_getElem hlt, Option.getD_some]
    dsimp only
    generalize items.getD p default = current at hcurrent ⊢
    refine .ofReplace (Op.itemName i) (Op.setItem container p)
      (fun hlocked hcombinable => .lockedItem hitems hkey hi hcurrent hlocked hcombinable) ?_
    intro assigned h₁ hfree hcomputes
    obtain ⟨more, hmore⟩ := hcomputes.heapJoined.list container items hitems
    have hp₁ : p < (h₁.items container).length := by
      rw [Heap.items_of_list hmore, List.length_append]
      omega
    obtain ⟨h', hset, hreplaced⟩ := setItem_replaces hp₁ assigned
    exact ⟨h', hset, .item hitems hkey hi hcurrent hfree hcomputes hreplaced⟩

theorem assignItem_dict (isDict : Callee → Bool) {t : Table} (ht : h.value container = .dict t) :
    ItemOutcome h container key op value (Op.assignItem isDict container key op value h) := by
  have hrefl := Heap.kept_extending.refl h
  unfold Op.assignItem
  rw [Op.bind_of_ok (Op.value_eq container h), ht]
  refine .ofText fun name hkey => ?_
  unfold Op.assignEntry
  rw [Op.bind_of_ok (Op.get_eq h), Heap.table_of_dict ht]
  rcases hget : t.get? name with _ | current
  · cases op with
    | update a => exact .refused (.noSuchKey ht hkey hget (LetOp.update_ne_set a)) hrefl
    | set =>
        dsimp only
        rw [Op.bind_of_ok (Op.isLocked_eq container h)]
        cases hlocked : h.isLocked container with
        | true => exact .refused (.lockedDict ht hkey hget rfl hlocked) hrefl
        | false =>
            obtain ⟨h', hstore, hreplaced⟩ := storeEntry_replaces isDict ht name value
            change ItemOutcome h container key .set value
              (Op.storeEntry isDict container name value h)
            rw [hstore]
            exact .updated (.newEntry ht hkey hget rfl hlocked hreplaced)
  · refine .ofReplace name (Op.storeEntry isDict container name)
      (fun hlocked hcombinable => .lockedEntry ht hkey hget hlocked hcombinable) ?_
    intro assigned h₁ hfree hcomputes
    have ht₁ := hcomputes.heapJoined.dict container t ht
    obtain ⟨h', hstore, hreplaced⟩ := storeEntry_replaces isDict ht₁ name assigned
    exact ⟨h', hstore, .entry ht hkey hget hfree hcomputes hreplaced⟩

/-! ### Bytes -/

theorem Op.number_eq (n : Int) (h : Heap) :
    Op.number n h = (.ok (h.alloc (.number n)).1, (h.alloc (.number n)).2) := rfl

/-- A byte is no List, so that every operator makes a new value of it. -/
theorem combine_byte (a : Arith) (old : UInt8) (value : Ref) (what : String) (h : Heap) :
    Op.combine a (h.alloc (.number old.toNat)).1 value what (h.alloc (.number old.toNat)).2 =
      a.apply (h.alloc (.number old.toNat)).1 value (h.alloc (.number old.toNat)).2 := by
  refine Op.combine_eq_apply (fun _ items added hleft => ?_) what
  rw [Heap.value_alloc_self] at hleft
  cases hleft

/-- What is computed for a byte is used as a Number and written. -/
theorem ItemOutcome.ofByte {bytes : List UInt8} {i : Int} {p : Nat} {old : UInt8} {r : Ref}
    {h₁ : Heap} (hbytes : h.value container = .blob bytes)
    (hkey : (h.value key).toNumber = .ok i) (hi : i = p ∨ i = (p : Int) - bytes.length)
    (hold : bytes[p]? = some old) (hkept : h.Kept h₁)
    (hcomputes : ∀ n, (h₁.value r).toNumber = .ok n → h.ByteComputes old value op n) :
    ItemOutcome h container key op value ((Op.toNumber r >>= fun n => Op.setValue container
      (.blob (bytes.set p (UInt8.ofNat (n % 256).toNat)))) h₁) := by
  refine .ofNumber hkept fun n hn => ?_
  have hp := (List.getElem?_eq_some_iff.mp hold).1
  exact .updated (.byte hbytes hkey hi hold (hcomputes n hn) (byte_replaces hbytes hkept hp n))

theorem assignItem_blob (isDict : Callee → Bool) {bytes : List UInt8}
    (hbytes : h.value container = .blob bytes) :
    ItemOutcome h container key op value (Op.assignItem isDict container key op value h) := by
  unfold Op.assignItem
  rw [Op.bind_of_ok (Op.value_eq container h), hbytes]
  refine .ofNumber (Heap.kept_extending.refl h) fun i hkey => ?_
  rcases hp : position? bytes.length i with _ | p
  · exact .outside (.blob hbytes) hkey hp
  · obtain ⟨hlt, hi⟩ := position?_eq_some_iff.mp hp
    have hold : bytes[p]? = some (bytes.getD p 0) := by
      rw [List.getD_eq_getElem?_getD, List.getElem?_eq_getElem hlt, Option.getD_some]
    dsimp only
    generalize bytes.getD p 0 = old at hold ⊢
    cases op with
    | set => exact .ofByte hbytes hkey hi hold (Heap.kept_extending.refl h) fun n hn => .set hn
    | update a =>
        have hkept := Heap.kept_extending.alloc h (.number old.toNat)
        have hrun := combine_byte a old value (Op.itemName i) h
        have hheld := Heap.value_alloc_self h (.number old.toNat)
        dsimp only
        rw [Op.bind_of_ok (Op.number_eq _ h)]
        rcases hv : a.onValues (.number old.toNat)
          ((h.alloc (.number old.toNat)).2.value value) with stop | v
        · rw [Op.bind_of_error (hrun.trans (Op.apply_of_error (by rw [hheld]; exact hv)))]
          exact .unconverted (Unconverted.onValues_fails _ _ _ stop hv) hkept
        · rw [Op.bind_of_ok (hrun.trans (Op.apply_of_ok (by rw [hheld]; exact hv)))]
          have hkept₁ := Heap.kept_extending.trans hkept (Heap.kept_extending.alloc _ v)
          refine .ofByte hbytes hkey hi hold hkept₁ fun n hn => ?_
          rw [Heap.value_alloc_self] at hn
          exact .update hv hn

theorem assignItem_outcome (isDict : Callee → Bool) (h : Heap) (container key : Ref) (op : LetOp)
    (value : Ref) :
    ItemOutcome h container key op value (Op.assignItem isDict container key op value h) := by
  rcases hcontainer : h.value container with n | x | s | items | t | f | bytes
  case list => exact assignItem_list isDict hcontainer
  case dict => exact assignItem_dict isDict hcontainer
  case blob => exact assignItem_blob isDict hcontainer
  all_goals
    unfold Op.assignItem
    rw [Op.bind_of_ok (Op.value_eq container h), hcontainer]
    refine .refused (.notIndexable ?_ ?_ ?_) (Heap.kept_extending.refl h)
    all_goals
      intro v hv
      rw [hcontainer] at hv
      cases hv

/-! ### The errors occur -/

/-- Once the key is known to select a position of a List, the item there is replaced. -/
theorem assignItem_list_eq (isDict : Callee → Bool) {items : List Ref} {i : Int} {p : Nat}
    {current : Ref} (hitems : h.value container = .list items)
    (hkey : (h.value key).toNumber = .ok i) (hi : i = p ∨ i = (p : Int) - items.length)
    (hcurrent : items[p]? = some current) :
    Op.assignItem isDict container key op value h =
      Op.replace op current value (Op.itemName i) (Op.setItem container p) h := by
  have hp := position?_eq_some_iff.mpr ⟨(List.getElem?_eq_some_iff.mp hcurrent).1, hi⟩
  unfold Op.assignItem
  rw [Op.bind_of_ok (Op.value_eq container h), hitems]
  dsimp only
  rw [Op.bind_of_ok (Op.toNumber_eq hkey), hp]
  dsimp only
  rw [List.getD_eq_getElem?_getD, hcurrent]
  rfl

theorem assignItem_dict_eq (isDict : Callee → Bool) {t : Table} {name : String}
    (ht : h.value container = .dict t) (hkey : (h.value key).toText = .ok name) :
    Op.assignItem isDict container key op value h =
      Op.assignEntry isDict container name op value h := by
  unfold Op.assignItem
  rw [Op.bind_of_ok (Op.value_eq container h), ht]
  dsimp only
  rw [Op.bind_of_ok (Op.toText_eq hkey)]

/-- A locked item for which there is a value is refused for its lock. -/
theorem replace_locked {current : Ref} {what : String} {store : Ref → Op Unit}
    (hlocked : h.isLocked current = true) (hcombinable : h.Combinable op current value) :
    ∃ h', Op.replace op current value what store h = (.error (.ofCause (.locked what)), h') := by
  obtain ⟨_, _, -, hfree, -⟩ | ⟨stop, h', hrun, -, hstop⟩ :=
    Op.replace_cases op current value what store h
  · rw [hlocked] at hfree
    cases hfree
  · obtain ⟨rfl, -, -⟩ | ⟨-, hno⟩ := hstop
    · exact ⟨h', hrun⟩
    · exact absurd hcombinable hno

/-- An index that selects nothing is written in the text of the error. -/
theorem assignItem_outside (isDict : Callee → Bool) {length : Nat} {cause : String → Cause}
    {i : Int} (hindexed : h.Indexed container length cause)
    (hkey : (h.value key).toNumber = .ok i) (hrange : ¬(-(length : Int) ≤ i ∧ i < length)) :
    Op.assignItem isDict container key op value h =
      ((orFault (Number.write i) : Op String) >>= fun text => fail (cause text)) h := by
  have hnone := position?_eq_none_iff.mpr hrange
  unfold Op.assignItem
  cases hindexed with
  | list hitems =>
      rw [Op.bind_of_ok (Op.value_eq container h), hitems]
      dsimp only
      rw [Op.bind_of_ok (Op.toNumber_eq hkey), hnone]
  | blob hbytes =>
      rw [Op.bind_of_ok (Op.value_eq container h), hbytes]
      dsimp only
      rw [Op.bind_of_ok (Op.toNumber_eq hkey), hnone]

theorem ItemRefusal.occurs {c : Cause} (isDict : Callee → Bool)
    (hrefusal : ItemRefusal h container key op value c) :
    ∃ h', Op.assignItem isDict container key op value h = (.error (.ofCause c), h') := by
  cases hrefusal with
  | notIndexable hdict hlist hblob =>
      unfold Op.assignItem
      rw [Op.bind_of_ok (Op.value_eq container h)]
      generalize h.value container = v at hdict hlist hblob
      cases v with
      | list items => exact absurd rfl (hlist items)
      | dict t => exact absurd rfl (hdict t)
      | blob bytes => exact absurd rfl (hblob bytes)
      | number _ | float _ | string _ | funcref _ => exact ⟨h, rfl⟩
  | outside hindexed hkey hrange hlong =>
      rw [assignItem_outside isDict hindexed hkey hrange, Op.bind_of_ok (write_short hlong h)]
      exact ⟨h, rfl⟩
  | noSuchKey ht hkey hget hop =>
      cases op with
      | set => exact absurd rfl hop
      | update a =>
          rw [assignItem_dict_eq isDict ht hkey, Op.assignEntry, Op.bind_of_ok (Op.get_eq h),
            Heap.table_of_dict ht, hget]
          exact ⟨h, rfl⟩
  | lockedDict ht hkey hget hop hlocked =>
      subst hop
      rw [assignItem_dict_eq isDict ht hkey, Op.assignEntry, Op.bind_of_ok (Op.get_eq h),
        Heap.table_of_dict ht, hget]
      dsimp only
      rw [Op.bind_of_ok (Op.isLocked_eq container h), hlocked]
      exact ⟨h, rfl⟩
  | lockedEntry ht hkey hget hlocked hcombinable =>
      rw [assignItem_dict_eq isDict ht hkey, Op.assignEntry, Op.bind_of_ok (Op.get_eq h),
        Heap.table_of_dict ht, hget]
      exact replace_locked hlocked hcombinable
  | lockedItem hitems hkey hi hcurrent hlocked hcombinable =>
      rw [assignItem_list_eq isDict hitems hkey hi hcurrent]
      exact replace_locked hlocked hcombinable

end

/-! ## Lawful assignments -/

/-- An operation fails with an error of this code. -/
def Op.FailsWith {α : Type} (op : Op α) (code : String) (h : Heap) : Prop :=
  ∃ c h', op h = (.error (.ofCause c), h') ∧ c.code = some code

section

variable {h : Heap} {container key value : Ref} {op : LetOp}

/-- The errors that no conversion has are those of the assignment itself. -/
theorem assignItem_failsWith_iff (isDict : Callee → Bool) {code : String}
    (hcode : code ∉ conversionCodes) :
    (Op.assignItem isDict container key op value).FailsWith code h ↔
      ∃ c, ItemRefusal h container key op value c ∧ c.code = some code := by
  constructor
  · rintro ⟨c, h', hrun, hc⟩
    have houtcome := assignItem_outcome isDict h container key op value
    rw [hrun] at houtcome
    cases houtcome with
    | refused hrefusal _ => exact ⟨c, hrefusal, hc⟩
    | unconverted hunconverted _ =>
        cases hunconverted with
        | refused hc' hmem =>
            rw [hc] at hc'
            cases hc'
            exact absurd hmem hcode
  · rintro ⟨c, hrefusal, hc⟩
    obtain ⟨h', hrun⟩ := hrefusal.occurs isDict
    exact ⟨c, h', hrun, hc⟩

/-- When an assignment succeeds: an old item is not locked and there is a value for it, a Dictionary
that is not locked is given a new entry, or there is a number for a byte. -/
inductive Heap.Assignable (h : Heap) (container key : Ref) (op : LetOp) (value : Ref) : Prop
  | replaced {current : Ref} : h.ItemAt container key current → h.isLocked current = false →
      h.Combinable op current value → Assignable h container key op value
  | newEntry {t : Table} {name : String} : h.value container = .dict t →
      (h.value key).toText = .ok name → t.get? name = none → op = .set →
      h.isLocked container = false → Assignable h container key op value
  | byte {bytes : List UInt8} {i n : Int} {p : Nat} {old : UInt8} :
      h.value container = .blob bytes → (h.value key).toNumber = .ok i →
      i = p ∨ i = (p : Int) - bytes.length → bytes[p]? = some old →
      h.ByteComputes old value op n → Assignable h container key op value

theorem LawfulUpdate.assignable {h' : Heap} (hupdate : LawfulUpdate h h' container key op value) :
    h.Assignable container key op value := by
  cases hupdate with
  | entry ht hkey hget hfree hcomputes _ =>
      exact .replaced (.entry _ _ ht hkey hget) hfree hcomputes.combinable
  | newEntry ht hkey hget hop hfree _ => exact .newEntry ht hkey hget hop hfree
  | item hitems hkey hi hcurrent hfree hcomputes _ =>
      have hp := position?_eq_some_iff.mpr ⟨(List.getElem?_eq_some_iff.mp hcurrent).1, hi⟩
      exact .replaced (.item _ _ _ hitems hkey hp hcurrent) hfree hcomputes.combinable
  | byte hbytes hkey hi hold hcomputes _ => exact .byte hbytes hkey hi hold hcomputes

/-- Nothing but the container changes, and the List that is extended. -/
theorem LawfulUpdate.frame {h' : Heap} (hupdate : LawfulUpdate h h' container key op value)
    {r : Ref} (hr : r.index < h.size) (hne : r ≠ container)
    (hno : h.ItemAt container key r → ¬h.Extends op r value) : h'.cell r = h.cell r := by
  cases hupdate with
  | entry ht hkey hget _ hcomputes hreplaced =>
      rw [hreplaced.kept r (Nat.lt_of_lt_of_le hr hcomputes.size_le) hne]
      refine hcomputes.cell hr ?_
      rintro rfl
      exact hno (.entry _ _ ht hkey hget)
  | newEntry _ _ _ _ _ hreplaced => exact hreplaced.kept r hr hne
  | item hitems hkey hi hcurrent _ hcomputes hreplaced =>
      have hp := position?_eq_some_iff.mpr ⟨(List.getElem?_eq_some_iff.mp hcurrent).1, hi⟩
      rw [hreplaced.kept r hne]
      refine hcomputes.cell hr ?_
      rintro rfl
      exact hno (.item _ _ _ hitems hkey hp hcurrent)
  | byte _ _ _ _ _ hreplaced => exact hreplaced.kept r hr hne

/-- An item that is not locked and for which there is a value is replaced. -/
theorem replace_free {current : Ref} (hfree : h.isLocked current = false)
    (hcombinable : h.Combinable op current value) (what : String) (store : Ref → Op Unit) :
    ∃ assigned h₁, h.Computes current value op assigned h₁ ∧
      Op.replace op current value what store h = store assigned h₁ := by
  obtain ⟨assigned, h₁, hcomputes, -, hrun⟩ | ⟨_, _, -, -, hstop⟩ :=
    Op.replace_cases op current value what store h
  · exact ⟨assigned, h₁, hcomputes, hrun⟩
  · obtain ⟨-, hlocked, -⟩ | ⟨-, hno⟩ := hstop
    · rw [hfree] at hlocked
      cases hlocked
    · exact absurd hcombinable hno

/-- A byte is written once there is a number for it. -/
theorem assignItem_byte (isDict : Callee → Bool) {bytes : List UInt8} {i n : Int} {p : Nat}
    {old : UInt8} (hbytes : h.value container = .blob bytes)
    (hkey : (h.value key).toNumber = .ok i) (hi : i = p ∨ i = (p : Int) - bytes.length)
    (hold : bytes[p]? = some old) (hcomputes : h.ByteComputes old value op n) :
    ∃ h', Op.assignItem isDict container key op value h = (.ok (), h') := by
  have hp := position?_eq_some_iff.mpr ⟨(List.getElem?_eq_some_iff.mp hold).1, hi⟩
  unfold Op.assignItem
  rw [Op.bind_of_ok (Op.value_eq container h), hbytes]
  dsimp only
  rw [Op.bind_of_ok (Op.toNumber_eq hkey), hp]
  dsimp only
  rw [List.getD_eq_getElem?_getD, hold, Option.getD_some]
  cases hcomputes with
  | set hn => exact ⟨_, Op.bind_of_ok (Op.toNumber_eq hn)⟩
  | @update a v n hv hn =>
      have hheld := Heap.value_alloc_self h (.number old.toNat)
      have hrun := (combine_byte a old value (Op.itemName i) h).trans
        (Op.apply_of_ok (by rw [hheld]; exact hv))
      rw [← Heap.value_alloc_self (h.alloc (.number old.toNat)).2 v] at hn
      dsimp only
      rw [Op.bind_of_ok (Op.number_eq _ h), Op.bind_of_ok hrun]
      exact ⟨_, Op.bind_of_ok (Op.toNumber_eq hn)⟩

theorem Heap.Assignable.succeeds (isDict : Callee → Bool)
    (hassignable : h.Assignable container key op value) :
    ∃ h', Op.assignItem isDict container key op value h = (.ok (), h') := by
  cases hassignable with
  | @replaced current hitem hfree hcombinable =>
      cases hitem with
      | entry t name ht hkey hget =>
          rw [assignItem_dict_eq isDict ht hkey, Op.assignEntry, Op.bind_of_ok (Op.get_eq h),
            Heap.table_of_dict ht, hget]
          obtain ⟨assigned, h₁, hcomputes, hrun⟩ :=
            replace_free hfree hcombinable name (Op.storeEntry isDict container name)
          have ht₁ := hcomputes.heapJoined.dict container t ht
          obtain ⟨h', hstore, -⟩ := storeEntry_replaces isDict ht₁ name assigned
          exact ⟨h', hrun.trans hstore⟩
      | item items i p hitems hkey hp hcurrent =>
          have hi := (position?_eq_some_iff.mp hp).2
          rw [assignItem_list_eq isDict hitems hkey hi hcurrent]
          obtain ⟨assigned, h₁, -, hrun⟩ :=
            replace_free hfree hcombinable (Op.itemName i) (Op.setItem container p)
          exact ⟨_, hrun⟩
  | newEntry ht hkey hget hop hfree =>
      subst hop
      rw [assignItem_dict_eq isDict ht hkey, Op.assignEntry, Op.bind_of_ok (Op.get_eq h),
        Heap.table_of_dict ht, hget]
      dsimp only
      rw [Op.bind_of_ok (Op.isLocked_eq container h), hfree]
      obtain ⟨h', hstore, -⟩ := storeEntry_replaces isDict ht _ value
      exact ⟨h', hstore⟩
  | byte hbytes hkey hi hold hcomputes =>
      exact assignItem_byte isDict hbytes hkey hi hold hcomputes

theorem assignItem_updates {isDict : Callee → Bool} {h' : Heap}
    (hrun : Op.assignItem isDict container key op value h = (.ok (), h')) :
    LawfulUpdate h h' container key op value := by
  have houtcome := assignItem_outcome isDict h container key op value
  rw [hrun] at houtcome
  cases houtcome with
  | updated hupdate => exact hupdate

theorem assignItem_atomic {isDict : Callee → Bool} {stop : Stop} {h' : Heap}
    (hrun : Op.assignItem isDict container key op value h = (.error stop, h')) : h.Kept h' := by
  have houtcome := assignItem_outcome isDict h container key op value
  rw [hrun] at houtcome
  cases houtcome with
  | refused _ hkept => exact hkept
  | unconverted _ hkept => exact hkept

/-! ### Which errors -/

theorem listIndex_iff (isDict : Callee → Bool) :
    (Op.assignItem isDict container key op value).FailsWith "E684" h ↔
      ∃ items i, h.value container = .list items ∧ (h.value key).toNumber = .ok i ∧
        ¬(-(items.length : Int) ≤ i ∧ i < items.length) ∧ Number.isLong i = false := by
  rw [assignItem_failsWith_iff isDict (by decide)]
  constructor
  · rintro ⟨c, hrefusal, hc⟩
    cases hrefusal with
    | outside hindexed hkey hrange hlong =>
        cases hindexed with
        | list hitems => exact ⟨_, _, hitems, hkey, hrange, hlong⟩
        | blob _ => exact absurd (Option.some.inj hc) (by decide)
    | _ => exact absurd (Option.some.inj hc) (by decide)
  · rintro ⟨items, i, hitems, hkey, hrange, hlong⟩
    exact ⟨_, .outside (.list hitems) hkey hrange hlong, rfl⟩

theorem blobIndex_iff (isDict : Callee → Bool) :
    (Op.assignItem isDict container key op value).FailsWith "E979" h ↔
      ∃ bytes i, h.value container = .blob bytes ∧ (h.value key).toNumber = .ok i ∧
        ¬(-(bytes.length : Int) ≤ i ∧ i < bytes.length) ∧ Number.isLong i = false := by
  rw [assignItem_failsWith_iff isDict (by decide)]
  constructor
  · rintro ⟨c, hrefusal, hc⟩
    cases hrefusal with
    | outside hindexed hkey hrange hlong =>
        cases hindexed with
        | list _ => exact absurd (Option.some.inj hc) (by decide)
        | blob hbytes => exact ⟨_, _, hbytes, hkey, hrange, hlong⟩
    | _ => exact absurd (Option.some.inj hc) (by decide)
  · rintro ⟨bytes, i, hbytes, hkey, hrange, hlong⟩
    exact ⟨_, .outside (.blob hbytes) hkey hrange hlong, rfl⟩

theorem missingKey_iff (isDict : Callee → Bool) :
    (Op.assignItem isDict container key op value).FailsWith "E716" h ↔
      ∃ t name, h.value container = .dict t ∧ (h.value key).toText = .ok name ∧
        t.get? name = none ∧ op ≠ .set := by
  rw [assignItem_failsWith_iff isDict (by decide)]
  constructor
  · rintro ⟨c, hrefusal, hc⟩
    cases hrefusal with
    | noSuchKey ht hkey hget hop => exact ⟨_, _, ht, hkey, hget, hop⟩
    | outside hindexed _ _ _ => cases hindexed <;> exact absurd (Option.some.inj hc) (by decide)
    | _ => exact absurd (Option.some.inj hc) (by decide)
  · rintro ⟨t, name, ht, hkey, hget, hop⟩
    exact ⟨_, .noSuchKey ht hkey hget hop, rfl⟩

theorem locked_iff (isDict : Callee → Bool) :
    (Op.assignItem isDict container key op value).FailsWith "E741" h ↔
      (∃ current, h.ItemAt container key current ∧ h.isLocked current = true ∧
        h.Combinable op current value) ∨
      ∃ t name, h.value container = .dict t ∧ (h.value key).toText = .ok name ∧
        t.get? name = none ∧ op = .set ∧ h.isLocked container = true := by
  rw [assignItem_failsWith_iff isDict (by decide)]
  constructor
  · rintro ⟨c, hrefusal, hc⟩
    cases hrefusal with
    | lockedDict ht hkey hget hop hlocked => exact .inr ⟨_, _, ht, hkey, hget, hop, hlocked⟩
    | lockedEntry ht hkey hget hlocked hcombinable =>
        exact .inl ⟨_, .entry _ _ ht hkey hget, hlocked, hcombinable⟩
    | lockedItem hitems hkey hi hcurrent hlocked hcombinable =>
        have hp := position?_eq_some_iff.mpr ⟨(List.getElem?_eq_some_iff.mp hcurrent).1, hi⟩
        exact .inl ⟨_, .item _ _ _ hitems hkey hp hcurrent, hlocked, hcombinable⟩
    | outside hindexed _ _ _ => cases hindexed <;> exact absurd (Option.some.inj hc) (by decide)
    | _ => exact absurd (Option.some.inj hc) (by decide)
  · rintro (⟨current, hitem, hlocked, hcombinable⟩ | ⟨t, name, ht, hkey, hget, hop, hlocked⟩)
    · cases hitem with
      | entry t name ht hkey hget =>
          exact ⟨_, .lockedEntry ht hkey hget hlocked hcombinable, rfl⟩
      | item items i p hitems hkey hp hcurrent =>
          have hi := (position?_eq_some_iff.mp hp).2
          exact ⟨_, .lockedItem hitems hkey hi hcurrent hlocked hcombinable, rfl⟩
    · exact ⟨_, .lockedDict ht hkey hget hop hlocked, rfl⟩

theorem notIndexable_iff (isDict : Callee → Bool) :
    (Op.assignItem isDict container key op value).FailsWith "E689" h ↔
      (∀ t, h.value container ≠ .dict t) ∧ (∀ items, h.value container ≠ .list items) ∧
        ∀ bytes, h.value container ≠ .blob bytes := by
  rw [assignItem_failsWith_iff isDict (by decide)]
  constructor
  · rintro ⟨c, hrefusal, hc⟩
    cases hrefusal with
    | notIndexable hdict hlist hblob => exact ⟨hdict, hlist, hblob⟩
    | outside hindexed _ _ _ => cases hindexed <;> exact absurd (Option.some.inj hc) (by decide)
    | _ => exact absurd (Option.some.inj hc) (by decide)
  · rintro ⟨hdict, hlist, hblob⟩
    exact ⟨_, .notIndexable hdict hlist hblob, rfl⟩

/-- What the assignment of an item has to do, and when it fails with which error. -/
structure LawfulAssignment (isDict : Callee → Bool) (h : Heap) (container key : Ref) (op : LetOp)
    (value : Ref) : Prop where
  /-- An assignment that fails has changed nothing. -/
  atomic : ∀ stop h', Op.assignItem isDict container key op value h = (.error stop, h') → h.Kept h'
  updates : ∀ h', Op.assignItem isDict container key op value h = (.ok (), h') →
    LawfulUpdate h h' container key op value
  frame : ∀ h' r, Op.assignItem isDict container key op value h = (.ok (), h') →
    r.index < h.size → r ≠ container → (h.ItemAt container key r → ¬h.Extends op r value) →
      h'.cell r = h.cell r
  succeeds : (∃ h', Op.assignItem isDict container key op value h = (.ok (), h')) ↔
    h.Assignable container key op value
  listIndex : (Op.assignItem isDict container key op value).FailsWith "E684" h ↔
    ∃ items i, h.value container = .list items ∧ (h.value key).toNumber = .ok i ∧
      ¬(-(items.length : Int) ≤ i ∧ i < items.length) ∧ Number.isLong i = false
  blobIndex : (Op.assignItem isDict container key op value).FailsWith "E979" h ↔
    ∃ bytes i, h.value container = .blob bytes ∧ (h.value key).toNumber = .ok i ∧
      ¬(-(bytes.length : Int) ≤ i ∧ i < bytes.length) ∧ Number.isLong i = false
  /-- The text of an index error is not written with too many digits. -/
  unwritable : ∀ length cause i, h.Indexed container length cause →
    (h.value key).toNumber = .ok i → ¬(-(length : Int) ≤ i ∧ i < length) →
      Number.isLong i = true →
        Op.assignItem isDict container key op value h = (.error (.fault (.tooManyDigits none)), h)
  missingKey : (Op.assignItem isDict container key op value).FailsWith "E716" h ↔
    ∃ t name, h.value container = .dict t ∧ (h.value key).toText = .ok name ∧
      t.get? name = none ∧ op ≠ .set
  locked : (Op.assignItem isDict container key op value).FailsWith "E741" h ↔
    (∃ current, h.ItemAt container key current ∧ h.isLocked current = true ∧
      h.Combinable op current value) ∨
    ∃ t name, h.value container = .dict t ∧ (h.value key).toText = .ok name ∧
      t.get? name = none ∧ op = .set ∧ h.isLocked container = true
  notIndexable : (Op.assignItem isDict container key op value).FailsWith "E689" h ↔
    (∀ t, h.value container ≠ .dict t) ∧ (∀ items, h.value container ≠ .list items) ∧
      ∀ bytes, h.value container ≠ .blob bytes

/-- Assigning an item is lawful for every container, key, operator and value. -/
theorem assignItem_lawful (isDict : Callee → Bool) (h : Heap) (container key : Ref) (op : LetOp)
    (value : Ref) : LawfulAssignment isDict h container key op value where
  atomic _ _ hrun := assignItem_atomic hrun
  updates _ hrun := assignItem_updates hrun
  frame _ _ hrun hr hne hno := (assignItem_updates hrun).frame hr hne hno
  succeeds := by
    refine ⟨?_, fun hassignable => hassignable.succeeds isDict⟩
    rintro ⟨h', hrun⟩
    exact (assignItem_updates hrun).assignable
  listIndex := listIndex_iff isDict
  blobIndex := blobIndex_iff isDict
  unwritable length cause i hindexed hkey hrange hlong := by
    rw [assignItem_outside isDict hindexed hkey hrange, Op.bind_of_error (write_long hlong h)]
  missingKey := missingKey_iff isDict
  locked := locked_iff isDict
  notIndexable := notIndexable_iff isDict

end

/-- An empty List, and a Number that has too many digits to be written. -/
def emptyAndLong : Heap where
  cells := #[{ value := .list [] }, { value := .number (Nat.pow 10 Number.maxDigits : Nat) }]

/-- An index outside the List is no list index error if it is too long for its text: the assignment
ends in a fault. -/
theorem longIndex_faults :
    (∃ items i, emptyAndLong.value ⟨0⟩ = .list items ∧
      (emptyAndLong.value ⟨1⟩).toNumber = .ok i ∧
      ¬(-(items.length : Int) ≤ i ∧ i < items.length)) ∧
    (Op.assignItem (fun _ => false) ⟨0⟩ ⟨1⟩ .set ⟨1⟩ emptyAndLong).1 =
      .error (.fault (.tooManyDigits none)) ∧
    ¬(Op.assignItem (fun _ => false) ⟨0⟩ ⟨1⟩ .set ⟨1⟩).FailsWith "E684" emptyAndLong := by
  have hitems : emptyAndLong.value ⟨0⟩ = .list [] := rfl
  have hkey : (emptyAndLong.value ⟨1⟩).toNumber =
      .ok ((Nat.pow 10 Number.maxDigits : Nat) : Int) := rfl
  have hlong : Number.isLong ((Nat.pow 10 Number.maxDigits : Nat) : Int) = true := by
    rw [Number.isLong, Int.natAbs_natCast]
    exact decide_eq_true (Nat.le_refl _)
  have hnonneg : (0 : Int) ≤ (Nat.pow 10 Number.maxDigits : Nat) := Int.natCast_nonneg _
  generalize ((Nat.pow 10 Number.maxDigits : Nat) : Int) = i at hkey hlong hnonneg
  have hrange : ¬(-(([] : List Ref).length : Int) ≤ i ∧ i < ([] : List Ref).length) := by
    rw [List.length_nil]
    omega
  have hrun : Op.assignItem (fun _ => false) ⟨0⟩ ⟨1⟩ .set ⟨1⟩ emptyAndLong =
      (.error (.fault (.tooManyDigits none)), emptyAndLong) := by
    rw [assignItem_outside _ (.list hitems) hkey hrange, Op.bind_of_error (write_long hlong _)]
  refine ⟨⟨[], i, hitems, hkey, hrange⟩, by rw [hrun], ?_⟩
  rintro ⟨c, h', hfails, -⟩
  rw [hrun] at hfails
  cases hfails

end Vimscript
