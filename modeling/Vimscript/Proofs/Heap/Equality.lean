import Vimscript.Proofs.Heap.Agreement
import Vimscript.Proofs.Heap.CopyLevel

/-!
# Equality of values is an equivalence

Two values are compared part by part, with the number of objects as fuel and
a short cut for a container that is compared with itself. On a value that is
no part of itself neither is noticed: the fuel lasts (`equal_eq`), and what
the short cut answers is what the comparison would have found
(`Comparable.equal_self`). What is left is one step that says when two
values are equal, given which of their parts are (`Value.Agree`).

All laws come from this step by one induction (`equal_of_simulation`): if
two values that are related agree as soon as their parts are related, then
related values are equal. Symmetry, transitivity, the order of the entries,
the case of letters and copies differ in the relation only.
-/

namespace Vimscript

/-! ## The whole comparison -/

namespace Heap

variable {h h' : Heap} {ignoreCase : Bool} {a b c v r s : Ref}

theorem equalWithin_succ (h : Heap) (ignoreCase : Bool) (fuel : Nat) (a b : Ref) :
    h.equalWithin ignoreCase (fuel + 1) a b
      = (h.value a).equalBy ignoreCase (a == b) (h.equalWithin ignoreCase fuel) (h.value b) := rfl

/-- The number of steps does not matter once it is above the number of objects. -/
theorem equalWithin_add (ha : h.Unknotted a) {fuel : Nat} (hfuel : h.size < fuel) (more : Nat) :
    h.equalWithin ignoreCase (fuel + more) a b = h.equalWithin ignoreCase fuel a b := by
  refine ha.descend (motive := fun fuel r => ∀ b,
    h.equalWithin ignoreCase (fuel + more) r b = h.equalWithin ignoreCase fuel r b) ?_ hfuel b
  intro fuel r _ hparts b
  rw [Nat.add_right_comm, equalWithin_succ, equalWithin_succ]
  exact Value.equalBy_congr fun x hx y _ => hparts x hx y

/-- Equality of a value that is no part of itself, step by step. -/
theorem equal_eq (ha : h.Unknotted a) (b : Ref) :
    h.equal ignoreCase a b
      = (h.value a).equalBy ignoreCase (a == b) (h.equal ignoreCase) (h.value b) :=
  (equalWithin_add ha (Nat.lt_succ_self h.size) 1).symm

/-- A relation under which related values agree is contained in equality. -/
theorem equal_of_simulation (ha : h.Unknotted a) {R : Ref → Ref → Prop}
    (hR : ∀ x y, h.Spans a x → R x y → (h.value x).Agree ignoreCase R (h.value y))
    (hab : R a b) : h.equal ignoreCase a b = .ok true := by
  refine ha.induct (motive := fun x => ∀ y, R x y → h.equal ignoreCase x y = .ok true) ?_ b hab
  intro x hx ih y hxy
  rw [equal_eq (ha.spanned hx)]
  exact Value.equalBy_of_agree ((hR x y hx hxy).imp fun s hs t _ hst => ih s hs t hst)

/-- Two values whose objects are the same in another heap are as equal there. -/
theorem equalWithin_congr (fuel : Nat) {a b : Ref}
    (ha : ∀ r, h.Spans a r → h'.value r = h.value r)
    (hb : ∀ r, h.Spans b r → h'.value r = h.value r) :
    h'.equalWithin ignoreCase fuel a b = h.equalWithin ignoreCase fuel a b := by
  induction fuel generalizing a b with
  | zero => rfl
  | succ fuel ih =>
      rw [equalWithin_succ, equalWithin_succ, ha a .refl, hb b .refl]
      exact Value.equalBy_congr fun x hx y hy =>
        ih (fun r hr => ha r (.head hx hr)) (fun r hr => hb r (.head hy hr))

theorem equal_kept (ha : h.Unknotted a) (hkept : h.Kept h')
    (hbound : ∀ r, h.Spans a r ∨ h.Spans b r → r.index < h.size) :
    h'.equal ignoreCase a b = h.equal ignoreCase a b := by
  obtain ⟨more, hmore⟩ := Nat.exists_eq_add_of_le hkept.size
  calc h'.equal ignoreCase a b
      = h.equalWithin ignoreCase (h.size + 1 + more) a b := by
        rw [equal, hmore, Nat.add_right_comm]
        exact equalWithin_congr _ (fun r hr => hkept.value (hbound r (.inl hr)))
          (fun r hr => hkept.value (hbound r (.inr hr)))
    _ = h.equal ignoreCase a b := equalWithin_add ha (Nat.lt_succ_self h.size) more

/-- There is an answer unless a Number out of the range of doubles meets a Float. -/
theorem equal_ok_of_numbers (ha : h.Unknotted a)
    (hnumber : ∀ x y n z, h.Spans a x → h.Spans b y →
      (h.value x = .number n ∧ h.value y = .float z) ∨
        (h.value x = .float z ∧ h.value y = .number n) → ∃ w, numberToFloat n = .ok w) :
    ∃ e, h.equal ignoreCase a b = .ok e := by
  refine ha.induct (motive := fun x => ∀ y, h.Spans b y →
    ∃ e, h.equal ignoreCase x y = .ok e) ?_ b .refl
  intro x hx ih y hy
  rw [equal_eq (ha.spanned hx)]
  exact Value.equalBy_ok (fun n z hxy => hnumber x y n z hx hy hxy) fun s hs t ht =>
    ih s hs t (hy.tail ht)

/-- A value that can be compared with others like it: made of objects of the heap, no object part of
itself, without Floats, and with each key once in a Dictionary. -/
structure Comparable (h : Heap) (v : Ref) : Prop where
  unknotted : h.Unknotted v
  bound : ∀ r, h.Spans v r → r.index < h.size
  notFloat : ∀ r, h.Spans v r → (h.value r).isFloat = false
  distinct : ∀ r t, h.Spans v r → h.value r = .dict t → t.keys.Nodup

theorem Comparable.spanned (hv : h.Comparable v) (hr : h.Spans v r) : h.Comparable r where
  unknotted := hv.unknotted.spanned hr
  bound s hs := hv.bound s (hr.trans hs)
  notFloat s hs := hv.notFloat s (hr.trans hs)
  distinct s t hs := hv.distinct s t (hr.trans hs)

/-- Where every object has only later ones as its parts, no object is part of itself. -/
theorem comparable_of_forward
    (hforward : ∀ i < h.size, ∀ s ∈ h.parts ⟨i⟩, i < s.index ∧ s.index < h.size)
    (hplain : ∀ i < h.size, (h.value ⟨i⟩).isFloat = false ∧ (h.table ⟨i⟩).keys.Nodup)
    (hv : v.index < h.size) : h.Comparable v := by
  have hbound : ∀ r, h.Spans v r → r.index < h.size := by
    intro r hr
    induction hr with
    | refl => exact hv
    | tail _ hs ih => exact (hforward _ ih _ hs).2
  constructor
  · refine acyclic_opened.mp (acyclic_of_forward (fun i hi s hs => ?_) v)
    rw [children_opened] at hs
    rw [size, opened, Array.size_map] at hi
    exact (hforward i hi s hs).1
  · exact hbound
  · exact fun r hr => (hplain r.index (hbound r hr)).1
  · intro r t hr ht
    have hkeys := (hplain r.index (hbound r hr)).2
    rwa [table, ht] at hkeys

theorem Comparable.part (hv : h.Comparable v) (hs : s ∈ h.parts v) : h.Comparable s :=
  hv.spanned (.single hs)

theorem Comparable.equal_ok (ha : h.Comparable a) (hb : h.Comparable b) :
    ∃ e, h.equal ignoreCase a b = .ok e := by
  refine equal_ok_of_numbers ha.unknotted fun x y n z hx hy hxy => ?_
  obtain ⟨-, hz⟩ | ⟨hz, -⟩ := hxy
  · have hfloat := hb.notFloat y hy
    rw [hz] at hfloat
    cases hfloat
  · have hfloat := ha.notFloat x hx
    rw [hz] at hfloat
    cases hfloat

theorem Comparable.equal_self (hv : h.Comparable v) : h.equal ignoreCase v v = .ok true := by
  refine equal_of_simulation hv.unknotted (R := fun x y => x = y ∧ h.Spans v x) ?_ ⟨rfl, .refl⟩
  rintro x _ hx ⟨rfl, -⟩
  exact .refl (hv.notFloat x hx) (fun t ht => hv.distinct x t hx ht) fun s hs =>
    ⟨rfl, hx.tail hs⟩

/-- Two values that can be compared are equal. -/
structure Equals (h : Heap) (ignoreCase : Bool) (a b : Ref) : Prop where
  left : h.Comparable a
  right : h.Comparable b
  equal : h.equal ignoreCase a b = .ok true

/-- Equal values agree: the short cut for one and the same container makes no difference. -/
theorem Equals.agree (hab : h.Equals ignoreCase a b) :
    (h.value a).Agree ignoreCase (h.Equals ignoreCase) (h.value b) := by
  have hfloat := hab.left.notFloat a .refl
  have hkeys := fun t => hab.left.distinct a t .refl
  by_cases hsame : a = b
  · subst hsame
    exact .refl hfloat hkeys fun s hs =>
      ⟨hab.left.part hs, hab.left.part hs, (hab.left.part hs).equal_self⟩
  · have hequal := hab.equal
    rw [equal_eq hab.left.unknotted, beq_false_of_ne hsame] at hequal
    refine (Value.agree_of_equalBy hfloat (hab.right.notFloat b .refl) hkeys hequal).imp ?_
    exact fun x hx y hy hxy => ⟨hab.left.part hx, hab.right.part hy, hxy⟩

theorem Equals.symm (hab : h.Equals ignoreCase a b) : h.Equals ignoreCase b a where
  left := hab.right
  right := hab.left
  equal := equal_of_simulation hab.right.unknotted (R := fun x y => h.Equals ignoreCase y x)
    (fun _ _ _ hxy => hxy.agree.symm) hab

theorem Equals.trans (hab : h.Equals ignoreCase a b) (hbc : h.Equals ignoreCase b c) :
    h.Equals ignoreCase a c where
  left := hab.left
  right := hbc.right
  equal := by
    refine equal_of_simulation hab.left.unknotted
      (R := fun x z => ∃ y, h.Equals ignoreCase x y ∧ h.Equals ignoreCase y z) ?_ ⟨b, hab, hbc⟩
    rintro x z - ⟨y, hxy, hyz⟩
    exact hxy.agree.trans hyz.agree

theorem Equals.ignoringCase (hab : h.Equals false a b) : h.Equals true a b where
  left := hab.left
  right := hab.right
  equal := equal_of_simulation hab.left.unknotted (R := h.Equals false)
    (fun _ _ _ hxy => hxy.agree.ignoringCase) hab

theorem Comparable.equal_comm (ha : h.Comparable a) (hb : h.Comparable b) :
    h.equal ignoreCase a b = h.equal ignoreCase b a := by
  obtain ⟨e, he⟩ : ∃ e, h.equal ignoreCase a b = .ok e := ha.equal_ok hb
  obtain ⟨e', he'⟩ : ∃ e, h.equal ignoreCase b a = .ok e := hb.equal_ok ha
  have hsame : e = true ↔ e' = true := by
    constructor
    · rintro rfl
      exact Except.ok.inj (he'.symm.trans (Equals.symm ⟨ha, hb, he⟩).equal)
    · rintro rfl
      exact Except.ok.inj (he.symm.trans (Equals.symm ⟨hb, ha, he'⟩).equal)
  rw [he, he', Bool.eq_iff_iff.mpr hsame]

/-- A value that agrees all the way down with one that can be compared can be compared as well. -/
theorem Comparable.of_simulation (hv : h.Comparable v) (ignoreCase : Bool)
    {R : Ref → Ref → Prop} {v' : Ref}
    (hR : ∀ x y, h.Spans v x → R x y →
      y.index < h'.size ∧ (h.value x).Agree ignoreCase R (h'.value y))
    (hvv : R v v') : h'.Comparable v' := by
  have hback : ∀ y, h'.Spans v' y → ∃ x, h.Spans v x ∧ R x y := by
    intro y hy
    induction hy with
    | refl => exact ⟨v, .refl, hvv⟩
    | tail _ ht ih =>
        obtain ⟨x, hx, hxy⟩ := ih
        obtain ⟨s, hs, hst⟩ := (hR x _ hx hxy).2.exists_part ht
        exact ⟨s, hx.tail hs, hst⟩
  constructor
  · exact hv.unknotted.of_simulation (fun x y hx hxy t => (hR x y hx hxy).2.exists_part) hvv
  · intro y hy
    obtain ⟨x, hx, hxy⟩ := hback y hy
    exact (hR x y hx hxy).1
  · intro y hy
    obtain ⟨x, hx, hxy⟩ := hback y hy
    exact (hR x y hx hxy).2.notFloat
  · intro y t hy ht
    obtain ⟨x, hx, hxy⟩ := hback y hy
    exact (hR x y hx hxy).2.distinct ht

theorem Comparable.agree_self (hv : h.Comparable v) (hr : h.Spans v r) {R : Ref → Ref → Prop}
    (hR : ∀ s, h.Spans v s → R s s) : (h.value r).Agree ignoreCase R (h.value r) :=
  .refl (hv.notFloat r hr) (fun t => hv.distinct r t hr) fun s hs => hR s (hr.tail hs)

/-- New objects do not matter to the old ones. -/
theorem Comparable.kept (hv : h.Comparable v) (hkept : h.Kept h') : h'.Comparable v := by
  refine hv.of_simulation false (R := Eq) ?_ rfl
  rintro x _ hx rfl
  rw [hkept.value (hv.bound x hx)]
  exact ⟨Nat.lt_of_lt_of_le (hv.bound x hx) hkept.size, hv.agree_self hx fun _ _ => rfl⟩

end Heap

/-! ## The order of entries -/

/-- The same value, up to the order in which a Dictionary has its entries. -/
inductive Value.Rearranged : Value → Value → Prop
  | refl (v : Value) : Rearranged v v
  | dict {s t : Table} : s.entries.Perm t.entries → Rearranged (.dict s) (.dict t)

theorem Value.Rearranged.symm {a b : Value} (h : a.Rearranged b) : b.Rearranged a := by
  cases h with
  | refl => exact .refl a
  | dict hst => exact .dict hst.symm

/-- The order of the entries does not matter to agreement. -/
theorem Value.Agree.rearranged {ignoreCase : Bool} {R : Ref → Ref → Prop} {a a' b b' : Value}
    (h : a.Agree ignoreCase R b) (ha : a.Rearranged a') (hb : b.Rearranged b') :
    a'.Agree ignoreCase R b' := by
  have hright : ∀ {a b b' : Value}, a.Agree ignoreCase R b → b.Rearranged b' →
      a.Agree ignoreCase R b' := by
    intro a b b' h hb
    cases hb with
    | refl => exact h
    | dict hst =>
        cases h with
        | dict hnodup hkeys hentries =>
            refine .dict hnodup (hkeys.trans (hst.map _)) fun k => ?_
            rw [← Table.get?_perm (hkeys.nodup_iff.mp hnodup) hst]
            exact hentries k
  have hleft := hright h hb
  cases ha with
  | refl => exact hleft
  | dict hst =>
      cases hleft with
      | dict hnodup hkeys hentries =>
          have hkeys' := hst.map (·.1)
          refine .dict (hkeys'.nodup_iff.mp hnodup) (hkeys'.symm.trans hkeys) fun k => ?_
          rw [← Table.get?_perm hnodup hst]
          exact hentries k

namespace Heap

/-- The same objects, up to the order in which Dictionaries have their entries. -/
structure Rearranged (h h' : Heap) : Prop where
  size : h'.size = h.size
  value (r : Ref) : (h.value r).Rearranged (h'.value r)

variable {h h' : Heap} {ignoreCase : Bool} {a b v : Ref}

theorem Rearranged.symm (hh : h.Rearranged h') : h'.Rearranged h :=
  ⟨hh.size.symm, fun r => (hh.value r).symm⟩

theorem Comparable.rearranged (hv : h.Comparable v) (hh : h.Rearranged h') :
    h'.Comparable v := by
  refine hv.of_simulation false (R := Eq) ?_ rfl
  rintro x _ hx rfl
  refine ⟨hh.size ▸ hv.bound x hx, ?_⟩
  exact (hv.agree_self hx fun _ _ => rfl).rearranged (.refl _) (hh.value x)

theorem Equals.rearranged (hab : h.Equals ignoreCase a b) (hh : h.Rearranged h') :
    h'.Equals ignoreCase a b where
  left := hab.left.rearranged hh
  right := hab.right.rearranged hh
  equal := equal_of_simulation (hab.left.rearranged hh).unknotted (R := h.Equals ignoreCase)
    (fun x y _ hxy => hxy.agree.rearranged (hh.value x) (hh.value y)) hab

theorem Comparable.equal_rearranged (ha : h.Comparable a) (hb : h.Comparable b)
    (hh : h.Rearranged h') : h'.equal ignoreCase a b = h.equal ignoreCase a b := by
  obtain ⟨e, he⟩ : ∃ e, h.equal ignoreCase a b = .ok e := ha.equal_ok hb
  have ha' := ha.rearranged hh
  have hb' := hb.rearranged hh
  obtain ⟨e', he'⟩ : ∃ e, h'.equal ignoreCase a b = .ok e := ha'.equal_ok hb'
  have hsame : e' = true ↔ e = true := by
    constructor
    · rintro rfl
      exact Except.ok.inj (he.symm.trans (Equals.rearranged ⟨ha', hb', he'⟩ hh.symm).equal)
    · rintro rfl
      exact Except.ok.inj (he'.symm.trans (Equals.rearranged ⟨ha, hb, he⟩ hh).equal)
  rw [he, he', Bool.eq_iff_iff.mpr hsame]

end Heap

/-! ## Copies -/

/-- A Dictionary with other values has them under the same keys. -/
theorem Table.get?_zip {R : Ref → Ref → Prop} {t : Table} {items : List Ref}
    (hitems : List.Forall₂ R t.values items) (k : String) :
    Option.Rel R (t.get? k) (Table.get? { entries := t.keys.zip items } k) := by
  obtain ⟨entries, _⟩ := t
  simp only [Table.values, Table.keys, Table.get?, Entries.names] at hitems ⊢
  induction entries generalizing items with
  | nil => exact .none
  | cons e rest ih =>
      cases hitems with
      | cons hfirst hrest =>
          by_cases hk : e.1 = k
          · simpa [Entries.find?, hk] using Option.Rel.some hfirst
          · simpa [Entries.find?, hk] using ih hrest

namespace Copying

variable {h : Heap} {v : Ref} {n : Nat} {c : Copying} {ignoreCase : Bool}

/-- What stands for an object of a value agrees with it, if what stands for its parts does. -/
theorem LevelStep.agree (hcopied : LevelStep h v n { heap := h } c) (hv : h.Comparable v)
    {x y : Ref} (hx : h.Spans v x) (hxy : c.Mirrored h x y) :
    (h.value x).Agree ignoreCase (fun s t => h.Spans v s ∧ c.Mirrored h s t)
      (c.heap.value y) := by
  have hin := hv.bound x hx
  have hself : (h.value x).Agree ignoreCase (fun s t => h.Spans v s ∧ c.Mirrored h s t)
      (h.value x) := hv.agree_self hx fun s hs => ⟨hs, .inl rfl⟩
  obtain rfl | ⟨-, -, items, hlength, hcell⟩ := hcopied.mirrors hxy
  · rwa [hcopied.kept.value hin]
  have hvalue : c.heap.value y = (h.value x).withItems items := congrArg Cell.value hcell
  have hmirrored := hcopied.children_mirrored hin hxy
  have hparts {s : Ref} (hs : s ∈ h.parts x) : h.Spans v s := hx.tail hs
  unfold Heap.parts at hparts
  rw [hvalue]
  cases hcase : h.value x with
  | number _ | float _ | string _ | funcref _ | blob _ =>
      rw [hcase] at hself
      exact hself
  | list xs =>
      rw [hcase] at hparts
      rw [hcase, Value.withItems] at hvalue
      simp only [Heap.children, hvalue, hcase] at hmirrored
      exact .list (forall₂_imp_of_mem hmirrored fun s hs _ _ hst => ⟨hparts hs, hst⟩)
  | dict t =>
      rw [hcase] at hparts
      rw [hcase, Value.withItems] at hvalue
      simp only [Heap.children, hcase] at hlength
      have hkeys : t.keys.length = items.length := by
        simpa [Table.keys, Table.values, Entries.names] using hlength.symm
      simp only [Heap.children, hvalue, hcase, Table.values_zip hkeys] at hmirrored
      refine .dict (hv.distinct x t hx hcase) ?_ fun k => ?_
      · rw [Table.keys_zip hkeys]
      · exact Table.get?_zip
          (forall₂_imp_of_mem hmirrored fun s hs _ _ hst => ⟨hparts hs, hst⟩) k

end Copying

namespace Heap

variable {h : Heap} {ignoreCase : Bool} {v : Ref}

theorem children_subset_parts (h : Heap) (r : Ref) : h.children r ⊆ h.parts r := by
  unfold children parts
  cases h.value r with
  | list _ | dict _ => exact List.Subset.refl _
  | number _ | float _ | string _ | funcref _ | blob _ => exact List.nil_subset _

theorem Reaches.spans {r : Ref} (hr : h.Reaches v r) : h.Spans v r :=
  Relation.ReflTransGen.mono (fun r _ hs => h.children_subset_parts r hs) _ _ hr

theorem Comparable.equals_copy (hv : h.Comparable v) (ignoreCase : Bool) (level : Int) :
    ∃ v' h', Op.copy level v h = (.ok v', h') ∧ h'.Equals ignoreCase v v' := by
  obtain ⟨hcopied, hstands⟩ := Copying.copyTo_copiesTo (fun r hr => hv.bound r hr.spans)
    level.toNat (.start h v) (Nat.zero_add _) { heap := h } (kept_extending.refl h)
  let c := (copyTo level.toNat v { heap := h }).2
  refine ⟨_, c.heap, rfl, hv.kept hcopied.kept, ?_, ?_⟩
  · refine hv.of_simulation ignoreCase
      (R := fun x y => h.Spans v x ∧ c.Mirrored h x y) (fun x y hx hxy => ⟨?_, ?_⟩)
      ⟨.refl, hstands.mirrored⟩
    · obtain rfl | ⟨-, hbound, -⟩ := hcopied.mirrors hxy.2
      · exact Nat.lt_of_lt_of_le (hv.bound _ hx) hcopied.kept.size
      · exact hbound
    · exact hcopied.agree hv hx hxy.2
  · refine equal_of_simulation (hv.kept hcopied.kept).unknotted
      (R := fun x y => h.Spans v x ∧ c.Mirrored h x y) (fun x y _ hxy => ?_)
      ⟨.refl, hstands.mirrored⟩
    rw [hcopied.kept.value (hv.bound x hxy.1)]
    exact hcopied.agree hv hxy.1 hxy.2

end Heap

/-- Equality of values without cycles and Floats always has an answer. It is an equivalence, does
not depend on the order of the entries of any Dictionary, gets only coarser when case is ignored,
and holds between a value and its copies to any level. -/
theorem equality_lawful (h : Heap) (ignoreCase : Bool) {a b c : Ref} (ha : h.Comparable a)
    (hb : h.Comparable b) (hc : h.Comparable c) :
    (∃ e, h.equal ignoreCase a b = .ok e) ∧
    h.equal ignoreCase a a = .ok true ∧
    h.equal ignoreCase a b = h.equal ignoreCase b a ∧
    (h.equal ignoreCase a b = .ok true → h.equal ignoreCase b c = .ok true →
      h.equal ignoreCase a c = .ok true) ∧
    (∀ h', h.Rearranged h' → h'.equal ignoreCase a b = h.equal ignoreCase a b) ∧
    (h.equal false a b = .ok true → h.equal true a b = .ok true) ∧
    (∀ level, ∃ a' h', Op.copy level a h = (.ok a', h') ∧
      h'.equal ignoreCase a a' = .ok true ∧ h'.equal ignoreCase a' a = .ok true) := by
  refine ⟨ha.equal_ok hb, ha.equal_self, ha.equal_comm hb, ?_, ?_, ?_, ?_⟩
  · exact fun hab hbc => (Heap.Equals.trans ⟨ha, hb, hab⟩ ⟨hb, hc, hbc⟩).equal
  · exact fun h' hh => ha.equal_rearranged hb hh
  · exact fun hab => (Heap.Equals.ignoringCase ⟨ha, hb, hab⟩).equal
  · intro level
    obtain ⟨a', h', hcopy, hequals⟩ := ha.equals_copy ignoreCase level
    exact ⟨a', h', hcopy, hequals.equal, hequals.symm.equal⟩

/-- Two Lists that hold the same up to the case of letters and the order of entries, and Funcrefs
with captured arguments of which the same is true. -/
def twins : Heap where
  cells := #[{ value := .list [⟨2⟩, ⟨4⟩] }, { value := .list [⟨3⟩, ⟨5⟩] },
    { value := .dict { entries := [("k", ⟨8⟩), ("l", ⟨10⟩)] } },
    { value := .dict { entries := [("l", ⟨10⟩), ("k", ⟨9⟩)] } },
    { value := .funcref { callee := .declared 0 "F", arguments := ⟨6⟩ } },
    { value := .funcref { callee := .declared 0 "F", arguments := ⟨7⟩ } },
    { value := .list [⟨8⟩] }, { value := .list [⟨9⟩] }, { value := .string "A" },
    { value := .string "a" }, { value := .number 1 }]

theorem twins_comparable {v : Ref} (hv : v.index < 11) : twins.Comparable v :=
  Heap.comparable_of_forward (by decide) (by decide) hv

/-- The two Lists are equal in both directions when case is ignored, in whatever order their
Dictionaries have their entries, and each is equal to its copies. -/
theorem twins_equal :
    twins.Comparable ⟨0⟩ ∧ twins.Comparable ⟨1⟩ ∧ twins.equal false ⟨0⟩ ⟨1⟩ = .ok false ∧
    twins.equal true ⟨1⟩ ⟨0⟩ = .ok true ∧
    (∀ h', twins.Rearranged h' → h'.equal true ⟨0⟩ ⟨1⟩ = .ok true) ∧
    ∀ level, ∃ a' h', Op.copy level ⟨0⟩ twins = (.ok a', h') ∧ h'.equal true ⟨0⟩ a' = .ok true := by
  have ha := twins_comparable (v := ⟨0⟩) (by decide)
  have hb := twins_comparable (v := ⟨1⟩) (by decide)
  have hfound : (twins.equal true ⟨0⟩ ⟨1⟩).toOption = some true := by decide +kernel
  have hequal : twins.equal true ⟨0⟩ ⟨1⟩ = .ok true := by
    rcases hresult : twins.equal true ⟨0⟩ ⟨1⟩ with stop | e <;> rw [hresult] at hfound
    · cases hfound
    · exact congrArg Except.ok (Option.some.inj hfound)
  obtain ⟨-, -, hcomm, -, horder, -, hcopies⟩ := equality_lawful twins true ha hb ha
  refine ⟨ha, hb, by rfl, hcomm.symm.trans hequal, ?_, ?_⟩
  · exact fun h' hh => (horder h' hh).trans hequal
  · intro level
    obtain ⟨a', h', hcopy, hleft, -⟩ := hcopies level
    exact ⟨a', h', hcopy, hleft⟩

end Vimscript
