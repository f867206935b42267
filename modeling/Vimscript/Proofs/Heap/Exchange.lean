import Mathlib.Data.List.Forall2
import Vimscript.Proofs.Heap.Conversion

/-!
# Values and plain data

A host hands data to scripts and takes data from them. Data that holds no
foreign object and no key but texts becomes a value, and the value becomes
the same data again, except that nothing, true and false have turned into
the numbers that stand for them. Other data is refused. The other way
round, an acyclic value without Funcrefs becomes data, and the value of that
data is a copy: it looks the same and consists of new objects.

Both directions meet at `Heap.Shows`: an object looks like some data.
Making the value of data yields an object that shows the data
(`Op.ofData_makes`), and converting an acyclic object gives the data it
shows, since this is its unfolding (`Acyclic.toData_eq`). What is made is
acyclic because every object is made after those it holds; `Heap.NewFrom`
keeps track of that, and of the new objects being new.
-/

namespace Vimscript

/-! ## Parts of data -/

/-- Data occurs in other data: it is that data, or it occurs in an item or in the value of an
entry. -/
inductive Data.Occurs (x : Data) : Data → Prop
  | here : Occurs x x
  | item {items : List Data} {d : Data} : d ∈ items → Occurs x d → Occurs x (.list items)
  | entry {entries : List (Key × Data)} {k : Key} {d : Data} :
      (k, d) ∈ entries → Occurs x d → Occurs x (.map entries)

/-- Whether a key is a text. -/
def Key.isText : Key → Bool
  | .text _ => true
  | _ => false

namespace Data

/-- Data that scripts can hold: no part of it is a foreign object, and all keys are texts. -/
structure Exchangeable (d : Data) : Prop where
  supported : ¬ foreign.Occurs d
  keys {entries : List (Key × Data)} : (map entries).Occurs d → ∀ e ∈ entries, e.1.isText = true

/-- A map has each key once. -/
def Proper (d : Data) : Prop :=
  ∀ entries, (map entries).Occurs d → entries.Pairwise fun a b => a.1.same b.1 = false

mutual

/-- The data as scripts see it: nothing is zero, and truth values are one and zero. -/
def plain : Data → Data
  | .null => .int 0
  | .bool b => .int (if b then 1 else 0)
  | .int n => .int n
  | .float x => .float x
  | .text s => .text s
  | .bytes b => .bytes b
  | .list items => .list (plainAll items)
  | .map entries => .map (plainEntries entries)
  | .foreign => .foreign

/-- Some items as scripts see them. -/
def plainAll : List Data → List Data
  | [] => []
  | d :: rest => plain d :: plainAll rest

/-- Some entries as scripts see them. -/
def plainEntries : List (Key × Data) → List (Key × Data)
  | [] => []
  | (k, d) :: rest => (k, plain d) :: plainEntries rest

end

theorem exchangeable_list {items : List Data} :
    (list items).Exchangeable ↔ ∀ d ∈ items, d.Exchangeable := by
  constructor
  · intro h d hd
    exact ⟨fun hx => h.supported (.item hd hx), fun hx => h.keys (.item hd hx)⟩
  · intro h
    constructor
    · rintro (_ | ⟨hd, hx⟩)
      exact (h _ hd).supported hx
    · rintro entries (_ | ⟨hd, hx⟩)
      exact (h _ hd).keys hx

theorem exchangeable_map {entries : List (Key × Data)} :
    (map entries).Exchangeable ↔ ∀ e ∈ entries, e.1.isText = true ∧ e.2.Exchangeable := by
  constructor
  · rintro h ⟨k, d⟩ he
    exact ⟨h.keys .here _ he, fun hx => h.supported (.entry he hx), fun hx => h.keys (.entry he hx)⟩
  · intro h
    constructor
    · rintro (_ | _ | ⟨he, hx⟩)
      exact (h _ he).2.supported hx
    · rintro entries (_ | _ | ⟨he, hx⟩)
      · exact fun e he => (h e he).1
      · exact (h _ he).2.keys hx

theorem exchangeable_of_leaf {d : Data} (hlist : ∀ items, d ≠ list items)
    (hmap : ∀ entries, d ≠ map entries) (hforeign : d ≠ foreign) : d.Exchangeable := by
  constructor
  · rintro (_ | _ | _)
    · exact hforeign rfl
    · exact hlist _ rfl
    · exact hmap _ rfl
  · rintro entries (_ | _ | _)
    · exact absurd rfl (hmap _)
    · exact absurd rfl (hlist _)
    · exact absurd rfl (hmap _)

theorem not_exchangeable_foreign : ¬ foreign.Exchangeable := fun h => h.supported .here

theorem Proper.item {items : List Data} (h : (list items).Proper) {d : Data} (hd : d ∈ items) :
    d.Proper := fun entries hx => h entries (.item hd hx)

theorem Proper.entry {entries : List (Key × Data)} (h : (map entries).Proper) {e : Key × Data}
    (he : e ∈ entries) : e.2.Proper := fun inner hx => h inner (.entry (k := e.1) he hx)

end Data

/-! ## Which data becomes a value -/

namespace Op

/-- An operation that depends on a condition: it gives a result where the condition holds, and
otherwise ends in a fault about a type. -/
def GivesIff {α : Type} (p : Prop) (out : Except Stop α × Heap) : Prop :=
  (p ∧ ∃ a h', out = (.ok a, h')) ∨ (¬ p ∧ ∃ f h', out = (.error (.fault f), h') ∧ f.kind = .type)

theorem GivesIff.iff {α : Type} {p q : Prop} {out : Except Stop α × Heap} (h : GivesIff p out)
    (hpq : p ↔ q) : GivesIff q out := by
  rwa [GivesIff, ← hpq]

theorem GivesIff.bind {α β : Type} {p q : Prop} {op : Op α} {f : α → Op β} {h : Heap}
    (hop : GivesIff p (op h)) (hf : ∀ a h', GivesIff q (f a h')) :
    GivesIff (p ∧ q) ((op >>= f) h) := by
  rcases hop with ⟨hp, a, h', hop⟩ | ⟨hp, f, h', hop, hf⟩
  · rw [bind_of_ok hop]
    exact (hf a h').iff ⟨fun hq => ⟨hp, hq⟩, And.right⟩
  · rw [bind_of_error hop]
    exact .inr ⟨fun hpq => hp hpq.1, f, h', rfl, hf⟩

theorem GivesIff.pure {α : Type} {p : Prop} (hp : p) (a : α) (h : Heap) :
    GivesIff p ((Pure.pure a : Op α) h) := .inl ⟨hp, a, h, rfl⟩

theorem GivesIff.alloc {p : Prop} (hp : p) (v : Value) (h : Heap) : GivesIff p (Op.alloc v h) :=
  .inl ⟨hp, _, _, rfl⟩

mutual

/-- Exactly the data that scripts can hold becomes a value; all other data is refused. -/
theorem ofData_gives : ∀ (d : Data) (h : Heap), GivesIff d.Exchangeable (ofData d h)
  | .null, h | .bool _, h | .int _, h | .float _, h | .text _, h | .bytes _, h => by
      rw [ofData]
      refine .alloc ?_ _ h
      exact Data.exchangeable_of_leaf nofun nofun nofun
  | .list items, h => by
      rw [ofData]
      refine ((ofItems_gives items h).bind fun rs h' => .alloc trivial _ h').iff ?_
      rw [and_true, Data.exchangeable_list]
  | .map entries, h => by
      rw [ofData]
      refine ((ofEntries_gives [] entries h).bind fun es h' => .alloc trivial _ h').iff ?_
      rw [and_true, Data.exchangeable_map]
  | .foreign, h => by
      rw [ofData]
      exact .inr ⟨Data.not_exchangeable_foreign, _, h, rfl, rfl⟩

theorem ofItems_gives : ∀ (items : List Data) (h : Heap),
    GivesIff (∀ d ∈ items, d.Exchangeable) (ofItems items h)
  | [], h => by rw [ofItems]; exact .pure (by simp) _ h
  | d :: rest, h => by
      rw [ofItems]
      refine ((ofData_gives d h).bind fun r h' =>
        (ofItems_gives rest h').bind fun rs h'' => .pure trivial _ h'').iff ?_
      rw [and_true, List.forall_mem_cons]

theorem ofEntries_gives : ∀ (made : Entries Ref) (entries : List (Key × Data)) (h : Heap),
    GivesIff (∀ e ∈ entries, e.1.isText = true ∧ e.2.Exchangeable) (ofEntries made entries h)
  | _, [], h => by rw [ofEntries]; exact .pure (by simp) _ h
  | made, (.text k, d) :: rest, h => by
      rw [ofEntries]
      refine ((ofData_gives d h).bind fun r h' =>
        ofEntries_gives (Entries.put k r made) rest h').iff ?_
      rw [List.forall_mem_cons]
      simp only [Key.isText, true_and]
  | made, (.null, _) :: _, h | made, (.bool _, _) :: _, h | made, (.int _, _) :: _, h
  | made, (.float _, _) :: _, h => by
      rw [ofEntries]
      · refine .inr ⟨fun hkeys => ?_, _, h, rfl, rfl⟩
        exact absurd (hkeys _ List.mem_cons_self).1 nofun
      · exact fun _ => nofun

end

end Op

/-! ## What an object looks like -/

namespace Heap

mutual

/-- An object looks like some data: the same content, and of its items or entries each looks like
the data in its place. -/
def Shows (h : Heap) : Ref → Data → Prop
  | r, .int n => h.value r = .number n
  | r, .float x => h.value r = .float x
  | r, .text s => h.value r = .string s
  | r, .bytes b => h.value r = .blob b
  | r, .list ds => ∃ items, h.value r = .list items ∧ h.ShowsAll items ds
  | r, .map es => ∃ t, h.value r = .dict t ∧ h.ShowsEntries t.entries es
  | _, .null | _, .bool _ | _, .foreign => False

def ShowsAll (h : Heap) : List Ref → List Data → Prop
  | [], [] => True
  | r :: items, d :: ds => h.Shows r d ∧ h.ShowsAll items ds
  | _, _ => False

def ShowsEntries (h : Heap) : Entries Ref → List (Key × Data) → Prop
  | [], [] => True
  | (k, r) :: entries, (k', d) :: es => k' = .text k ∧ h.Shows r d ∧ h.ShowsEntries entries es
  | _, _ => False

end

theorem ShowsAll.length_eq {h : Heap} : ∀ {items : List Ref} {ds : List Data},
    h.ShowsAll items ds → items.length = ds.length
  | [], [], _ => rfl
  | r :: items, d :: ds, hds => by
      rw [ShowsAll] at hds
      rw [List.length_cons, List.length_cons, hds.2.length_eq]
  | [], _ :: _, hds | _ :: _, [], hds => by
      rw [ShowsAll] at hds
      · exact hds.elim
      all_goals nofun

theorem ShowsEntries.length_eq {h : Heap} : ∀ {entries : Entries Ref} {es : List (Key × Data)},
    h.ShowsEntries entries es → entries.length = es.length
  | [], [], _ => rfl
  | (k, r) :: entries, (k', d) :: es, hes => by
      rw [ShowsEntries] at hes
      rw [List.length_cons, List.length_cons, hes.2.2.length_eq]
  | [], _ :: _, hes | _ :: _, [], hes => by
      rw [ShowsEntries] at hes
      · exact hes.elim
      all_goals nofun

/-- Objects of two heaps look the same: they are of one kind and hold the same, item by item, and
entry by entry under the same keys. -/
inductive Alike (h h' : Heap) : Ref → Ref → Prop
  | number {a b : Ref} {n : Int} : h.value a = .number n → h'.value b = .number n → Alike h h' a b
  | float {a b : Ref} {x : Float} : h.value a = .float x → h'.value b = .float x → Alike h h' a b
  | string {a b : Ref} {s : String} :
      h.value a = .string s → h'.value b = .string s → Alike h h' a b
  | blob {a b : Ref} {bytes : List UInt8} :
      h.value a = .blob bytes → h'.value b = .blob bytes → Alike h h' a b
  | list {a b : Ref} {xs ys : List Ref} : h.value a = .list xs → h'.value b = .list ys →
      List.Forall₂ (Alike h h') xs ys → Alike h h' a b
  | dict {a b : Ref} {t u : Table} : h.value a = .dict t → h'.value b = .dict u →
      t.keys = u.keys → List.Forall₂ (Alike h h') t.values u.values → Alike h h' a b

variable {h h' : Heap}

mutual

/-- Objects that look like the same data look the same. -/
theorem Shows.alike : ∀ {d : Data} {a b : Ref}, h.Shows a d → h'.Shows b d → h.Alike h' a b
  | .int _, _, _, ha, hb => .number ha hb
  | .float _, _, _, ha, hb => .float ha hb
  | .text _, _, _, ha, hb => .string ha hb
  | .bytes _, _, _, ha, hb => .blob ha hb
  | .list ds, _, _, ha, hb => by
      rw [Shows] at ha hb
      obtain ⟨xs, hxs, ha⟩ := ha
      obtain ⟨ys, hys, hb⟩ := hb
      exact .list hxs hys (ShowsAll.alike ha hb)
  | .map es, _, _, ha, hb => by
      rw [Shows] at ha hb
      obtain ⟨t, ht, ha⟩ := ha
      obtain ⟨u, hu, hb⟩ := hb
      obtain ⟨hkeys, hvalues⟩ := ShowsEntries.alike ha hb
      exact .dict ht hu hkeys hvalues
  | .null, _, _, ha, _ | .bool _, _, _, ha, _ | .foreign, _, _, ha, _ => by
      rw [Shows] at ha
      exact ha.elim

theorem ShowsAll.alike : ∀ {ds : List Data} {xs ys : List Ref},
    h.ShowsAll xs ds → h'.ShowsAll ys ds → List.Forall₂ (h.Alike h') xs ys
  | [], [], [], _, _ => .nil
  | d :: ds, x :: xs, y :: ys, hx, hy => by
      rw [ShowsAll] at hx hy
      exact .cons (Shows.alike hx.1 hy.1) (ShowsAll.alike hx.2 hy.2)
  | [], _ :: _, _, hx, _ | _ :: _, [], _, hx, _ => nomatch hx.length_eq
  | [], [], _ :: _, _, hy | _ :: _, _ :: _, [], _, hy => nomatch hy.length_eq

theorem ShowsEntries.alike : ∀ {es : List (Key × Data)} {xs ys : Entries Ref},
    h.ShowsEntries xs es → h'.ShowsEntries ys es →
      xs.map (·.1) = ys.map (·.1) ∧ List.Forall₂ (h.Alike h') (xs.map (·.2)) (ys.map (·.2))
  | [], [], [], _, _ => ⟨rfl, .nil⟩
  | (k, d) :: es, (k₁, x) :: xs, (k₂, y) :: ys, hx, hy => by
      rw [ShowsEntries] at hx hy
      obtain ⟨hkeys, hvalues⟩ := ShowsEntries.alike hx.2.2 hy.2.2
      have hkey : k₁ = k₂ := Key.text.inj (hx.1.symm.trans hy.1)
      refine ⟨?_, .cons (Shows.alike hx.2.1 hy.2.1) hvalues⟩
      rw [List.map_cons, List.map_cons, hkeys, hkey]
  | [], _ :: _, _, hx, _ | _ :: _, [], _, hx, _ => nomatch hx.length_eq
  | [], [], _ :: _, _, hy | _ :: _, _ :: _, [], _, hy => nomatch hy.length_eq

end

/-! ## New objects -/

/-- From a place in the heap on, the objects are as they were made: not locked, and each holds only
objects that were made before it, from that place on. -/
structure NewFrom (base : Nat) (h : Heap) : Prop where
  within : base ≤ h.size
  unlocked {x : Ref} : base ≤ x.index → h.isLocked x = false
  names {x : Ref} : base ≤ x.index → (h.table x).lockedNames = []
  earlier {x c : Ref} : base ≤ x.index → c ∈ h.children x → base ≤ c.index ∧ c.index < x.index

variable {base : Nat}

theorem newFrom_size (h : Heap) : h.NewFrom h.size where
  within := Nat.le_refl _
  unlocked hx := isLocked_of_size_le hx
  names hx := by rw [table, value_of_size_le hx]
  earlier hx hc := absurd (index_lt_of_mem_children hc) (Nat.not_lt.mpr hx)

/-- What an object holds is part of what it refers to. -/
theorem mem_refs_of_mem_children {x c : Ref} (hc : c ∈ h.children x) : c ∈ (h.value x).refs := by
  unfold children at hc
  cases hx : h.value x with
  | list items | dict t =>
      rw [hx] at hc
      exact hc
  | number _ | float _ | string _ | funcref _ | blob _ =>
      rw [hx] at hc
      cases hc

theorem NewFrom.alloc (hnew : h.NewFrom base) {v : Value}
    (hrefs : ∀ c ∈ v.refs, base ≤ c.index ∧ c.index < h.size)
    (hnames : ∀ t, v = .dict t → t.lockedNames = []) : (h.alloc v).2.NewFrom base := by
  have hvalue : ∀ x : Ref, x ≠ (h.alloc v).1 → (h.alloc v).2.value x = h.value x := by
    intro x hx
    rw [value, cell_alloc, if_neg hx]
    rfl
  have hfirst : (h.alloc v).2.value (h.alloc v).1 = v := by
    rw [value, cell_alloc, if_pos rfl]
  constructor
  · rw [size_alloc]
    exact Nat.le_succ_of_le hnew.within
  · intro x hx
    rw [isLocked_alloc]
    exact hnew.unlocked hx
  · intro x hx
    by_cases hxv : x = (h.alloc v).1
    · subst hxv
      rw [table, hfirst]
      cases v with
      | dict t => exact hnames t rfl
      | number _ | float _ | string _ | list _ | funcref _ | blob _ => rfl
    · rw [table, hvalue x hxv]
      exact hnew.names hx
  · intro x c hx hc
    by_cases hxv : x = (h.alloc v).1
    · subst hxv
      have hmem := mem_refs_of_mem_children hc
      rw [hfirst] at hmem
      exact hrefs c hmem
    · rw [children_congr (hvalue x hxv)] at hc
      exact hnew.earlier hx hc

/-- From a new object only new ones can be reached, and none that was made later. -/
theorem NewFrom.reaches (hnew : h.NewFrom base) {r x : Ref} (hr : base ≤ r.index)
    (hx : h.Reaches r x) : base ≤ x.index ∧ x.index ≤ r.index := by
  induction hx with
  | refl => exact ⟨hr, Nat.le_refl _⟩
  | tail _ hc ih =>
      obtain ⟨hbase, hlt⟩ := hnew.earlier ih.1 hc
      exact ⟨hbase, by omega⟩

theorem NewFrom.acyclic (hnew : h.NewFrom base) {r : Ref} (hr : base ≤ r.index) :
    h.Acyclic r := by
  intro x hx hself
  obtain ⟨c, hc, hback⟩ := Relation.TransGen.head'_iff.mp hself
  have hxbase := (hnew.reaches hr hx).1
  obtain ⟨hcbase, hlt⟩ := hnew.earlier hxbase hc
  have hle := (hnew.reaches hcbase hback).2
  omega

/-- A new object with its number. -/
def IsNew (base : Nat) (h : Heap) (r : Ref) : Prop := base ≤ r.index ∧ r.index < h.size

theorem IsNew.kept {r : Ref} (hr : h.IsNew base r) (hk : h.Kept h') : h'.IsNew base r :=
  ⟨hr.1, Nat.lt_of_lt_of_le hr.2 hk.size⟩

theorem NewFrom.isNew (hnew : h.NewFrom base) {r c : Ref} (hr : h.IsNew base r)
    (hc : c ∈ h.children r) : h.IsNew base c := by
  obtain ⟨hbase, hlt⟩ := hnew.earlier hr.1 hc
  exact ⟨hbase, Nat.lt_trans hlt hr.2⟩

mutual

/-- What a new object looks like does not change while further objects are made. -/
theorem Shows.kept (hnew : h.NewFrom base) (hk : h.Kept h') :
    ∀ {d : Data} {r : Ref}, h.IsNew base r → h.Shows r d → h'.Shows r d
  | .int _, _, hr, hd | .float _, _, hr, hd | .text _, _, hr, hd | .bytes _, _, hr, hd => by
      rw [Shows] at hd ⊢
      exact (hk.value hr.2).trans hd
  | .list ds, r, hr, hd => by
      rw [Shows] at hd ⊢
      obtain ⟨items, hitems, hd⟩ := hd
      refine ⟨items, (hk.value hr.2).trans hitems, ShowsAll.kept hnew hk (fun c hc => ?_) hd⟩
      exact hnew.isNew hr (by rw [children, hitems]; exact hc)
  | .map es, r, hr, hd => by
      rw [Shows] at hd ⊢
      obtain ⟨t, ht, hd⟩ := hd
      refine ⟨t, (hk.value hr.2).trans ht, ShowsEntries.kept hnew hk (fun e he => ?_) hd⟩
      exact hnew.isNew hr (by rw [children, ht]; exact List.mem_map_of_mem he)
  | .null, _, _, hd | .bool _, _, _, hd | .foreign, _, _, hd => by
      rw [Shows] at hd
      exact hd.elim

theorem ShowsAll.kept (hnew : h.NewFrom base) (hk : h.Kept h') :
    ∀ {ds : List Data} {items : List Ref}, (∀ r ∈ items, h.IsNew base r) →
      h.ShowsAll items ds → h'.ShowsAll items ds
  | [], [], _, _ => by rw [ShowsAll]; trivial
  | d :: ds, r :: items, hitems, hds => by
      rw [ShowsAll] at hds ⊢
      rw [List.forall_mem_cons] at hitems
      exact ⟨Shows.kept hnew hk hitems.1 hds.1, ShowsAll.kept hnew hk hitems.2 hds.2⟩
  | [], _ :: _, _, hds | _ :: _, [], _, hds => nomatch hds.length_eq

theorem ShowsEntries.kept (hnew : h.NewFrom base) (hk : h.Kept h') :
    ∀ {es : List (Key × Data)} {entries : Entries Ref}, (∀ e ∈ entries, h.IsNew base e.2) →
      h.ShowsEntries entries es → h'.ShowsEntries entries es
  | [], [], _, _ => by rw [ShowsEntries]; trivial
  | (k, d) :: es, (k', r) :: entries, hentries, hes => by
      rw [ShowsEntries] at hes ⊢
      rw [List.forall_mem_cons] at hentries
      exact ⟨hes.1, Shows.kept hnew hk hentries.1 hes.2.1,
        ShowsEntries.kept hnew hk hentries.2 hes.2.2⟩
  | [], _ :: _, _, hes | _ :: _, [], _, hes => nomatch hes.length_eq

end

end Heap

/-! ## Making values -/

namespace Op

open Heap (NewFrom IsNew)

variable {base : Nat}

/-- What making something from data leads to: a heap with further objects, all of them as they were
made, in which the result looks right. -/
structure Makes {α : Type} (base : Nat) (op : Op α) (h : Heap) (New : Heap → α → Prop) : Prop where
  intro ::
  ends : ∃ a h', op h = (.ok a, h') ∧ h.Kept h' ∧ h'.NewFrom base ∧ New h' a

theorem Makes.bind {α β : Type} {op : Op α} {f : α → Op β} {h : Heap} {New : Heap → α → Prop}
    {New' : Heap → β → Prop} (hop : Makes base op h New)
    (hf : ∀ a h', h'.NewFrom base → New h' a → Makes base (f a) h' New') :
    Makes base (op >>= f) h New' := by
  obtain ⟨a, h', hrun, hk, hnew, ha⟩ := hop.ends
  obtain ⟨b, h'', hrun', hk', hnew', hb⟩ := (hf a h' hnew ha).ends
  refine ⟨b, h'', ?_, Heap.kept_extending.trans hk hk', hnew', hb⟩
  rw [bind_of_ok hrun, hrun']

theorem Makes.pure {α : Type} {h : Heap} {New : Heap → α → Prop} (hnew : h.NewFrom base) {a : α}
    (ha : New h a) : Makes base (Pure.pure a : Op α) h New :=
  ⟨a, h, rfl, Heap.kept_extending.refl h, hnew, ha⟩

theorem Makes.mono {α : Type} {op : Op α} {h : Heap} {New New' : Heap → α → Prop}
    (hop : Makes base op h New) (hmono : ∀ h' a, h.Kept h' → New h' a → New' h' a) :
    Makes base op h New' := by
  obtain ⟨a, h', hrun, hk, hnew, ha⟩ := hop.ends
  exact ⟨a, h', hrun, hk, hnew, hmono h' a hk ha⟩

theorem Makes.alloc {h : Heap} {v : Value} (hnew : h.NewFrom base)
    (hrefs : ∀ c ∈ v.refs, h.IsNew base c) (hnames : ∀ t, v = .dict t → t.lockedNames = []) :
    Makes base (Op.alloc v) h fun h' r => h'.IsNew base r ∧ h'.value r = v := by
  refine ⟨(h.alloc v).1, (h.alloc v).2, rfl, Heap.kept_extending.alloc h v,
    hnew.alloc hrefs hnames, ⟨hnew.within, ?_⟩, ?_⟩
  · rw [Heap.size_alloc]
    exact Nat.lt_succ_self _
  · rw [Heap.value, Heap.cell_alloc, if_pos rfl]

/-- A new object without parts. -/
theorem Makes.leaf {h : Heap} {v : Value} {d : Data} (hnew : h.NewFrom base) (hrefs : v.refs = [])
    (hnames : ∀ t, v ≠ .dict t) (hshows : ∀ (h' : Heap) (r : Ref), h'.value r = v → h'.Shows r d) :
    Makes base (Op.alloc v) h fun h' r => h'.IsNew base r ∧ h'.Shows r d := by
  have hmade : Makes base (Op.alloc v) h fun h' r => h'.IsNew base r ∧ h'.value r = v := by
    refine .alloc hnew (fun c hc => ?_) fun t ht => absurd ht (hnames t)
    rw [hrefs] at hc
    cases hc
  exact hmade.mono fun h' r _ hr => ⟨hr.1, hshows h' r hr.2⟩

mutual

/-- The value of data looks like the data. -/
theorem ofData_makes : ∀ {d : Data} {h : Heap}, d.Exchangeable → d.Proper → h.NewFrom base →
    Makes base (ofData d) h fun h' r => h'.IsNew base r ∧ h'.Shows r d.plain
  | .null, h, _, _, hnew | .bool _, h, _, _, hnew | .int _, h, _, _, hnew
  | .float _, h, _, _, hnew | .text _, h, _, _, hnew | .bytes _, h, _, _, hnew => by
      rw [ofData, Data.plain]
      exact .leaf hnew rfl nofun fun h' r hr => by rw [Heap.Shows]; exact hr
  | .list items, h, hd, hp, hnew => by
      rw [ofData, Data.plain]
      rw [Data.exchangeable_list] at hd
      refine (ofItems_makes hd (fun d hmem => hp.item hmem) hnew).bind fun rs h' hnew' hrs => ?_
      have hlist : Makes base (Op.alloc (.list rs)) h' fun h'' r =>
          h''.IsNew base r ∧ h''.value r = .list rs := .alloc hnew' hrs.1 nofun
      refine hlist.mono fun h'' r hk hr => ⟨hr.1, ?_⟩
      rw [Heap.Shows]
      exact ⟨rs, hr.2, Heap.ShowsAll.kept hnew' hk hrs.1 hrs.2⟩
  | .map entries, h, hd, hp, hnew => by
      rw [ofData, Data.plain]
      rw [Data.exchangeable_map] at hd
      refine (ofEntries_makes [] hd (fun e he => hp.entry he) (hp _ .here)
        (fun _ _ _ hk => absurd hk List.not_mem_nil) hnew).bind fun es h' hnew' => ?_
      rintro ⟨_, rfl, hes, hshows⟩
      have hdict : Makes base (Op.alloc (.dict { entries := es })) h' fun h'' r =>
          h''.IsNew base r ∧ h''.value r = .dict { entries := es } := by
        refine .alloc hnew' (fun c hc => ?_) fun t ht => ?_
        · obtain ⟨e, he, rfl⟩ := List.mem_map.mp hc
          exact hes e he
        · obtain rfl := Value.dict.inj ht
          rfl
      refine hdict.mono fun h'' r hk hr => ⟨hr.1, ?_⟩
      rw [Heap.Shows]
      exact ⟨_, hr.2, Heap.ShowsEntries.kept hnew' hk hes hshows⟩
  | .foreign, _, hd, _, _ => absurd hd Data.not_exchangeable_foreign

theorem ofItems_makes : ∀ {items : List Data} {h : Heap}, (∀ d ∈ items, d.Exchangeable) →
    (∀ d ∈ items, d.Proper) → h.NewFrom base →
    Makes base (ofItems items) h fun h' rs =>
      (∀ r ∈ rs, h'.IsNew base r) ∧ h'.ShowsAll rs (Data.plainAll items)
  | [], h, _, _, hnew => by
      rw [ofItems, Data.plainAll]
      exact .pure hnew ⟨nofun, by rw [Heap.ShowsAll]; trivial⟩
  | d :: rest, h, hd, hp, hnew => by
      rw [ofItems, Data.plainAll]
      rw [List.forall_mem_cons] at hd hp
      refine (ofData_makes hd.1 hp.1 hnew).bind fun r h' hnew' hr => ?_
      have hrest := (ofItems_makes hd.2 hp.2 hnew').mono fun h'' rs hk hrs => And.intro hk hrs
      refine hrest.bind fun rs h'' hnew'' hrs => .pure hnew'' ⟨?_, ?_⟩
      · exact List.forall_mem_cons.mpr ⟨hr.1.kept hrs.1, hrs.2.1⟩
      · rw [Heap.ShowsAll]
        exact ⟨Heap.Shows.kept hnew' hrs.1 hr.1 hr.2, hrs.2.2⟩

-- The entries made so far stay in front, because no key of the rest is among them.
theorem ofEntries_makes : ∀ {entries : List (Key × Data)} (made : Entries Ref) {h : Heap},
    (∀ e ∈ entries, e.1.isText = true ∧ e.2.Exchangeable) → (∀ e ∈ entries, e.2.Proper) →
    entries.Pairwise (fun a b => a.1.same b.1 = false) →
    (∀ e ∈ entries, ∀ k ∈ Entries.names made, e.1 ≠ .text k) → h.NewFrom base →
    Makes base (ofEntries made entries) h fun h' all => ∃ es, all = made ++ es ∧
      (∀ e ∈ es, h'.IsNew base e.2) ∧ h'.ShowsEntries es (Data.plainEntries entries)
  | [], made, h, _, _, _, _, hnew => by
      rw [ofEntries, Data.plainEntries]
      refine .pure hnew ⟨[], (List.append_nil _).symm, nofun, ?_⟩
      rw [Heap.ShowsEntries]
      trivial
  | (.text k, d) :: rest, made, h, hd, hp, hdistinct, hkeys, hnew => by
      rw [ofEntries, Data.plainEntries]
      rw [List.forall_mem_cons] at hd hp hkeys
      rw [List.pairwise_cons] at hdistinct
      have hk : k ∉ Entries.names made := fun hk => hkeys.1 k hk rfl
      refine (ofData_makes hd.1.2 hp.1 hnew).bind fun r h' hnew' hr => ?_
      rw [Entries.put_of_not_mem hk]
      have hkeys' : ∀ e ∈ rest, ∀ k' ∈ Entries.names (made ++ [(k, r)]), e.1 ≠ .text k' := by
        intro e he k' hk' heq
        rw [Entries.names, List.map_append, List.mem_append] at hk'
        rcases hk' with hk' | hk'
        · exact hkeys.2 e he k' hk' heq
        · obtain rfl : k' = k := List.mem_singleton.mp hk'
          have hsame := hdistinct.1 e he
          rw [heq, Key.same, beq_self_eq_true] at hsame
          cases hsame
      obtain ⟨all, h'', hrun, hkept, hnew'', es, rfl, hes, hshows⟩ :=
        (ofEntries_makes _ hd.2 hp.2 hdistinct.2 hkeys' hnew').ends
      refine ⟨_, h'', hrun, hkept, hnew'', (k, r) :: es, List.append_assoc _ _ _, ?_, ?_⟩
      · exact List.forall_mem_cons.mpr ⟨hr.1.kept hkept, hes⟩
      · rw [Heap.ShowsEntries]
        exact ⟨rfl, Heap.Shows.kept hnew' hkept hr.1 hr.2, hshows⟩
  | (.null, _) :: _, _, _, hd, _, _, _, _ | (.bool _, _) :: _, _, _, hd, _, _, _, _
  | (.int _, _) :: _, _, _, hd, _, _, _, _ | (.float _, _) :: _, _, _, hd, _, _, _, _ =>
      absurd (hd _ List.mem_cons_self).1 nofun

end

end Op

/-! ## The data of values -/

namespace Heap

variable {h : Heap}

mutual

/-- An object unfolds to the data that it looks like. -/
theorem Shows.unfolds : ∀ {d : Data} {r : Ref}, h.Shows r d → h.Unfolds r d
  | .int _, _, hd => .number (by rwa [Shows] at hd)
  | .float _, _, hd => .float (by rwa [Shows] at hd)
  | .text _, _, hd => .string (by rwa [Shows] at hd)
  | .bytes _, _, hd => .blob (by rwa [Shows] at hd)
  | .list _, _, hd => by
      rw [Shows] at hd
      obtain ⟨items, hvalue, hds⟩ := hd
      exact .list hvalue hds.unfolds
  | .map _, _, hd => by
      rw [Shows] at hd
      obtain ⟨t, hvalue, hes⟩ := hd
      obtain ⟨ds, hds, rfl⟩ := hes.unfolds
      exact .dict hvalue hds
  | .null, _, hd | .bool _, _, hd | .foreign, _, hd => by
      rw [Shows] at hd
      exact hd.elim

theorem ShowsAll.unfolds : ∀ {ds : List Data} {items : List Ref}, h.ShowsAll items ds →
    List.Forall₂ h.Unfolds items ds
  | [], [], _ => .nil
  | _ :: _, _ :: _, hds => by
      rw [ShowsAll] at hds
      exact .cons hds.1.unfolds hds.2.unfolds
  | _ :: _, [], hds | [], _ :: _, hds => nomatch hds.length_eq

theorem ShowsEntries.unfolds : ∀ {es : List (Key × Data)} {entries : Entries Ref},
    h.ShowsEntries entries es → ∃ ds, List.Forall₂ h.Unfolds (entries.map (·.2)) ds ∧
      es = ((entries.map (·.1)).map Key.text).zip ds
  | [], [], _ => ⟨[], .nil, rfl⟩
  | (_, _) :: _, (_, _) :: _, hes => by
      rw [ShowsEntries] at hes
      obtain ⟨rfl, hd, hrest⟩ := hes
      obtain ⟨ds, hds, rfl⟩ := hrest.unfolds
      exact ⟨_ :: ds, .cons hd.unfolds hds, rfl⟩
  | _ :: _, [], hes | [], _ :: _, hes => nomatch hes.length_eq

end

/-- The data of an acyclic value is what it looks like. -/
theorem Acyclic.toData_eq {v : Ref} {d : Data} (hv : h.Acyclic v) (hd : h.Shows v d) :
    h.toData v = .ok d := by
  obtain ⟨d', hd', hunfolding⟩ := toData_of_not_recursive (acyclic_iff_not_recurs.mp hv)
  rw [hd', hunfolding.unique hd.unfolds]

end Heap

/-! ## Values that look like data -/

/-- Whether a value is a Funcref. -/
def Value.isFuncref : Value → Bool
  | .funcref _ => true
  | _ => false

namespace Heap

/-- An acyclic value without Funcrefs. -/
structure Convertible (h : Heap) (v : Ref) : Prop where
  acyclic : h.Acyclic v
  noFuncref {r : Ref} : h.Reaches v r → (h.value r).isFuncref = false
  /-- A Dictionary has each key once. -/
  keys {r : Ref} : h.Reaches v r → (h.table r).keys.Nodup

/-- All values of a heap can be converted where no object is a Funcref, and each has its keys once
and holds only later objects. -/
theorem Convertible.of_forward {h : Heap} (hforward : ∀ i < h.size,
    (h.value ⟨i⟩).isFuncref = false ∧ (h.table ⟨i⟩).keys.Nodup ∧ ∀ s ∈ h.children ⟨i⟩, i < s.index)
    (v : Ref) : h.Convertible v where
  acyclic := acyclic_of_forward (fun i hi => (hforward i hi).2.2) v
  noFuncref {r} _ := by
    by_cases hr : r.index < h.size
    · exact (hforward r.index hr).1
    · rw [value_of_size_le (Nat.not_lt.mp hr)]
      rfl
  keys {r} _ := by
    by_cases hr : r.index < h.size
    · exact (hforward r.index hr).2.1
    · rw [table, value_of_size_le (Nat.not_lt.mp hr)]
      exact .nil

variable {h : Heap}

theorem exists_showsAll : ∀ {items : List Ref}, (∀ r ∈ items, ∃ d, h.Shows r d) →
    ∃ ds, h.ShowsAll items ds
  | [], _ => ⟨[], by rw [ShowsAll]; trivial⟩
  | r :: items, hitems => by
      rw [List.forall_mem_cons] at hitems
      obtain ⟨d, hd⟩ := hitems.1
      obtain ⟨ds, hds⟩ := exists_showsAll hitems.2
      exact ⟨d :: ds, by rw [ShowsAll]; exact ⟨hd, hds⟩⟩

theorem exists_showsEntries : ∀ {entries : Entries Ref},
    (∀ r ∈ entries.map (·.2), ∃ d, h.Shows r d) → ∃ es, h.ShowsEntries entries es
  | [], _ => ⟨[], by rw [ShowsEntries]; trivial⟩
  | (k, r) :: entries, hentries => by
      rw [List.map_cons, List.forall_mem_cons] at hentries
      obtain ⟨d, hd⟩ := hentries.1
      obtain ⟨es, hes⟩ := exists_showsEntries hentries.2
      exact ⟨(.text k, d) :: es, by rw [ShowsEntries]; exact ⟨rfl, hd, hes⟩⟩

theorem Convertible.exists_shows {v : Ref} (hv : h.Convertible v) : ∃ d, h.Shows v d := by
  have hfuel : h.size < h.size + 1 + ([] : List Ref).length := by
    rw [List.length_nil]
    omega
  refine hv.acyclic.descend (motive := fun _ _ r => ∃ d, h.Shows r d) ?_ (.start h v) hfuel
  intro _ _ r hr _ hchildren
  unfold children at hchildren
  cases hvalue : h.value r with
  | number n => exact ⟨.int n, by rw [Shows]; exact hvalue⟩
  | float x => exact ⟨.float x, by rw [Shows]; exact hvalue⟩
  | string s => exact ⟨.text s, by rw [Shows]; exact hvalue⟩
  | blob bytes => exact ⟨.bytes bytes, by rw [Shows]; exact hvalue⟩
  | list items =>
      rw [hvalue] at hchildren
      obtain ⟨ds, hds⟩ := exists_showsAll hchildren
      exact ⟨.list ds, by rw [Shows]; exact ⟨items, hvalue, hds⟩⟩
  | dict t =>
      rw [hvalue] at hchildren
      obtain ⟨es, hes⟩ := exists_showsEntries hchildren
      exact ⟨.map es, by rw [Shows]; exact ⟨t, hvalue, hes⟩⟩
  | funcref f =>
      have hkind := hv.noFuncref hr
      rw [hvalue] at hkind
      cases hkind

theorem ShowsAll.exists_mem : ∀ {items : List Ref} {ds : List Data} {d : Data},
    h.ShowsAll items ds → d ∈ ds → ∃ r ∈ items, h.Shows r d
  | r :: items, d' :: ds, d, hds, hd => by
      rw [ShowsAll] at hds
      rcases List.mem_cons.mp hd with rfl | hd
      · exact ⟨r, List.mem_cons_self, hds.1⟩
      · obtain ⟨s, hs, hshows⟩ := ShowsAll.exists_mem hds.2 hd
        exact ⟨s, List.mem_cons_of_mem _ hs, hshows⟩
  | [], _ :: _, _, hds, _ => nomatch hds.length_eq

theorem ShowsEntries.exists_mem : ∀ {entries : Entries Ref} {es : List (Key × Data)}
    {e : Key × Data}, h.ShowsEntries entries es → e ∈ es →
    ∃ k r, (k, r) ∈ entries ∧ e.1 = .text k ∧ h.Shows r e.2
  | (k, r) :: entries, (k', d) :: es, e, hes, he => by
      rw [ShowsEntries] at hes
      rcases List.mem_cons.mp he with rfl | he
      · exact ⟨k, r, List.mem_cons_self, hes.1, hes.2.1⟩
      · obtain ⟨k, r, hmem, hkey, hshows⟩ := ShowsEntries.exists_mem hes.2.2 he
        exact ⟨k, r, List.mem_cons_of_mem _ hmem, hkey, hshows⟩
  | [], _ :: _, _, hes, _ => nomatch hes.length_eq

/-- Every part of the data is the look of some part of the value. -/
theorem Shows.occurs {x d : Data} (hx : x.Occurs d) {r : Ref} (hd : h.Shows r d) :
    ∃ s, h.Reaches r s ∧ h.Shows s x := by
  induction hx generalizing r with
  | here => exact ⟨r, .refl, hd⟩
  | item hmem _ ih =>
      rw [Shows] at hd
      obtain ⟨items, hvalue, hds⟩ := hd
      obtain ⟨c, hc, hshows⟩ := hds.exists_mem hmem
      obtain ⟨s, hs, hx⟩ := ih hshows
      have hchild : c ∈ h.children r := by rw [children, hvalue]; exact hc
      exact ⟨s, .head hchild hs, hx⟩
  | entry hmem _ ih =>
      rw [Shows] at hd
      obtain ⟨t, hvalue, hes⟩ := hd
      obtain ⟨k, c, hc, -, hshows⟩ := hes.exists_mem hmem
      obtain ⟨s, hs, hx⟩ := ih hshows
      have hchild : c ∈ h.children r := by
        rw [children, hvalue]
        exact List.mem_map_of_mem (f := (·.2)) hc
      exact ⟨s, .head hchild hs, hx⟩

theorem Shows.exchangeable {r : Ref} {d : Data} (hd : h.Shows r d) : d.Exchangeable where
  supported hx := by
    obtain ⟨s, -, hs⟩ := hd.occurs hx
    rw [Shows] at hs
    exact hs
  keys hx e he := by
    obtain ⟨s, -, hs⟩ := hd.occurs hx
    rw [Shows] at hs
    obtain ⟨t, -, hes⟩ := hs
    obtain ⟨k, -, -, hkey, -⟩ := hes.exists_mem he
    rw [hkey, Key.isText]

theorem ShowsEntries.distinct : ∀ {entries : Entries Ref} {es : List (Key × Data)},
    h.ShowsEntries entries es → (Entries.names entries).Nodup →
    es.Pairwise fun a b => a.1.same b.1 = false
  | [], [], _, _ => .nil
  | (k, r) :: entries, (k', d) :: es, hes, hkeys => by
      rw [ShowsEntries] at hes
      rw [Entries.names, List.map_cons, List.nodup_cons] at hkeys
      refine .cons (fun e he => ?_) (ShowsEntries.distinct hes.2.2 hkeys.2)
      obtain ⟨k₂, r₂, hmem, hkey, -⟩ := hes.2.2.exists_mem he
      rw [hes.1, hkey, Key.same, beq_eq_false_iff_ne]
      rintro rfl
      exact hkeys.1 (List.mem_map_of_mem (f := (·.1)) hmem)
  | [], _ :: _, hes, _ | _ :: _, [], hes, _ => nomatch hes.length_eq

theorem Convertible.proper {v : Ref} {d : Data} (hv : h.Convertible v) (hd : h.Shows v d) :
    d.Proper := by
  intro entries hx
  obtain ⟨s, hs, hshows⟩ := hd.occurs hx
  rw [Shows] at hshows
  obtain ⟨t, hvalue, hes⟩ := hshows
  have hkeys := hv.keys hs
  rw [table, hvalue] at hkeys
  exact hes.distinct hkeys

mutual

/-- Data that is the look of a value is as scripts see it. -/
theorem Shows.plain : ∀ {d : Data} {r : Ref}, h.Shows r d → d.plain = d
  | .int _, _, _ | .float _, _, _ | .text _, _, _ | .bytes _, _, _ => by rw [Data.plain]
  | .list ds, _, hd => by
      rw [Shows] at hd
      obtain ⟨items, -, hds⟩ := hd
      rw [Data.plain, ShowsAll.plain hds]
  | .map es, _, hd => by
      rw [Shows] at hd
      obtain ⟨t, -, hes⟩ := hd
      rw [Data.plain, ShowsEntries.plain hes]
  | .null, _, hd | .bool _, _, hd | .foreign, _, hd => by
      rw [Shows] at hd
      exact hd.elim

theorem ShowsAll.plain : ∀ {ds : List Data} {items : List Ref}, h.ShowsAll items ds →
    Data.plainAll ds = ds
  | [], _, _ => by rw [Data.plainAll]
  | d :: ds, r :: items, hds => by
      rw [ShowsAll] at hds
      rw [Data.plainAll, Shows.plain hds.1, ShowsAll.plain hds.2]
  | _ :: _, [], hds => nomatch hds.length_eq

theorem ShowsEntries.plain : ∀ {es : List (Key × Data)} {entries : Entries Ref},
    h.ShowsEntries entries es → Data.plainEntries es = es
  | [], _, _ => by rw [Data.plainEntries]
  | (k, d) :: es, (k', r) :: entries, hes => by
      rw [ShowsEntries] at hes
      rw [Data.plainEntries, Shows.plain hes.2.1, ShowsEntries.plain hes.2.2]
  | _ :: _, [], hes => nomatch hes.length_eq

end

/-- An object of a later heap is a copy of a value: it looks the same, and all it consists of has
been made since and is unlocked. -/
structure Recreated (h h' : Heap) (v r : Ref) : Prop where
  kept : h.Kept h'
  alike : h.Alike h' v r
  fresh {x : Ref} : h'.Reaches r x → h.size ≤ x.index
  unlocked {x : Ref} : h'.Reaches r x → h'.isLocked x = false
  unlockedNames {x : Ref} : h'.Reaches r x → (h'.table x).lockedNames = []

end Heap

/-! ## There and back -/

theorem Op.toData_of_ok {h : Heap} {r : Ref} {d : Data} (hd : h.toData r = .ok d) :
    Op.toData r h = (.ok d, h) := by
  have hread : (get : Op Heap) h = (.ok h, h) := rfl
  rw [Op.toData, Op.bind_of_ok hread, hd]
  rfl

/-- Data that a script can hold, made into a value, is read from it as scripts see it. -/
theorem Data.Exchangeable.comes_back {d : Data} (hd : d.Exchangeable) (hp : d.Proper) (h : Heap) :
    ∃ h', (Op.ofData d >>= Op.toData) h = (.ok d.plain, h') := by
  obtain ⟨r, h', hrun, -, hnew, hr, hshows⟩ := (Op.ofData_makes hd hp h.newFrom_size).ends
  have hdata := (hnew.acyclic hr.1).toData_eq hshows
  exact ⟨h', by rw [Op.bind_of_ok hrun, Op.toData_of_ok hdata]⟩

/-- The data of a value, made into a value, is a copy of it. -/
theorem Heap.Convertible.recreated {h : Heap} {v : Ref} (hv : h.Convertible v) :
    ∃ r h', (Op.toData v >>= Op.ofData) h = (.ok r, h') ∧ h.Recreated h' v r := by
  obtain ⟨d, hd⟩ := hv.exists_shows
  obtain ⟨r, h', hrun, hk, hnew, hr, hshows⟩ :=
    (Op.ofData_makes hd.exchangeable (hv.proper hd) h.newFrom_size).ends
  rw [hd.plain] at hshows
  refine ⟨r, h', ?_, hk, hd.alike hshows, fun hx => ?_, fun hx => ?_, fun hx => ?_⟩
  · rw [Op.bind_of_ok (Op.toData_of_ok (hv.acyclic.toData_eq hd)), hrun]
  · exact (hnew.reaches hr.1 hx).1
  · exact hnew.unlocked (hnew.reaches hr.1 hx).1
  · exact hnew.names (hnew.reaches hr.1 hx).1

/-- Data is refused, with a fault about a type, exactly if some part of it is a foreign object or
has a key that is no text. All other data comes back from the value it becomes, with nothing, true
and false as numbers. And an acyclic value without Funcrefs is copied by way of its data. -/
theorem exchange_round_trips :
    (∀ (d : Data) (h : Heap),
      ((∃ f h', Op.ofData d h = (.error (.fault f), h') ∧ f.kind = .type) ↔ ¬ d.Exchangeable) ∧
      (d.Exchangeable → d.Proper →
        ∃ h', (Op.ofData d >>= Op.toData) h = (.ok d.plain, h'))) ∧
    (∀ (h : Heap) (v : Ref), h.Convertible v →
      ∃ r h', (Op.toData v >>= Op.ofData) h = (.ok r, h') ∧ h.Recreated h' v r) := by
  refine ⟨fun d h => ⟨⟨?_, ?_⟩, fun hd hp => hd.comes_back hp h⟩, fun h v hv => hv.recreated⟩
  · rintro ⟨f, h', hfault, -⟩ hd
    rcases Op.ofData_gives d h with ⟨-, r, h'', hrun⟩ | ⟨hn, -⟩
    · rw [hrun] at hfault
      cases hfault
    · exact hn hd
  · intro hd
    rcases Op.ofData_gives d h with ⟨hyes, -⟩ | ⟨-, hfault⟩
    · exact absurd hyes hd
    · exact hfault

/-- Settings with a flag, a missing value and a blob. -/
def settings : Data :=
  .map [(.text "on", .bool true), (.text "", .list [.null, .bytes [7], .float 0.5])]

theorem settings_exchangeable : settings.Exchangeable := by
  rw [settings, Data.exchangeable_map]
  simp only [List.forall_mem_cons, Key.isText, true_and, Data.exchangeable_list]
  refine ⟨?_, ⟨?_, ?_, ?_, nofun⟩, nofun⟩
  all_goals exact Data.exchangeable_of_leaf nofun nofun nofun

theorem settings_proper : settings.Proper := by
  rintro entries (_ | _ | ⟨he, hx⟩)
  · exact .cons (by decide) (.cons nofun .nil)
  · simp only [List.mem_cons, Prod.mk.injEq, List.not_mem_nil, or_false] at he
    rcases he with ⟨-, rfl⟩ | ⟨-, rfl⟩
    · cases hx
    · obtain _ | ⟨hd, hx⟩ := hx
      simp only [List.mem_cons, List.not_mem_nil, or_false] at hd
      rcases hd with rfl | rfl | rfl <;> cases hx

/-- A List that holds another one twice, once in a Dictionary; the inner List and its item are
locked. -/
def sharedLocked : Heap where
  cells := #[{ value := .list [⟨2⟩, ⟨1⟩] }, { value := .dict { entries := [("k", ⟨2⟩)] } },
    { value := .list [⟨3⟩], isLocked := true }, { value := .number 7, isLocked := true }]

theorem settings_and_sharedLocked_round_trip :
    (settings.Exchangeable ∧ settings.Proper ∧
      ∃ h', (Op.ofData settings >>= Op.toData) {} = (.ok (.map [(.text "on", .int 1),
        (.text "", .list [.int 0, .bytes [7], .float 0.5])]), h')) ∧
    sharedLocked.Convertible ⟨0⟩ ∧
      ∃ r h', (Op.toData ⟨0⟩ >>= Op.ofData) sharedLocked = (.ok r, h') ∧
        sharedLocked.Recreated h' ⟨0⟩ r := by
  have hconv : sharedLocked.Convertible ⟨0⟩ := .of_forward (by decide) ⟨0⟩
  refine ⟨⟨settings_exchangeable, settings_proper, ?_⟩, hconv, ?_⟩
  · exact (exchange_round_trips.1 settings {}).2 settings_exchangeable settings_proper
  · exact exchange_round_trips.2 sharedLocked ⟨0⟩ hconv

end Vimscript
