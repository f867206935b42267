import Vimscript.Proofs.Heap.Copy
import Vimscript.Proofs.Heap.Parts

/-!
# One step of a comparison

`Value.equalBy` is one step of the comparison of two values, with the
comparison of their parts as a parameter, and `Value.Agree` says when it
finds them equal, with the relation of their parts as a parameter. Where no
Float is involved the two are the same (`Value.equalBy_of_agree` and
`Value.agree_of_equalBy`).

What is true of the relation of the parts carries over to agreement:
reflexivity, symmetry and transitivity are lemmas about one step. None of
them is an induction.
-/

namespace Vimscript

theorem forall₂_imp_of_mem {α β : Type} {R S : α → β → Prop} {as : List α} {bs : List β}
    (h : List.Forall₂ R as bs) (hRS : ∀ a ∈ as, ∀ b ∈ bs, R a b → S a b) :
    List.Forall₂ S as bs := by
  induction h with
  | nil => exact .nil
  | cons hab _ ih =>
      refine .cons (hRS _ List.mem_cons_self _ List.mem_cons_self hab) (ih fun a ha b hb => ?_)
      exact hRS a (List.mem_cons_of_mem _ ha) b (List.mem_cons_of_mem _ hb)

theorem forall₂_comp {α β γ : Type} {R : α → β → Prop} {S : β → γ → Prop} {as : List α}
    {bs : List β} {cs : List γ} (h : List.Forall₂ R as bs) (h' : List.Forall₂ S bs cs) :
    List.Forall₂ (fun a c => ∃ b, R a b ∧ S b c) as cs := by
  induction h generalizing cs with
  | nil =>
      cases h'
      exact .nil
  | cons hab _ ih =>
      cases h' with
      | cons hbc hrest => exact .cons ⟨_, hab, hbc⟩ (ih hrest)

section

variable {eq eq' : Ref → Ref → Result Bool}

theorem allEqual_congr {xs ys : List Ref} (h : ∀ x ∈ xs, ∀ y ∈ ys, eq x y = eq' x y) :
    allEqual eq xs ys = allEqual eq' xs ys := by
  induction xs generalizing ys with
  | nil => rfl
  | cons x xs ih =>
      cases ys with
      | nil => rfl
      | cons y ys =>
          have hrest := ih fun a ha b hb =>
            h a (List.mem_cons_of_mem x ha) b (List.mem_cons_of_mem y hb)
          simp only [allEqual, h x List.mem_cons_self y List.mem_cons_self, hrest]

theorem entriesEqual_congr {t : Table} {entries : List (String × Ref)}
    (h : ∀ x ∈ entries.map (·.2), ∀ y ∈ t.values, eq x y = eq' x y) :
    entriesEqual eq t entries = entriesEqual eq' t entries := by
  induction entries with
  | nil => rfl
  | cons e rest ih =>
      obtain ⟨k, v⟩ := e
      have hrest := ih fun x hx => h x (List.mem_cons_of_mem v hx)
      simp only [entriesEqual, hrest]
      cases hk : t.get? k with
      | none => rfl
      | some w =>
          have hw : w ∈ t.values := List.mem_map_of_mem (Entries.mem_of_find? hk)
          simp only [h v List.mem_cons_self w hw]

theorem allEqual_eq_true {xs ys : List Ref} (hlength : xs.length = ys.length) :
    allEqual eq xs ys = .ok true ↔ List.Forall₂ (fun x y => eq x y = .ok true) xs ys := by
  induction xs generalizing ys with
  | nil =>
      obtain rfl := List.eq_nil_of_length_eq_zero hlength.symm
      exact ⟨fun _ => .nil, fun _ => rfl⟩
  | cons x xs ih =>
      cases ys with
      | nil => cases hlength
      | cons y ys =>
          have hrest := ih (Nat.succ.inj hlength)
          rw [List.forall₂_cons, ← hrest, allEqual]
          rcases hxy : eq x y with stop | (_ | _) <;> simp [bind, Except.bind, pure, Except.pure]

theorem entriesEqual_eq_true {t : Table} {entries : List (String × Ref)} :
    entriesEqual eq t entries = .ok true ↔
      ∀ e ∈ entries, ∃ w, t.get? e.1 = some w ∧ eq e.2 w = .ok true := by
  induction entries with
  | nil => exact ⟨nofun, fun _ => rfl⟩
  | cons e rest ih =>
      obtain ⟨k, v⟩ := e
      rw [List.forall_mem_cons, ← ih, entriesEqual]
      cases hk : t.get? k with
      | none => simp [pure, Except.pure]
      | some w =>
          rcases hvw : eq v w with stop | (_ | _) <;>
            simp [hvw, bind, Except.bind, pure, Except.pure]

theorem allEqual_ok {xs ys : List Ref} (h : ∀ x ∈ xs, ∀ y ∈ ys, ∃ e, eq x y = .ok e) :
    ∃ e, allEqual eq xs ys = .ok e := by
  induction xs generalizing ys with
  | nil => exact ⟨_, rfl⟩
  | cons x xs ih =>
      cases ys with
      | nil => exact ⟨_, rfl⟩
      | cons y ys =>
          have hrest := ih fun a ha b hb =>
            h a (List.mem_cons_of_mem x ha) b (List.mem_cons_of_mem y hb)
          obtain ⟨e, he⟩ := h x List.mem_cons_self y List.mem_cons_self
          rw [allEqual, he]
          cases e with
          | false => exact ⟨_, rfl⟩
          | true => exact hrest

theorem entriesEqual_ok {t : Table} {entries : List (String × Ref)}
    (h : ∀ x ∈ entries.map (·.2), ∀ y ∈ t.values, ∃ e, eq x y = .ok e) :
    ∃ e, entriesEqual eq t entries = .ok e := by
  induction entries with
  | nil => exact ⟨_, rfl⟩
  | cons e rest ih =>
      obtain ⟨k, v⟩ := e
      have hrest := ih fun x hx => h x (List.mem_cons_of_mem v hx)
      rw [entriesEqual]
      cases hk : t.get? k with
      | none => exact ⟨_, rfl⟩
      | some w =>
          have hw : w ∈ t.values := List.mem_map_of_mem (Entries.mem_of_find? hk)
          obtain ⟨e, he⟩ := h v List.mem_cons_self w hw
          simp only [he]
          cases e with
          | false => exact ⟨_, rfl⟩
          | true => exact hrest

end

namespace Table

variable {s t : Table}

theorem sameKeys_eq : s.sameKeys t = (s.keys.length == t.keys.length && s.keys.all t.contains) := by
  simp only [sameKeys, size, keys, Entries.names, List.length_map]

theorem sameKeys_of_perm (h : s.keys.Perm t.keys) : s.sameKeys t = true := by
  rw [sameKeys_eq, Bool.and_eq_true, beq_iff_eq, List.all_eq_true]
  exact ⟨h.length_eq, fun k hk => contains_iff.mpr (h.mem_iff.mp hk)⟩

/-- Dictionaries of the same size have the same keys if one of them has all keys of the other. -/
theorem perm_of_sameKeys (hs : s.keys.Nodup) (h : s.sameKeys t = true) : s.keys.Perm t.keys := by
  rw [sameKeys_eq, Bool.and_eq_true, beq_iff_eq, List.all_eq_true] at h
  have hsub : s.keys ⊆ t.keys := fun k hk => contains_iff.mp (h.2 k hk)
  exact (List.subperm_of_subset hs hsub).perm_of_length_le (Nat.le_of_eq h.1.symm)

theorem get?_eq_some_iff (ht : t.keys.Nodup) {k : String} {r : Ref} :
    t.get? k = some r ↔ (k, r) ∈ t.entries := Entries.find?_eq_some_iff ht

/-- The order of the entries does not matter to a look-up. -/
theorem get?_perm (hs : s.keys.Nodup) (hst : s.entries.Perm t.entries) (k : String) :
    s.get? k = t.get? k := by
  have ht : t.keys.Nodup := (hst.map _).nodup_iff.mp hs
  ext r
  rw [get?_eq_some_iff hs, get?_eq_some_iff ht, hst.mem_iff]

end Table

namespace Value

/-- When two values are equal, given which of their parts are; Floats are left out. -/
inductive Agree (ignoreCase : Bool) (eq : Ref → Ref → Prop) : Value → Value → Prop
  | number (n : Int) : Agree ignoreCase eq (.number n) (.number n)
  | string {s t : String} : textsEqual ignoreCase s t = true →
      Agree ignoreCase eq (.string s) (.string t)
  | list {xs ys : List Ref} : List.Forall₂ eq xs ys → Agree ignoreCase eq (.list xs) (.list ys)
  | dict {s t : Table} : s.keys.Nodup → s.keys.Perm t.keys →
      (∀ k, Option.Rel eq (s.get? k) (t.get? k)) → Agree ignoreCase eq (.dict s) (.dict t)
  | funcref {f g : Funcref} : f.callee = g.callee → eq f.arguments g.arguments →
      f.self = g.self → Agree ignoreCase eq (.funcref f) (.funcref g)
  | blob (bytes : List UInt8) : Agree ignoreCase eq (.blob bytes) (.blob bytes)

/-- One step of a comparison, given how the parts are compared. -/
def equalBy (ignoreCase isSame : Bool) (eq : Ref → Ref → Result Bool) :
    Value → Value → Result Bool
  | .number m, .float y => do return (← numberToFloat m) == y
  | .float x, .number n => do return x == (← numberToFloat n)
  | .number m, .number n => return m == n
  | .float x, .float y => return x == y
  | .string s, .string t => return textsEqual ignoreCase s t
  | .list xs, .list ys =>
    if isSame then return true
    else if xs.length == ys.length then allEqual eq xs ys
    else return false
  | .dict s, .dict t =>
    if isSame then return true
    else if s.sameKeys t then entriesEqual eq t s.entries
    else return false
  | .funcref f, .funcref g =>
    if f.callee == g.callee then do
      if ← eq f.arguments g.arguments then return f.self == g.self
      else return false
    else return false
  | .blob s, .blob t => return s == t
  | _, _ => return false

section

variable {ignoreCase isSame : Bool} {eq eq' : Ref → Ref → Result Bool} {a b : Value}

theorem equalBy_list (xs ys : List Ref) :
    (list xs).equalBy ignoreCase isSame eq (list ys)
      = if isSame then .ok true
        else if xs.length == ys.length then allEqual eq xs ys
        else .ok false := rfl

theorem equalBy_dict (s t : Table) :
    (dict s).equalBy ignoreCase isSame eq (dict t)
      = if isSame then .ok true
        else if s.sameKeys t then entriesEqual eq t s.entries
        else .ok false := rfl

theorem equalBy_funcref (f g : Funcref) :
    (funcref f).equalBy ignoreCase isSame eq (funcref g)
      = if f.callee == g.callee then
          (eq f.arguments g.arguments).bind fun e =>
            if e then .ok (f.self == g.self) else .ok false
        else .ok false := rfl

theorem equalBy_congr (h : ∀ x ∈ a.parts, ∀ y ∈ b.parts, eq x y = eq' x y) :
    a.equalBy ignoreCase isSame eq b = a.equalBy ignoreCase isSame eq' b := by
  cases a <;> cases b <;> try rfl
  case list.list xs ys =>
      have hitems : allEqual eq xs ys = allEqual eq' xs ys := allEqual_congr h
      rw [equalBy_list, equalBy_list, hitems]
  case dict.dict s t =>
      have hentries : entriesEqual eq t s.entries = entriesEqual eq' t s.entries :=
        entriesEqual_congr h
      rw [equalBy_dict, equalBy_dict, hentries]
  case funcref.funcref f g =>
      have harguments := h f.arguments List.mem_cons_self g.arguments List.mem_cons_self
      rw [equalBy_funcref, equalBy_funcref, harguments]

/-- Only a Number beside a Float can be in the way of an answer. -/
theorem equalBy_ok
    (hnumber : ∀ n x, (a = .number n ∧ b = .float x) ∨ (a = .float x ∧ b = .number n) →
      ∃ y, numberToFloat n = .ok y)
    (h : ∀ x ∈ a.parts, ∀ y ∈ b.parts, ∃ e, eq x y = .ok e) :
    ∃ e, a.equalBy ignoreCase isSame eq b = .ok e := by
  cases a <;> cases b
  all_goals try exact ⟨_, rfl⟩
  case number.float n x =>
      obtain ⟨y, hy⟩ := hnumber n x (.inl ⟨rfl, rfl⟩)
      rw [equalBy, hy]
      exact ⟨_, rfl⟩
  case float.number x n =>
      obtain ⟨y, hy⟩ := hnumber n x (.inr ⟨rfl, rfl⟩)
      rw [equalBy, hy]
      exact ⟨_, rfl⟩
  case list.list xs ys =>
      have hitems : ∃ e, allEqual eq xs ys = .ok e := allEqual_ok h
      rw [equalBy_list]
      split_ifs
      exacts [⟨_, rfl⟩, hitems, ⟨_, rfl⟩]
  case dict.dict s t =>
      have hentries : ∃ e, entriesEqual eq t s.entries = .ok e := entriesEqual_ok h
      rw [equalBy_dict]
      split_ifs
      exacts [⟨_, rfl⟩, hentries, ⟨_, rfl⟩]
  case funcref.funcref f g =>
      obtain ⟨e, he⟩ := h f.arguments List.mem_cons_self g.arguments List.mem_cons_self
      rw [equalBy_funcref, he, Except.bind]
      split_ifs
      exacts [⟨_, rfl⟩, ⟨_, rfl⟩, ⟨_, rfl⟩]

/-- Values that agree are found equal. -/
theorem equalBy_of_agree (h : a.Agree ignoreCase (fun x y => eq x y = .ok true) b) :
    a.equalBy ignoreCase isSame eq b = .ok true := by
  cases h with
  | number n => exact congrArg Except.ok (beq_self_eq_true n)
  | string hst => exact congrArg Except.ok hst
  | list hitems =>
      rw [equalBy_list, (allEqual_eq_true hitems.length_eq).mpr hitems, hitems.length_eq,
        beq_self_eq_true, if_pos rfl, ite_self]
  | @dict s t hnodup hkeys hentries =>
      have hfound : entriesEqual eq t s.entries = .ok true := by
        refine entriesEqual_eq_true.mpr fun e he => ?_
        have hk := hentries e.1
        rw [(Table.get?_eq_some_iff hnodup).mpr he] at hk
        cases hk' : t.get? e.1 <;> rw [hk'] at hk <;> cases hk
        exact ⟨_, rfl, ‹_›⟩
      rw [equalBy_dict, hfound, Table.sameKeys_of_perm hkeys, if_pos rfl, ite_self]
  | funcref hcallee harguments hself =>
      rw [equalBy_funcref, harguments, hcallee, hself, beq_self_eq_true, if_pos rfl]
      exact congrArg Except.ok (beq_self_eq_true _)
  | blob bytes => exact congrArg Except.ok (beq_self_eq_true bytes)

/-- Values of different objects that are found equal agree. -/
theorem agree_of_equalBy (ha : a.isFloat = false) (hb : b.isFloat = false)
    (hkeys : ∀ s, a = .dict s → s.keys.Nodup) (h : a.equalBy ignoreCase false eq b = .ok true) :
    a.Agree ignoreCase (fun x y => eq x y = .ok true) b := by
  cases a <;> cases b <;> try cases ha <;> try cases hb
  all_goals try cases h
  case number.number m n =>
      obtain rfl : m = n := eq_of_beq (Except.ok.inj h)
      exact .number m
  case string.string s t => exact .string (Except.ok.inj h)
  case list.list xs ys =>
      rw [equalBy_list, if_neg Bool.false_ne_true] at h
      by_cases hlength : (xs.length == ys.length) = true
      · rw [if_pos hlength] at h
        exact .list ((allEqual_eq_true (eq_of_beq hlength)).mp h)
      · rw [if_neg hlength] at h
        cases h
  case dict.dict s t =>
      rw [equalBy_dict, if_neg Bool.false_ne_true] at h
      by_cases hsame : s.sameKeys t = true
      swap
      · rw [if_neg hsame] at h
        cases h
      rw [if_pos hsame] at h
      have hnodup := hkeys s rfl
      have hperm := Table.perm_of_sameKeys hnodup hsame
      refine .dict hnodup hperm fun k => ?_
      cases hk : s.get? k with
      | none =>
          rw [Table.get?, Entries.find?_eq_none_iff] at hk
          have hk' : t.get? k = none :=
            Entries.find?_eq_none_iff.mpr fun hmem => hk (hperm.mem_iff.mpr hmem)
          rw [hk']
          exact .none
      | some v =>
          have hmem := (Table.get?_eq_some_iff hnodup).mp hk
          obtain ⟨w, hw, heq⟩ := entriesEqual_eq_true.mp h _ hmem
          rw [hw]
          exact .some heq
  case funcref.funcref f g =>
      rw [equalBy_funcref] at h
      by_cases hcallee : (f.callee == g.callee) = true
      swap
      · rw [if_neg hcallee] at h
        cases h
      rw [if_pos hcallee] at h
      rcases hargs : eq f.arguments g.arguments with stop | (_ | _) <;> rw [hargs] at h
      · cases h
      · cases h
      · exact .funcref (eq_of_beq hcallee) hargs (eq_of_beq (Except.ok.inj h))
  case blob.blob s t =>
      obtain rfl : s = t := eq_of_beq (Except.ok.inj h)
      exact .blob s

end

/-! ### What agreement inherits from the relation of the parts -/

namespace Agree

variable {ignoreCase : Bool} {R S : Ref → Ref → Prop} {a b c : Value}

theorem imp (h : a.Agree ignoreCase R b) (hRS : ∀ x ∈ a.parts, ∀ y ∈ b.parts, R x y → S x y) :
    a.Agree ignoreCase S b := by
  cases h with
  | number n => exact .number n
  | string hst => exact .string hst
  | list hitems => exact .list (forall₂_imp_of_mem hitems hRS)
  | @dict s t hnodup hkeys hentries =>
      refine .dict hnodup hkeys fun k => ?_
      have hk := hentries k
      cases hs : s.get? k <;> cases ht : t.get? k <;> rw [hs, ht] at hk <;> cases hk
      · exact .none
      · rename_i hxy
        exact .some (hRS _ (List.mem_map_of_mem (Entries.mem_of_find? hs)) _
          (List.mem_map_of_mem (Entries.mem_of_find? ht)) hxy)
  | funcref hcallee harguments hself =>
      exact .funcref hcallee (hRS _ List.mem_cons_self _ List.mem_cons_self harguments) hself
  | blob bytes => exact .blob bytes

theorem refl (ha : a.isFloat = false) (hkeys : ∀ s, a = .dict s → s.keys.Nodup)
    (hR : ∀ x ∈ a.parts, R x x) : a.Agree ignoreCase R a := by
  cases a with
  | number n => exact .number n
  | float x => cases ha
  | string s =>
      refine .string ?_
      unfold textsEqual
      split_ifs <;> exact beq_self_eq_true _
  | list items => exact .list (List.forall₂_same.mpr hR)
  | dict t =>
      refine .dict (hkeys t rfl) (.refl _) fun k => ?_
      cases hk : t.get? k with
      | none => exact .none
      | some v => exact .some (hR v (List.mem_map_of_mem (Entries.mem_of_find? hk)))
  | funcref f => exact .funcref rfl (hR _ List.mem_cons_self) rfl
  | blob bytes => exact .blob bytes

theorem symm (h : a.Agree ignoreCase R b) : b.Agree ignoreCase (fun x y => R y x) a := by
  cases h with
  | number n => exact .number n
  | string hst =>
      refine .string ?_
      unfold textsEqual at hst ⊢
      split_ifs at hst ⊢ <;> exact beq_iff_eq.mpr (beq_iff_eq.mp hst).symm
  | list hitems => exact .list (List.Forall₂.flip hitems)
  | @dict s t hnodup hkeys hentries =>
      refine .dict (hkeys.nodup_iff.mp hnodup) hkeys.symm fun k => ?_
      have hk := hentries k
      cases hs : s.get? k <;> cases ht : t.get? k <;> rw [hs, ht] at hk <;> cases hk
      · exact .none
      · exact .some ‹_›
  | funcref hcallee harguments hself => exact .funcref hcallee.symm harguments hself.symm
  | blob bytes => exact .blob bytes

theorem trans (hab : a.Agree ignoreCase R b) (hbc : b.Agree ignoreCase S c) :
    a.Agree ignoreCase (fun x z => ∃ y, R x y ∧ S y z) c := by
  cases hab with
  | number n =>
      cases hbc
      exact .number n
  | string hst =>
      cases hbc with
      | string htu =>
          refine .string ?_
          unfold textsEqual at hst htu ⊢
          split_ifs at hst htu ⊢ <;>
            exact beq_iff_eq.mpr ((beq_iff_eq.mp hst).trans (beq_iff_eq.mp htu))
  | list hitems =>
      cases hbc with
      | list hitems' => exact .list (forall₂_comp hitems hitems')
  | @dict s t hnodup hkeys hentries =>
      cases hbc with
      | @dict _ u _ hkeys' hentries' =>
          refine .dict hnodup (hkeys.trans hkeys') fun k => ?_
          have hk := hentries k
          have hk' := hentries' k
          cases hs : s.get? k <;> cases ht : t.get? k <;> cases hu : u.get? k <;>
            rw [hs, ht] at hk <;> rw [ht, hu] at hk' <;> cases hk <;> cases hk'
          · exact .none
          · exact .some ⟨_, ‹_›, ‹_›⟩
  | funcref hcallee harguments hself =>
      cases hbc with
      | funcref hcallee' harguments' hself' =>
          exact .funcref (hcallee.trans hcallee') ⟨_, harguments, harguments'⟩
            (hself.trans hself')
  | blob bytes =>
      cases hbc
      exact .blob bytes

/-- Every part of the one value has a counterpart in the other. -/
theorem exists_part (h : a.Agree ignoreCase R b) {y : Ref} (hy : y ∈ b.parts) :
    ∃ x ∈ a.parts, R x y := by
  cases h with
  | number _ | string _ | blob _ => cases hy
  | list hitems =>
      obtain ⟨x, hx, hxy⟩ := exists_mem_of_forall₂ hitems.flip hy
      exact ⟨x, hx, hxy⟩
  | @dict s t hnodup hkeys hentries =>
      obtain ⟨⟨k, _⟩, hmem, rfl⟩ := List.mem_map.mp hy
      have hk := hentries k
      rw [(Table.get?_eq_some_iff (hkeys.nodup_iff.mp hnodup)).mpr hmem] at hk
      cases hs : s.get? k <;> rw [hs] at hk <;> cases hk
      exact ⟨_, List.mem_map_of_mem (Entries.mem_of_find? hs), ‹_›⟩
  | funcref _ harguments _ =>
      obtain rfl := List.mem_singleton.mp hy
      exact ⟨_, List.mem_cons_self, harguments⟩

theorem notFloat (h : a.Agree ignoreCase R b) : b.isFloat = false := by
  cases h <;> rfl

theorem distinct (h : a.Agree ignoreCase R b) {t : Table} (hb : b = .dict t) : t.keys.Nodup := by
  cases h with
  | dict hnodup hkeys _ =>
      cases hb
      exact hkeys.nodup_iff.mp hnodup
  | number _ | string _ | list _ | funcref _ _ _ | blob _ => cases hb

theorem ignoringCase (h : a.Agree false R b) : a.Agree true R b := by
  cases h with
  | number n => exact .number n
  | @string s t hst =>
      obtain rfl : s = t := eq_of_beq hst
      exact .string (beq_self_eq_true _)
  | list hitems => exact .list hitems
  | dict hnodup hkeys hentries => exact .dict hnodup hkeys hentries
  | funcref hcallee harguments hself => exact .funcref hcallee harguments hself
  | blob bytes => exact .blob bytes

end Agree

end Value

end Vimscript
