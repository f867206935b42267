import Vimscript.Proofs.Heap.Acyclic

/-!
# Copies to a level

A copy to a level should be new for so many steps and share everything from
there on. The level is counted down on the way, but the memo does not know
about it: an object that is met a second time is not copied again, and its
copy stands there with the items that the first visit had levels left for.

So what matters is the way on which an object was first met. Each copy that
has been filled in comes with such a way, and its items stand for the
original ones at the level that was left after it (`Copying.CompleteTo`).
No other fact about the order of the visits is needed. Where a List or
Dictionary that holds further ones can be reached both in the last step and
earlier, the one way asks for items that are shared and the other for items
that are new, and its one copy cannot have both. Nowhere else does the copy
go wrong (`copy_exact_iff`).
-/

namespace Vimscript

/-! ## Places -/

namespace Heap

/-- The object at the end of a path; each step goes to the item or entry at a position. -/
def objectAt? (h : Heap) : Ref → List Nat → Option Ref
  | v, [] => some v
  | v, i :: path => (h.children v)[i]?.bind fun s => h.objectAt? s path

/-- An object can be reached in exactly so many steps. -/
def ReachesIn (h : Heap) (v : Ref) (steps : Nat) (r : Ref) : Prop :=
  ∃ path, path.length = steps ∧ h.objectAt? v path = some r

variable {h : Heap} {v r s : Ref} {steps : Nat}

theorem objectAt?_snoc (h : Heap) (v : Ref) (path : List Nat) (i : Nat) :
    h.objectAt? v (path ++ [i]) = (h.objectAt? v path).bind fun r => (h.children r)[i]? := by
  induction path generalizing v with
  | nil =>
      simp only [List.nil_append, objectAt?, Option.bind_some]
      cases (h.children v)[i]? <;> rfl
  | cons j path ih =>
      simp only [List.cons_append, objectAt?, ih]
      cases (h.children v)[j]? <;> rfl

theorem ReachesIn.start (h : Heap) (v : Ref) : h.ReachesIn v 0 v := ⟨[], rfl, rfl⟩

theorem ReachesIn.tail (hr : h.ReachesIn v steps r) (hs : s ∈ h.children r) :
    h.ReachesIn v (steps + 1) s := by
  obtain ⟨path, hlength, hpath⟩ := hr
  obtain ⟨i, hi⟩ := List.mem_iff_getElem?.mp hs
  refine ⟨path ++ [i], by simp [hlength], ?_⟩
  rw [objectAt?_snoc, hpath]
  exact hi

theorem reaches_of_objectAt? {path : List Nat} (hr : h.objectAt? v path = some r) :
    h.Reaches v r := by
  induction path generalizing v with
  | nil =>
      cases hr
      exact .refl
  | cons i path ih =>
      obtain ⟨s, hs, hpath⟩ := Option.bind_eq_some_iff.mp hr
      exact .head (List.mem_of_getElem? hs) (ih hpath)

theorem ReachesIn.reaches (hr : h.ReachesIn v steps r) : h.Reaches v r := by
  obtain ⟨path, -, hpath⟩ := hr
  exact reaches_of_objectAt? hpath

end Heap

/-! ## What a stretch of the search does -/

namespace Copying

/-- What stands for an object in a copy under way with so many levels left: with none left, the
object itself. -/
def StandsAt (h : Heap) (c : Copying) (level : Nat) (r r' : Ref) : Prop :=
  if level = 0 then r' = r else c.Stands h r r'

/-- The copy of a List or Dictionary is filled in: on some way to it `level` levels were left for
its items. -/
def CompleteTo (h : Heap) (v : Ref) (n : Nat) (c : Copying) (r x : Ref) : Prop :=
  ∃ steps level items, steps + level + 1 = n ∧ h.ReachesIn v steps r ∧
    c.heap.cell x = { value := (h.value r).withItems items } ∧
    List.Forall₂ (c.StandsAt h level) (h.children r) items

/-- What a stretch of a search to the level `n` does: the objects that were there are as they were,
and the copies begun since are new and filled in. -/
structure LevelStep (h : Heap) (v : Ref) (n : Nat) (c c' : Copying) : Prop where
  kept : c.heap.Kept c'.heap
  known {r x : Ref} : c.known? r = some x → c'.known? r = some x
  new {r x : Ref} : c.known? r = none → c'.known? r = some x →
    c.heap.size ≤ x.index ∧ x.index < c'.heap.size
  complete {r x : Ref} : c.known? r = none → c'.known? r = some x → c'.CompleteTo h v n r x

section

variable {h : Heap} {v : Ref} {n level : Nat} {c c₁ c₂ : Copying}

theorem standsAt_zero {r r' : Ref} : c.StandsAt h 0 r r' ↔ r' = r := by
  rw [StandsAt, if_pos rfl]

theorem standsAt_succ {r r' : Ref} : c.StandsAt h (level + 1) r r' ↔ c.Stands h r r' := by
  rw [StandsAt, if_neg (Nat.succ_ne_zero level)]

theorem StandsAt.mono (hkept : c.heap.Kept c₁.heap)
    (hknown : ∀ {r x : Ref}, c.known? r = some x → c₁.known? r = some x) {r r' : Ref}
    (hs : c.StandsAt h level r r') : c₁.StandsAt h level r r' := by
  unfold StandsAt at hs ⊢
  split
  · rename_i hlevel
    rwa [if_pos hlevel] at hs
  · rename_i hlevel
    rw [if_neg hlevel] at hs
    exact hs.mono hkept hknown

theorem StandsAt.fill {r : Ref} {value : Value}
    (hkept : (c.start r value).2.heap.Kept c₂.heap) (hvalue : value.isContainer = true)
    (value' : Value) {s s' : Ref} (hs : c₂.StandsAt h level s s') :
    (c₂.fill ⟨c.heap.size⟩ value').StandsAt h level s s' := by
  unfold StandsAt at hs ⊢
  split
  · rename_i hlevel
    rwa [if_pos hlevel] at hs
  · rename_i hlevel
    rw [if_neg hlevel] at hs
    exact hs.fill hkept hvalue value'

theorem CompleteTo.mono (hstep : LevelStep h v n c c₁) {r x : Ref} (hx : x.index < c.heap.size)
    (hc : c.CompleteTo h v n r x) : c₁.CompleteTo h v n r x := by
  obtain ⟨steps, level, items, hn, hr, hcell, hitems⟩ := hc
  refine ⟨steps, level, items, hn, hr, (hstep.kept.cell x hx).trans hcell, ?_⟩
  exact hitems.imp fun _ _ => StandsAt.mono hstep.kept hstep.known

/-- Objects that are nobody's copy may be made at any time. -/
theorem LevelStep.of_memo (hkept : c.heap.Kept c₁.heap) (hmemo : c₁.memo = c.memo) :
    LevelStep h v n c c₁ := by
  have hknown (r : Ref) : c₁.known? r = c.known? r := by
    unfold known?
    rw [hmemo]
  have hnone {r x : Ref} (hr : c.known? r = none) (hr' : c₁.known? r = some x) : False := by
    rw [hknown, hr] at hr'
    cases hr'
  exact
    { kept := hkept
      known := fun hr => (hknown _).trans hr
      new := fun hr hr' => (hnone hr hr').elim
      complete := fun hr hr' => (hnone hr hr').elim }

theorem LevelStep.trans (h₁ : LevelStep h v n c c₁) (h₂ : LevelStep h v n c₁ c₂) :
    LevelStep h v n c c₂ := by
  have hkept := Heap.kept_extending.trans h₁.kept h₂.kept
  -- a copy that is known in the end was begun in the first stretch or in the second
  have hcases {r x : Ref} (hr : c.known? r = none) (hr' : c₂.known? r = some x) :
      c.heap.size ≤ x.index ∧ x.index < c₂.heap.size ∧ c₂.CompleteTo h v n r x := by
    have hsize := h₁.kept.size
    have hsize' := h₂.kept.size
    rcases hmid : c₁.known? r with _ | y
    · have hnew := h₂.new hmid hr'
      exact ⟨by omega, by omega, h₂.complete hmid hr'⟩
    · obtain rfl : y = x := by
        have hy := h₂.known hmid
        rw [hr'] at hy
        exact (Option.some.inj hy).symm
      have hnew := h₁.new hr hmid
      exact ⟨by omega, by omega, (h₁.complete hr hmid).mono h₂ hnew.2⟩
  exact
    { kept := hkept
      known := fun hr => h₂.known (h₁.known hr)
      new := fun hr hr' => ⟨(hcases hr hr').1, (hcases hr hr').2.1⟩
      complete := fun hr hr' => (hcases hr hr').2.2 }

/-- A container is begun, its items are copied to the levels that are left, and it is filled in. -/
theorem LevelStep.around {r : Ref} {value : Value} {steps : Nat} {items : List Ref}
    (hstep : LevelStep h v n (c.start r value).2 c₂) (hr : h.ReachesIn v steps r)
    (hn : steps + level + 1 = n) (hnone : c.known? r = none) (hvalue : value.isContainer = true)
    (hitems : List.Forall₂ (c₂.StandsAt h level) (h.children r) items) :
    LevelStep h v n c (c₂.fill ⟨c.heap.size⟩ ((h.value r).withItems items)) := by
  have hkept := kept_around hstep.kept ((h.value r).withItems items)
  have hfill {level : Nat} {a a' : Ref} (ha : c₂.StandsAt h level a a') :=
    ha.fill hstep.kept hvalue ((h.value r).withItems items)
  have hsize := hstep.kept.size
  rw [size_start] at hsize
  have hcases {s x : Ref} (hs : c.known? s = none) (hs' : c₂.known? s = some x) :
      c.heap.size ≤ x.index ∧ x.index < c₂.heap.size ∧
        (c₂.fill ⟨c.heap.size⟩ ((h.value r).withItems items)).CompleteTo h v n s x := by
    have hstart := known?_start c r s value
    split at hstart
    · rename_i hrs
      subst hrs
      have hx := hstep.known hstart
      rw [hs'] at hx
      cases hx
      refine ⟨Nat.le_refl _, hsize, steps, level, items, hn, hr, ?_, hitems.imp fun _ _ => hfill⟩
      exact (cell_fill hstep.kept _ _).trans (if_pos rfl)
    · have hs₁ := hstart.trans hs
      have hnew := hstep.new hs₁ hs'
      rw [size_start] at hnew
      obtain ⟨steps', level', items', hn', hreach, hcell, hitems'⟩ := hstep.complete hs₁ hs'
      have hne : x ≠ ⟨c.heap.size⟩ := by
        rintro rfl
        exact Nat.not_succ_le_self _ hnew.1
      refine ⟨by omega, hnew.2, steps', level', items', hn', hreach, ?_,
        hitems'.imp fun _ _ => hfill⟩
      rw [cell_fill hstep.kept, if_neg hne]
      exact hcell
  have hfilled : (c₂.fill ⟨c.heap.size⟩ ((h.value r).withItems items)).heap.size = c₂.heap.size :=
    Heap.size_setValue _ _ _
  refine ⟨hkept, ?_, ?_, fun hs hs' => (hcases hs hs').2.2⟩
  · intro s x hs
    have hrs : r ≠ s := by
      rintro rfl
      rw [hnone] at hs
      cases hs
    exact hstep.known (((known?_start c r s value).trans (if_neg hrs)).trans hs)
  · intro s x hs hs'
    have hx := hcases hs hs'
    exact ⟨hx.1, Nat.lt_of_lt_of_eq hx.2.1 hfilled.symm⟩

/-! ## The search -/

/-- A computation copies an object with so many levels left. -/
def CopiesTo (h : Heap) (v : Ref) (n level : Nat) (copy : Ref → Copying → Ref × Copying)
    (r : Ref) : Prop :=
  ∀ c, h.Kept c.heap →
    LevelStep h v n c (copy r c).2 ∧ (copy r c).2.StandsAt h level r (copy r c).1

theorem mapThread_copiesTo {copy : Ref → Copying → Ref × Copying} {items : List Ref}
    (hcopy : ∀ r ∈ items, CopiesTo h v n level copy r) (hkept : h.Kept c.heap) :
    LevelStep h v n c (mapThread copy items c).2 ∧
      List.Forall₂ ((mapThread copy items c).2.StandsAt h level) items
        (mapThread copy items c).1 := by
  induction items generalizing c with
  | nil => exact ⟨.of_memo (Heap.kept_extending.refl _) rfl, .nil⟩
  | cons r rest ih =>
      obtain ⟨hfirst, hstands⟩ := hcopy r List.mem_cons_self c hkept
      obtain ⟨hrest, hitems⟩ := ih (fun s hs => hcopy s (List.mem_cons_of_mem r hs))
        (Heap.kept_extending.trans hkept hfirst.kept)
      exact ⟨hfirst.trans hrest, .cons (hstands.mono hrest.kept hrest.known) hitems⟩

/-- The steps made and the levels left always add up to the level of the whole copy. -/
theorem copyTo_copiesTo (hin : ∀ r, h.Reaches v r → r.index < h.size) (level : Nat) {r : Ref}
    {steps : Nat} (hr : h.ReachesIn v steps r) (hn : steps + level = n) :
    CopiesTo h v n level (copyTo level) r := by
  induction level generalizing r steps with
  | zero => exact fun c _ => ⟨.of_memo (Heap.kept_extending.refl _) rfl, standsAt_zero.mpr rfl⟩
  | succ level ih =>
      intro c hkept
      have hvalue : c.heap.value r = h.value r := hkept.value (hin r hr.reaches)
      rw [standsAt_succ]
      by_cases hcontainer : (h.value r).isContainer = true
      · have hcontainer' : (c.heap.value r).isContainer = true := by
          rw [hvalue]
          exact hcontainer
        rcases hknown : c.known? r with _ | copy
        · have hbegun : ((h.value r).withItems []).isContainer = true := by
            rw [Value.isContainer_withItems]
            exact hcontainer
          have hbegunKept : h.Kept (c.start r ((h.value r).withItems [])).2.heap :=
            Heap.kept_extending.trans hkept (Heap.kept_extending.alloc c.heap _)
          have hchild : ∀ s ∈ h.children r, CopiesTo h v n level (copyTo level) s :=
            fun s hs => ih (hr.tail hs) (by omega)
          obtain ⟨hstep, hitems⟩ := mapThread_copiesTo hchild hbegunKept
          rw [copyTo_new hcontainer' hknown, hvalue, Heap.children_congr hvalue]
          refine ⟨hstep.around hr (by omega) hknown hbegun hitems, ?_⟩
          rw [Stands, if_pos hcontainer]
          exact hstep.known ((known?_start c r r _).trans (if_pos rfl))
        · rw [copyTo_known hcontainer' hknown]
          refine ⟨.of_memo (Heap.kept_extending.refl _) rfl, ?_⟩
          rw [Stands, if_pos hcontainer]
          exact hknown
      · have hplain : (h.value r).isContainer = false := Bool.eq_false_iff.2 hcontainer
        rw [copyTo_plain (by rw [hvalue]; exact hplain), hvalue]
        refine ⟨.of_memo (Heap.kept_extending.alloc c.heap _) rfl, ?_⟩
        rw [Stands, if_neg hcontainer]
        refine ⟨hkept.size, ?_, ?_⟩
        · exact Nat.lt_of_lt_of_eq (Nat.lt_succ_self _) (c.heap.size_alloc _).symm
        · exact (c.heap.cell_alloc _ _).trans (if_pos rfl)

end

end Copying

/-! ## Places of the original and of the copy -/

theorem getElem?_of_forall₂ {α β : Type} {R : α → β → Prop} {as : List α} {bs : List β}
    (h : List.Forall₂ R as bs) (i : Nat) : Option.Rel R as[i]? bs[i]? := by
  induction h generalizing i with
  | nil => exact .none
  | cons hab _ ih =>
      cases i with
      | zero => exact .some hab
      | succ i => exact ih i

/-- Only a List or a Dictionary has items to be replaced. -/
theorem Value.withItems_of_plain {v : Value} (hv : v.isContainer = false) (items : List Ref) :
    v.withItems items = v := by
  cases v with
  | list _ | dict _ => cases hv
  | number _ | float _ | string _ | funcref _ | blob _ => rfl

theorem Heap.children_of_plain {h : Heap} {r : Ref} (hr : (h.value r).isContainer = false) :
    h.children r = [] := by
  unfold children
  cases hv : h.value r with
  | list _ | dict _ =>
      rw [hv] at hr
      cases hr
  | number _ | float _ | string _ | funcref _ | blob _ => rfl

/-- What a copy to a level has in the place of an object: the object itself, or a new, unlocked one
of the same kind, with as many items and under the same keys. -/
def Mirrors (h h' : Heap) (r r' : Ref) : Prop :=
  r' = r ∨ (h.size ≤ r'.index ∧ r'.index < h'.size ∧ ∃ items : List Ref,
    items.length = (h.children r).length ∧ h'.cell r' = { value := (h.value r).withItems items })

theorem Mirrors.isContainer {h h' : Heap} {r r' : Ref} (hkept : h.Kept h')
    (hin : r.index < h.size) (hr : Mirrors h h' r r') :
    (h'.value r').isContainer = (h.value r).isContainer := by
  obtain rfl | ⟨-, -, items, -, hcell⟩ := hr
  · rw [hkept.value hin]
  · rw [← Value.isContainer_withItems (h.value r) items, Heap.value, hcell]

namespace Copying

section

variable {h : Heap} {v v' : Ref} {n : Nat} {c : Copying}

/-- What a finished copy has in the place of an object: the object itself, or what stands for it. -/
def Mirrored (h : Heap) (c : Copying) (r r' : Ref) : Prop := r' = r ∨ c.Stands h r r'

theorem StandsAt.mirrored {level : Nat} {r r' : Ref} (hs : c.StandsAt h level r r') :
    c.Mirrored h r r' := by
  cases level with
  | zero => exact .inl (standsAt_zero.mp hs)
  | succ level => exact .inr (standsAt_succ.mp hs)

variable (hcopied : LevelStep h v n { heap := h } c)
include hcopied

theorem LevelStep.of_known {r x : Ref} (hr : c.known? r = some x) :
    h.size ≤ x.index ∧ x.index < c.heap.size ∧ c.CompleteTo h v n r x :=
  have hnone : ({ heap := h } : Copying).known? r = none := rfl
  have hnew := hcopied.new hnone hr
  ⟨hnew.1, hnew.2, hcopied.complete hnone hr⟩

/-- What has been found in a copy under way is filled in once it is finished. -/
theorem LevelStep.mirrors {r r' : Ref} (hr : c.Mirrored h r r') : Mirrors h c.heap r r' := by
  rcases hr with rfl | hr
  · exact .inl rfl
  unfold Stands at hr
  split at hr
  · obtain ⟨hnew, hin, _, _, items, _, _, hcell, hitems⟩ := hcopied.of_known hr
    exact .inr ⟨hnew, hin, items, hitems.length_eq.symm, hcell⟩
  · rename_i hplain
    refine .inr ⟨hr.1, hr.2.1, h.children r, rfl, hr.2.2.trans ?_⟩
    rw [Value.withItems_of_plain (Bool.eq_false_iff.2 hplain)]

/-- The items of what stands for an object mirror those of the object. -/
theorem LevelStep.children_mirrored {r r' : Ref} (hin : r.index < h.size)
    (hr : c.Mirrored h r r') :
    List.Forall₂ (c.Mirrored h) (h.children r) (c.heap.children r') := by
  rcases hr with rfl | hr
  · rw [Heap.children_congr (hcopied.kept.value hin)]
    exact List.forall₂_same.mpr fun _ _ => .inl rfl
  unfold Stands at hr
  split at hr
  · rename_i hcontainer
    obtain ⟨_, _, _, _, items, _, _, hcell, hitems⟩ := hcopied.of_known hr
    have hchildren : c.heap.children r' = items :=
      Heap.children_withItems hcontainer (congrArg Cell.value hcell) hitems.length_eq
    rw [hchildren]
    exact hitems.imp fun _ _ => StandsAt.mirrored
  · rename_i hplain
    have hvalue : c.heap.value r' = h.value r := by rw [Heap.value, hr.2.2]
    have hnone : h.children r = [] := Heap.children_of_plain (Bool.eq_false_iff.2 hplain)
    rw [Heap.children_congr hvalue, hnone]
    exact .nil

variable (hin : ∀ r, h.Reaches v r → r.index < h.size)
include hin

theorem LevelStep.objectAt?_mirrored {r r' : Ref} (path : List Nat) (hreach : h.Reaches v r)
    (hr : c.Mirrored h r r') :
    Option.Rel (c.Mirrored h) (h.objectAt? r path) (c.heap.objectAt? r' path) := by
  induction path generalizing r r' with
  | nil => exact .some hr
  | cons i path ih =>
      have hitems := hcopied.children_mirrored (hin r hreach) hr
      simp only [Heap.objectAt?]
      have hitem := getElem?_of_forall₂ hitems i
      have hchild : ∀ s, (h.children r)[i]? = some s → h.Reaches v s := fun s hs =>
        hreach.tail (List.mem_of_getElem? hs)
      generalize (h.children r)[i]? = item at hitem hchild
      generalize (c.heap.children r')[i]? = item' at hitem
      cases hitem with
      | none => exact .none
      | some hmirrored => exact ih (hchild _ rfl) hmirrored

omit hin in
/-- Where no way of `n - 1` steps and no shorter one lead to the same container of containers, the
copies of all Lists and Dictionaries fewer than `n` steps away have been begun. -/
theorem LevelStep.known_of_objectAt? {path : List Nat} {r r' : Ref}
    (hroot : c.known? v = some v')
    (hno : ∀ r s steps, h.ReachesIn v (n - 1) r → steps < n - 1 → h.ReachesIn v steps r →
      s ∈ h.children r → (h.value s).isContainer = true → False)
    (hpath : path.length < n) (hr : h.objectAt? v path = some r)
    (hr' : c.heap.objectAt? v' path = some r') (hcontainer : (h.value r).isContainer = true) :
    c.known? r = some r' := by
  induction path using List.reverseRecOn generalizing r r' with
  | nil =>
      cases hr
      cases hr'
      exact hroot
  | append_singleton path i ih =>
      rw [List.length_append, List.length_singleton] at hpath
      rw [Heap.objectAt?_snoc] at hr hr'
      obtain ⟨p, hp, hi⟩ := Option.bind_eq_some_iff.mp hr
      obtain ⟨p', hp', hi'⟩ := Option.bind_eq_some_iff.mp hr'
      have hmem := List.mem_of_getElem? hi
      have hholder := Heap.isContainer_of_mem_children hmem
      have hknown := ih (by omega) hp hp' hholder
      obtain ⟨-, -, steps, level, items, hn, hreach, hcell, hitems⟩ := hcopied.of_known hknown
      have hchildren : c.heap.children p' = items :=
        Heap.children_withItems hholder (congrArg Cell.value hcell) hitems.length_eq
      have hitem := getElem?_of_forall₂ hitems i
      rw [hi, ← hchildren, hi'] at hitem
      -- a level must be left for the items, or else the last step leads to them as well
      obtain _ | level := level
      · obtain rfl : steps = n - 1 := by omega
        exact (hno p r path.length hreach (by omega) ⟨path, rfl, hp⟩ hmem hcontainer).elim
      · cases hitem with
        | some hstands =>
            rw [standsAt_succ, Stands, if_pos hcontainer] at hstands
            exact hstands

end

end Copying

/-! ## Exact copies -/

/-- A copy is new up to a level: each of its Lists and Dictionaries that is fewer steps away is new,
and each that is exactly so many steps away is the one in this place of the original. -/
structure ExactTo (h : Heap) (v : Ref) (n : Nat) (h' : Heap) (v' : Ref) : Prop where
  new (path : List Nat) (r' : Ref) : path.length < n → h'.objectAt? v' path = some r' →
    (h'.value r').isContainer = true → h.size ≤ r'.index ∧ r'.index < h'.size
  shared (path : List Nat) (r' : Ref) : path.length = n → h'.objectAt? v' path = some r' →
    (h'.value r').isContainer = true → h.objectAt? v path = some r'

namespace Heap

/-- A container of containers can be reached in the last step before the level and in fewer. -/
def MeetsAgain (h : Heap) (v : Ref) (n : Nat) : Prop :=
  ∃ r s steps, h.ReachesIn v (n - 1) r ∧ steps < n - 1 ∧ h.ReachesIn v steps r ∧
    s ∈ h.children r ∧ (h.value s).isContainer = true

theorem ReachesIn.rank_eq {h : Heap} {v r : Ref} {rank : Ref → Nat} {steps : Nat}
    (hrank : ∀ r s, s ∈ h.children r → rank s = rank r + 1) (hr : h.ReachesIn v steps r) :
    rank r = rank v + steps := by
  obtain ⟨path, rfl, hpath⟩ := hr
  induction path generalizing v with
  | nil =>
      cases hpath
      rfl
  | cons i path ih =>
      obtain ⟨s, hs, hpath⟩ := Option.bind_eq_some_iff.mp hpath
      rw [ih hpath, hrank v s (List.mem_of_getElem? hs), List.length_cons]
      omega

/-- Where all ways to an object have the same length, however much is shared, nothing is met again
at another level. -/
theorem not_meetsAgain_of_rank {h : Heap} {rank : Ref → Nat}
    (hrank : ∀ r s, s ∈ h.children r → rank s = rank r + 1) (v : Ref) (n : Nat) :
    ¬h.MeetsAgain v n := by
  rintro ⟨r, -, steps, hlast, hless, hreach, -, -⟩
  have hlong := hlast.rank_eq hrank
  have hshort := hreach.rank_eq hrank
  omega

end Heap

section

open Copying

variable {h : Heap} {v v' : Ref} {n : Nat} {c : Copying}
  (hcopied : LevelStep h v n { heap := h } c)
  (hin : ∀ r, h.Reaches v r → r.index < h.size) (hroot : c.known? v = some v')
include hcopied hin hroot

/-- Every place of the copy mirrors that of the original. -/
theorem Copying.LevelStep.place (hv : (h.value v).isContainer = true) (path : List Nat) :
    Option.Rel (c.Mirrored h) (h.objectAt? v path) (c.heap.objectAt? v' path) := by
  refine hcopied.objectAt?_mirrored hin path .refl (.inr ?_)
  rw [Stands, if_pos hv]
  exact hroot

/-- A List or Dictionary of the copy stands in the place of one of the original. -/
theorem Copying.LevelStep.original (hv : (h.value v).isContainer = true) {path : List Nat}
    {r' : Ref} (hr' : c.heap.objectAt? v' path = some r')
    (hcontainer' : (c.heap.value r').isContainer = true) :
    ∃ r, h.objectAt? v path = some r ∧ c.Mirrored h r r' ∧ (h.value r).isContainer = true := by
  have hplace := hcopied.place hin hroot hv path
  rw [hr'] at hplace
  rcases hr : h.objectAt? v path with _ | r <;> rw [hr] at hplace
  · cases hplace
  cases hplace with
  | some hmirrored =>
      have hrin := hin r (Heap.reaches_of_objectAt? hr)
      have hsame := (hcopied.mirrors hmirrored).isContainer hcopied.kept hrin
      exact ⟨r, rfl, hmirrored, hsame.symm.trans hcontainer'⟩

theorem Copying.exactTo_of_not_meetsAgain (hv : (h.value v).isContainer = true) (hn : 0 < n)
    (hno : ¬h.MeetsAgain v n) : ExactTo h v n c.heap v' := by
  have hknown : ∀ {path : List Nat} {r r' : Ref}, path.length < n →
      h.objectAt? v path = some r → c.heap.objectAt? v' path = some r' →
      (h.value r).isContainer = true → c.known? r = some r' :=
    hcopied.known_of_objectAt? hroot fun r s steps hlast hless hreach hs hcontainer =>
      hno ⟨r, s, steps, hlast, hless, hreach, hs, hcontainer⟩
  constructor
  · intro path r' hpath hr' hcontainer'
    obtain ⟨r, hr, -, hcontainer⟩ := hcopied.original hin hroot hv hr' hcontainer'
    obtain ⟨hnew, hbound, -⟩ := hcopied.of_known (hknown hpath hr hr' hcontainer)
    exact ⟨hnew, hbound⟩
  · intro path s' hpath hs' hcontainer'
    obtain ⟨s, hs, -, hcontainer⟩ := hcopied.original hin hroot hv hs' hcontainer'
    rcases List.eq_nil_or_concat path with rfl | ⟨path, i, rfl⟩
    · rw [List.length_nil] at hpath
      omega
    rw [List.concat_eq_append] at hpath hs hs' ⊢
    rw [List.length_append, List.length_singleton] at hpath
    rw [hs]
    rw [Heap.objectAt?_snoc] at hs hs'
    obtain ⟨p, hp, hi⟩ := Option.bind_eq_some_iff.mp hs
    obtain ⟨p', hp', hi'⟩ := Option.bind_eq_some_iff.mp hs'
    have hmem := List.mem_of_getElem? hi
    have hholder := Heap.isContainer_of_mem_children hmem
    obtain ⟨-, -, steps, level, items, hsteps, hreach, hcell, hitems⟩ :=
      hcopied.of_known (hknown (by omega) hp hp' hholder)
    have hchildren : c.heap.children p' = items :=
      Heap.children_withItems hholder (congrArg Cell.value hcell) hitems.length_eq
    have hitem := getElem?_of_forall₂ hitems i
    rw [hi, ← hchildren, hi'] at hitem
    cases hitem with
    | some hstands =>
        obtain _ | level := level
        · rw [standsAt_zero.mp hstands]
        · have hlast : h.ReachesIn v (n - 1) p := ⟨path, by omega, hp⟩
          exact (hno ⟨p, s, steps, hlast, by omega, hreach, hmem, hcontainer⟩).elim

/-- One copy of a container cannot hold both a new List or Dictionary and the one that was there. -/
theorem Copying.not_meetsAgain_of_exactTo (hv : (h.value v).isContainer = true)
    (hexact : ExactTo h v n c.heap v') : ¬h.MeetsAgain v n := by
  rintro ⟨r, s, steps, ⟨p, hplength, hp⟩, hless, ⟨q, hqlength, hq⟩, hs, hcontainer⟩
  obtain ⟨i, hi⟩ := List.mem_iff_getElem?.mp hs
  have hholder := Heap.isContainer_of_mem_children hs
  have hsin := hin s ((Heap.reaches_of_objectAt? hp).tail hs)
  -- at the end of either path there is the copy of `r`
  have hknown : ∀ path, path.length < n → h.objectAt? v path = some r →
      ∃ x, c.heap.objectAt? v' path = some x ∧ c.known? r = some x := by
    intro path hpath hr
    have hplace := hcopied.place hin hroot hv path
    rw [hr] at hplace
    rcases hr' : c.heap.objectAt? v' path with _ | x <;> rw [hr'] at hplace
    · cases hplace
    cases hplace with
    | some hmirrored =>
        have hrin := hin r (Heap.reaches_of_objectAt? hr)
        have hsame := (hcopied.mirrors hmirrored).isContainer hcopied.kept hrin
        have hnew := hexact.new path x hpath hr' (hsame.trans hholder)
        obtain rfl | hstands := hmirrored
        · exact absurd hrin (Nat.not_lt.mpr hnew.1)
        · rw [Stands, if_pos hholder] at hstands
          exact ⟨x, rfl, hstands⟩
  obtain ⟨x, hpx, hx⟩ := hknown p (by omega) hp
  obtain ⟨y, hqy, hy⟩ := hknown q (by omega) hq
  obtain rfl : x = y := Option.some.inj (hx.symm.trans hy)
  have hsp : h.objectAt? v (p ++ [i]) = some s := by rw [Heap.objectAt?_snoc, hp]; exact hi
  have hplace := hcopied.place hin hroot hv (p ++ [i])
  rw [hsp] at hplace
  rcases hs' : c.heap.objectAt? v' (p ++ [i]) with _ | s' <;> rw [hs'] at hplace
  · cases hplace
  cases hplace with
  | some hmirrored =>
      have hcontainer' := (hcopied.mirrors hmirrored).isContainer hcopied.kept hsin
      rw [hcontainer] at hcontainer'
      have hshared := hexact.shared (p ++ [i]) s' (by simp; omega) hs' hcontainer'
      rw [hsp] at hshared
      cases hshared
      have hsq : c.heap.objectAt? v' (q ++ [i]) = some s := by
        rw [Heap.objectAt?_snoc, hpx] at hs'
        rw [Heap.objectAt?_snoc, hqy]
        exact hs'
      have hnew := hexact.new (q ++ [i]) s (by simp; omega) hsq hcontainer'
      exact absurd hsin (Nat.not_lt.mpr hnew.1)

end

/-- A copy of a List or Dictionary to a level changes no object and has the same places as the
original. It is new up to the level and shared from there on just when no List or Dictionary that
holds further ones can be reached both in the last step before the level and in fewer steps. -/
theorem copy_exact_iff (h : Heap) (v : Ref) (level : Int)
    (hin : ∀ r, h.Reaches v r → r.index < h.size) (hv : (h.value v).isContainer = true)
    (hlevel : 1 ≤ level) :
    ∃ v' h', Op.copy level v h = (.ok v', h') ∧ h.Kept h' ∧
      (∀ path, Option.Rel (Mirrors h h') (h.objectAt? v path) (h'.objectAt? v' path)) ∧
      (ExactTo h v level.toNat h' v' ↔ ¬h.MeetsAgain v level.toNat) := by
  have hpos : 0 < level.toNat := by omega
  obtain ⟨hcopied, hstands⟩ := Copying.copyTo_copiesTo hin level.toNat (.start h v)
    (Nat.zero_add _) { heap := h } (Heap.kept_extending.refl h)
  have hroot : (copyTo level.toNat v { heap := h }).2.known? v =
      some (copyTo level.toNat v { heap := h }).1 := by
    obtain ⟨n, hn⟩ := Nat.exists_eq_add_one_of_ne_zero (Nat.ne_of_gt hpos)
    rw [hn] at hstands ⊢
    rw [Copying.standsAt_succ, Copying.Stands, if_pos hv] at hstands
    exact hstands
  refine ⟨_, _, rfl, hcopied.kept, ?_, ?_, ?_⟩
  · intro path
    have hplace := hcopied.place hin hroot hv path
    generalize h.objectAt? v path = r at hplace
    generalize (copyTo level.toNat v { heap := h }).2.heap.objectAt? _ path = r' at hplace
    cases hplace with
    | none => exact .none
    | some hmirrored => exact .some (hcopied.mirrors hmirrored)
  · exact Copying.not_meetsAgain_of_exactTo hcopied hin hroot hv
  · exact Copying.exactTo_of_not_meetsAgain hcopied hin hroot hv hpos

/-- Two Lists that hold the same List of an empty List, and a List of the two. -/
def diamond : Heap where
  cells := #[{ value := .list [⟨1⟩, ⟨2⟩] }, { value := .list [⟨3⟩] }, { value := .list [⟨3⟩] },
    { value := .list [⟨4⟩] }, { value := .list [] }]

/-- How many steps each object of the diamond is away from the first. -/
def diamondRank (r : Ref) : Nat := [0, 1, 1, 2, 3].getD r.index 0

theorem diamond_rank {r s : Ref} (hs : s ∈ diamond.children r) :
    diamondRank s = diamondRank r + 1 ∧ s.index < 5 := by
  have hall : ∀ i < 5, ∀ s ∈ diamond.children ⟨i⟩,
      diamondRank s = diamondRank ⟨i⟩ + 1 ∧ s.index < 5 := by decide
  exact hall r.index (Heap.index_lt_of_mem_children hs) s hs

/-- A copy of the diamond to the third level is new down to the List that is shared, and has the
empty List itself in there. -/
theorem diamond_copied :
    ∃ v' h', Op.copy 3 ⟨0⟩ diamond = (.ok v', h') ∧ diamond.Kept h' ∧
      (∀ path, Option.Rel (Mirrors diamond h') (diamond.objectAt? ⟨0⟩ path)
        (h'.objectAt? v' path)) ∧
      ExactTo diamond ⟨0⟩ 3 h' v' := by
  have hin : ∀ r, diamond.Reaches ⟨0⟩ r → r.index < diamond.size := by
    intro r hr
    cases hr with
    | refl => decide
    | tail _ hs => exact (diamond_rank hs).2
  obtain ⟨v', h', hcopy, hkept, hplaces, hexact⟩ := copy_exact_iff diamond ⟨0⟩ 3 hin rfl (by decide)
  have hno : ¬diamond.MeetsAgain ⟨0⟩ 3 :=
    Heap.not_meetsAgain_of_rank (fun _ _ hs => (diamond_rank hs).1) ⟨0⟩ 3
  exact ⟨v', h', hcopy, hkept, hplaces, hexact.mpr hno⟩

/-- A List that holds a List of an empty List twice: first inside a further List, then directly. -/
def metTwice : Heap where
  cells := #[{ value := .list [⟨1⟩, ⟨2⟩] }, { value := .list [⟨2⟩] }, { value := .list [⟨3⟩] },
    { value := .list [] }]

/-- A copy to the third level has the empty List itself only two steps away: no level was left for
it when the List around it was met first. -/
theorem metTwice_shared_early :
    metTwice.Acyclic ⟨0⟩ ∧ ∃ v' h', Op.copy 3 ⟨0⟩ metTwice = (.ok v', h') ∧
      h'.objectAt? v' [1, 0] = some ⟨3⟩ ∧ ¬ExactTo metTwice ⟨0⟩ 3 h' v' := by
  refine ⟨Heap.acyclic_of_forward (by decide) _, _, _, rfl, rfl, fun hexact => ?_⟩
  have hnew := hexact.new [1, 0] ⟨3⟩ (by decide) rfl rfl
  exact absurd hnew.1 (by decide)

end Vimscript
