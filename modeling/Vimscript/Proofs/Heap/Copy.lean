import Mathlib.Data.List.Forall2
import Mathlib.Data.Set.Card
import Mathlib.Data.Set.Function
import Mathlib.Logic.Relation
import Mathlib.Order.Interval.Set.Nat
import Vimscript.Proofs.Heap.Keeping

/-!
# Copies of whole graphs

The Lists and Dictionaries that can be reached from a value form a graph, in
which objects may be shared and may hold themselves. A copy to a level that
exceeds their number reproduces the graph.

The copying is a search with a memo, and at any moment some copies are still
empty: those of the objects on the path from the root. What a stretch of
the search does is therefore told relative to its start (`Copying.Step`):
every object that was there is as it was, and every copy begun since is
complete. A copy that was begun before may still be empty, and the stretch
says nothing about it; when the search comes back to fill it in, that
changes no object that was there when it was begun. So steps can be put
one after another, and around each other (`Copying.Step.around`).

The level is never used up, because along the path no object occurs twice:
each object on it is one less that is not yet known.
-/

namespace Vimscript

/-! ## Containers -/

namespace Value

/-- Whether a value is a List or a Dictionary. -/
def isContainer : Value → Bool
  | list _ | dict _ => true
  | _ => false

/-- A List or Dictionary with other items; a Dictionary keeps its keys. -/
def withItems : Value → List Ref → Value
  | list _, items => .list items
  | dict t, items => .dict { entries := t.keys.zip items }
  | v, _ => v

theorem isContainer_withItems (v : Value) (items : List Ref) :
    (v.withItems items).isContainer = v.isContainer := by
  cases v <;> rfl

end Value

theorem Ref.index_injective : Function.Injective Ref.index := by
  rintro ⟨i⟩ ⟨j⟩ rfl
  rfl

namespace Heap

/-- From one object another can be reached through items and entries. -/
def Reaches (h : Heap) : Ref → Ref → Prop := Relation.ReflTransGen fun r s => s ∈ h.children r

/-- The Lists and Dictionaries that can be reached from an object. -/
def containers (h : Heap) (v : Ref) : Set Ref :=
  {r | h.Reaches v r ∧ (h.value r).isContainer = true}

theorem isContainer_of_mem_children {h : Heap} {r s : Ref} (hs : s ∈ h.children r) :
    (h.value r).isContainer = true := by
  unfold children at hs
  cases hv : h.value r with
  | list _ | dict _ => rfl
  | number _ | float _ | string _ | funcref _ | blob _ =>
      rw [hv] at hs
      cases hs

theorem children_congr {h h' : Heap} {r r' : Ref} (hv : h'.value r' = h.value r) :
    h'.children r' = h.children r := by
  unfold children
  rw [hv]

/-- The objects that can be reached, when they are all there, are finitely many. -/
theorem finite_containers {h : Heap} {v : Ref} (hin : ∀ r, h.Reaches v r → r.index < h.size) :
    (h.containers v).Finite :=
  ((Set.finite_lt_nat h.size).preimage Ref.index_injective.injOn).subset fun r hr => hin r hr.1

theorem ncard_containers_le {h : Heap} {v : Ref}
    (hin : ∀ r, h.Reaches v r → r.index < h.size) : (h.containers v).ncard ≤ h.size := by
  calc (h.containers v).ncard
      ≤ {i | i < h.size}.ncard :=
        Set.ncard_le_ncard_of_injOn Ref.index (fun r hr => hin r hr.1) Ref.index_injective.injOn
          (Set.finite_lt_nat h.size)
    _ = h.size := Set.ncard_Iio_nat h.size

end Heap

/-! ## What copying computes -/

section

variable {level : Nat} {r : Ref} {c : Copying}

theorem copyTo_plain (hv : (c.heap.value r).isContainer = false) :
    copyTo (level + 1) r c = c.alloc (c.heap.value r) := by
  rw [copyTo]
  cases hr : c.heap.value r with
  | list _ | dict _ =>
      rw [hr] at hv
      cases hv
  | number _ | float _ | string _ | funcref _ | blob _ => rfl

theorem copyTo_known {copy : Ref} (hv : (c.heap.value r).isContainer = true)
    (hk : c.known? r = some copy) : copyTo (level + 1) r c = (copy, c) := by
  rw [copyTo]
  cases hr : c.heap.value r with
  | list _ | dict _ => simp only [hk]
  | number _ | float _ | string _ | funcref _ | blob _ =>
      rw [hr] at hv
      cases hv

/-- A container that is not known yet is begun without items, and filled in when its items have
been copied. -/
theorem copyTo_new (hv : (c.heap.value r).isContainer = true) (hk : c.known? r = none) :
    copyTo (level + 1) r c =
      let begun := c.start r ((c.heap.value r).withItems [])
      let copied := mapThread (copyTo level) (c.heap.children r) begun.2
      (begun.1, copied.2.fill begun.1 ((c.heap.value r).withItems copied.1)) := by
  rw [copyTo]
  cases hr : c.heap.value r with
  | list items =>
      simp only [hk, Heap.children, hr]
      rfl
  | dict t =>
      simp only [hk, Heap.children, hr, Value.withItems, List.zip_nil_right]
  | number _ | float _ | string _ | funcref _ | blob _ =>
      rw [hr] at hv
      cases hv

end

namespace Copying

theorem known?_start (c : Copying) (r s : Ref) (v : Value) :
    (c.start r v).2.known? s = if r = s then some ⟨c.heap.size⟩ else c.known? s := by
  unfold known? start alloc
  by_cases hrs : r = s
  · simp only [hrs, List.find?_cons, beq_self_eq_true]
    rfl
  · have hne : (r == s) = false := beq_false_of_ne hrs
    simp only [List.find?_cons, hne, if_neg hrs]

/-! ## Stretches of the search -/

/-- An object stands for another in a copy under way: for a List or Dictionary the copy that is
known, and for any other value a new, unlocked object that holds the same. -/
def Stands (h : Heap) (c : Copying) (r r' : Ref) : Prop :=
  if (h.value r).isContainer = true then c.known? r = some r'
  else h.size ≤ r'.index ∧ r'.index < c.heap.size ∧ c.heap.cell r' = { value := h.value r }

/-- The copy of a List or Dictionary is filled in. -/
def Complete (h : Heap) (c : Copying) (r r' : Ref) : Prop :=
  ∃ items, c.heap.cell r' = { value := (h.value r).withItems items } ∧
    List.Forall₂ (c.Stands h) (h.children r) items

/-- What a stretch of the search for the containers of `v` does. -/
structure Step (h : Heap) (v : Ref) (c c' : Copying) : Prop where
  kept : c.heap.Kept c'.heap
  known {r x : Ref} : c.known? r = some x → c'.known? r = some x
  mem {r x : Ref} : c.known? r = none → c'.known? r = some x → r ∈ h.containers v
  new {r x : Ref} : c.known? r = none → c'.known? r = some x →
    c.heap.size ≤ x.index ∧ x.index < c'.heap.size
  complete {r x : Ref} : c.known? r = none → c'.known? r = some x → c'.Complete h r x
  injective {r s x : Ref} : c.known? r = none → c'.known? r = some x →
    c.known? s = none → c'.known? s = some x → r = s

section

variable {h : Heap} {v : Ref} {c c₁ c₂ : Copying}

/-- Objects that are nobody's copy may be made at any time. -/
theorem Step.of_memo (hkept : c.heap.Kept c₁.heap) (hmemo : c₁.memo = c.memo) : Step h v c c₁ := by
  have hknown (r : Ref) : c₁.known? r = c.known? r := by
    unfold known?
    rw [hmemo]
  have hnone {r x : Ref} (hr : c.known? r = none) (hr' : c₁.known? r = some x) : False := by
    rw [hknown, hr] at hr'
    cases hr'
  exact
    { kept := hkept
      known := fun hr => (hknown _).trans hr
      mem := fun hr hr' => (hnone hr hr').elim
      new := fun hr hr' => (hnone hr hr').elim
      complete := fun hr hr' => (hnone hr hr').elim
      injective := fun hr hr' => (hnone hr hr').elim }

theorem Stands.mono (hkept : c.heap.Kept c₁.heap)
    (hknown : ∀ {r x : Ref}, c.known? r = some x → c₁.known? r = some x) {r r' : Ref}
    (hs : c.Stands h r r') : c₁.Stands h r r' := by
  unfold Stands at hs ⊢
  split
  · rename_i hr
    rw [if_pos hr] at hs
    exact hknown hs
  · rename_i hr
    rw [if_neg hr] at hs
    obtain ⟨hnew, hin, hcell⟩ := hs
    exact ⟨hnew, Nat.lt_of_lt_of_le hin hkept.size, (hkept.cell r' hin).trans hcell⟩

theorem Complete.mono (hstep : Step h v c c₁) {r x : Ref} (hx : x.index < c.heap.size)
    (hc : c.Complete h r x) : c₁.Complete h r x := by
  obtain ⟨items, hcell, hitems⟩ := hc
  refine ⟨items, (hstep.kept.cell x hx).trans hcell, hitems.imp fun _ _ => ?_⟩
  exact Stands.mono hstep.kept hstep.known

theorem Step.cases_known (h₁ : Step h v c c₁) (h₂ : Step h v c₁ c₂) {r x : Ref}
    (hnone : c.known? r = none) (hsome : c₂.known? r = some x) :
    (c₁.known? r = some x ∧ c.heap.size ≤ x.index ∧ x.index < c₁.heap.size) ∨
      (c₁.known? r = none ∧ c₁.heap.size ≤ x.index ∧ x.index < c₂.heap.size) := by
  rcases hmid : c₁.known? r with _ | y
  · exact .inr ⟨rfl, h₂.new hmid hsome⟩
  · obtain rfl : y = x := by
      have hy := h₂.known hmid
      rw [hsome] at hy
      exact (Option.some.inj hy).symm
    exact .inl ⟨rfl, h₁.new hnone hmid⟩

theorem Step.trans (h₁ : Step h v c c₁) (h₂ : Step h v c₁ c₂) : Step h v c c₂ where
  kept := Heap.kept_extending.trans h₁.kept h₂.kept
  known hk := h₂.known (h₁.known hk)
  mem hnone hsome := by
    obtain ⟨hmid, -⟩ | ⟨hmid, -⟩ := h₁.cases_known h₂ hnone hsome
    · exact h₁.mem hnone hmid
    · exact h₂.mem hmid hsome
  new hnone hsome := by
    have hsize := h₁.kept.size
    have hsize' := h₂.kept.size
    obtain ⟨-, hx⟩ | ⟨-, hx⟩ := h₁.cases_known h₂ hnone hsome <;> omega
  complete hnone hsome := by
    obtain ⟨hmid, -, hx⟩ | ⟨hmid, -⟩ := h₁.cases_known h₂ hnone hsome
    · exact (h₁.complete hnone hmid).mono h₂ hx
    · exact h₂.complete hmid hsome
  injective hr hr' hs hs' := by
    -- copies begun in different stretches differ, the first being older than the second
    obtain ⟨hmid, hx⟩ | ⟨hmid, hx⟩ := h₁.cases_known h₂ hr hr' <;>
      obtain ⟨hmid', hx'⟩ | ⟨hmid', hx'⟩ := h₁.cases_known h₂ hs hs'
    · exact h₁.injective hr hmid hs hmid'
    · omega
    · omega
    · exact h₂.injective hmid hr' hmid' hs'

/-! ## A container around its items -/

section

variable {r : Ref} {value : Value}

theorem size_start : (c.start r value).2.heap.size = c.heap.size + 1 :=
  c.heap.size_alloc value

/-- The copy that was begun is still empty when its items have been copied. -/
theorem cell_begun (hkept : (c.start r value).2.heap.Kept c₂.heap) :
    c₂.heap.cell ⟨c.heap.size⟩ = { value } := by
  have hin : c.heap.size < (c.start r value).2.heap.size := by
    rw [size_start]
    exact Nat.lt_succ_self _
  rw [hkept.cell ⟨c.heap.size⟩ hin]
  exact (c.heap.cell_alloc value ⟨c.heap.size⟩).trans (if_pos rfl)

theorem cell_fill (hkept : (c.start r value).2.heap.Kept c₂.heap) (value' : Value) (s : Ref) :
    (c₂.fill ⟨c.heap.size⟩ value').heap.cell s =
      if s = ⟨c.heap.size⟩ then { value := value' } else c₂.heap.cell s := by
  have hsize := hkept.size
  rw [size_start] at hsize
  change (c₂.heap.setValue ⟨c.heap.size⟩ value').cell s = _
  split
  · rename_i hs
    subst hs
    rw [Heap.cell_setValue_self c₂.heap value' (r := ⟨c.heap.size⟩) hsize, cell_begun hkept]
  · rename_i hs
    exact Heap.cell_setValue_of_ne _ _ hs

/-- What was there before a copy was begun is not touched when it is filled in. -/
theorem kept_around (hkept : (c.start r value).2.heap.Kept c₂.heap) (value' : Value) :
    c.heap.Kept (c₂.fill ⟨c.heap.size⟩ value').heap where
  size := by
    have hsize := hkept.size
    have hfill : (c₂.fill ⟨c.heap.size⟩ value').heap.size = c₂.heap.size :=
      Heap.size_setValue _ _ _
    rw [size_start] at hsize
    omega
  cell s hs := by
    have hne : s ≠ ⟨c.heap.size⟩ := by
      rintro rfl
      exact Nat.lt_irrefl _ hs
    have hs' : s.index < (c.start r value).2.heap.size := by
      rw [size_start]
      exact Nat.lt_succ_of_lt hs
    rw [cell_fill hkept, if_neg hne, hkept.cell s hs']
    exact (Heap.kept_extending.alloc c.heap value).cell s hs

/-- An object that holds anything but a container is not the copy that was begun, and stays as it
is when that is filled in. -/
theorem cell_fill_of_plain (hkept : (c.start r value).2.heap.Kept c₂.heap)
    (hvalue : value.isContainer = true) (value' : Value) {s : Ref} {plain : Value}
    (hplain : plain.isContainer = false) (hs : c₂.heap.cell s = { value := plain }) :
    (c₂.fill ⟨c.heap.size⟩ value').heap.cell s = { value := plain } := by
  have hne : s ≠ ⟨c.heap.size⟩ := by
    rintro rfl
    rw [cell_begun hkept] at hs
    rw [Cell.mk.inj hs |>.1, hplain] at hvalue
    cases hvalue
  rw [cell_fill hkept, if_neg hne]
  exact hs

/-- Filling in a copy does not touch what stands for anything. -/
theorem Stands.fill (hkept : (c.start r value).2.heap.Kept c₂.heap)
    (hvalue : value.isContainer = true) (value' : Value) {s s' : Ref} (hs : c₂.Stands h s s') :
    (c₂.fill ⟨c.heap.size⟩ value').Stands h s s' := by
  unfold Stands at hs ⊢
  split
  · rename_i hplain
    rw [if_pos hplain] at hs
    exact hs
  · rename_i hplain
    rw [if_neg hplain] at hs
    obtain ⟨hnew, hin, hcell⟩ := hs
    refine ⟨hnew, ?_, ?_⟩
    · exact Nat.lt_of_lt_of_eq hin (Heap.size_setValue _ _ _).symm
    · exact cell_fill_of_plain hkept hvalue value' (Bool.eq_false_iff.2 hplain) hcell

/-- What is known in the end and was not at first is the container itself, or a copy of it was begun
while its items were copied. -/
theorem known_around (hstep : Step h v (c.start r value).2 c₂) {s x : Ref}
    (hs : c.known? s = none) (hs' : c₂.known? s = some x) :
    (s = r ∧ x = ⟨c.heap.size⟩) ∨
      ((c.start r value).2.known? s = none ∧ c.heap.size + 1 ≤ x.index ∧
        x.index < c₂.heap.size) := by
  have hstart := known?_start c r s value
  split at hstart
  · rename_i hrs
    have hx := hstep.known hstart
    rw [hs'] at hx
    exact .inl ⟨hrs.symm, Option.some.inj hx⟩
  · have hnew := hstep.new (hstart.trans hs) hs'
    rw [size_start] at hnew
    exact .inr ⟨hstart.trans hs, hnew⟩

/-- A container is begun, its items are copied, and it is filled in. -/
theorem Step.around (hstep : Step h v (c.start r value).2 c₂) (hr : r ∈ h.containers v)
    (hnone : c.known? r = none) (hvalue : value.isContainer = true) {items : List Ref}
    (hitems : List.Forall₂ (c₂.Stands h) (h.children r) items) :
    Step h v c (c₂.fill ⟨c.heap.size⟩ ((h.value r).withItems items)) where
  kept := kept_around hstep.kept _
  known {s x} hs := by
    have hrs : r ≠ s := by
      rintro rfl
      rw [hnone] at hs
      cases hs
    exact hstep.known (((known?_start c r s value).trans (if_neg hrs)).trans hs)
  mem hs hs' := by
    obtain ⟨rfl, -⟩ | ⟨hunknown, -⟩ := known_around hstep hs hs'
    · exact hr
    · exact hstep.mem hunknown hs'
  new hs hs' := by
    have hsize := hstep.kept.size
    have hfill : (c₂.fill ⟨c.heap.size⟩ ((h.value r).withItems items)).heap.size = c₂.heap.size :=
      Heap.size_setValue _ _ _
    rw [size_start] at hsize
    obtain ⟨-, rfl⟩ | ⟨-, hx⟩ := known_around hstep hs hs'
    · exact ⟨Nat.le_refl _, Nat.lt_of_lt_of_eq hsize hfill.symm⟩
    · omega
  complete {s x} hs hs' := by
    have hfill {a a' : Ref} (ha : c₂.Stands h a a') := ha.fill hstep.kept hvalue
      ((h.value r).withItems items)
    obtain ⟨rfl, rfl⟩ | ⟨hunknown, hx⟩ := known_around hstep hs hs'
    · exact ⟨items, (cell_fill hstep.kept _ _).trans (if_pos rfl), hitems.imp fun _ _ => hfill⟩
    · obtain ⟨items', hcell, hitems'⟩ := hstep.complete hunknown hs'
      have hne : x ≠ ⟨c.heap.size⟩ := by
        rintro rfl
        exact Nat.not_succ_le_self _ hx.1
      refine ⟨items', ?_, hitems'.imp fun _ _ => hfill⟩
      rw [cell_fill hstep.kept, if_neg hne]
      exact hcell
  injective hs hx hs' hx' := by
    -- a copy begun while the items were copied is younger than that of the container
    obtain ⟨rfl, rfl⟩ | ⟨hunknown, hnew⟩ := known_around hstep hs hx <;>
      obtain ⟨rfl, heq⟩ | ⟨hunknown', hnew'⟩ := known_around hstep hs' hx'
    · rfl
    · exact absurd hnew'.1 (Nat.not_succ_le_self _)
    · subst heq
      exact absurd hnew.1 (Nat.not_succ_le_self _)
    · exact hstep.injective hunknown hx hunknown' hx'

end

/-! ## The search -/

/-- The containers of `v` that no copy has been begun of. -/
def unknown (h : Heap) (v : Ref) (c : Copying) : Set Ref :=
  {r | r ∈ h.containers v ∧ c.known? r = none}

theorem Step.unknown_subset (hstep : Step h v c c₁) : c₁.unknown h v ⊆ c.unknown h v := by
  rintro r ⟨hr, hnone⟩
  refine ⟨hr, ?_⟩
  rcases hk : c.known? r with _ | x
  · rfl
  · rw [hstep.known hk] at hnone
    cases hnone

section

variable (hin : ∀ r, h.Reaches v r → r.index < h.size)
include hin

theorem finite_unknown (c : Copying) : (c.unknown h v).Finite :=
  (Heap.finite_containers hin).subset fun _ hr => hr.1

theorem Step.ncard_unknown (hstep : Step h v c c₁) :
    (c₁.unknown h v).ncard ≤ (c.unknown h v).ncard :=
  Set.ncard_le_ncard hstep.unknown_subset (finite_unknown hin c)

theorem ncard_unknown_start {r : Ref} (hr : r ∈ c.unknown h v) (value : Value) :
    ((c.start r value).2.unknown h v).ncard < (c.unknown h v).ncard := by
  refine Set.ncard_lt_ncard ⟨?_, fun hsub => ?_⟩ (finite_unknown hin c)
  · rintro s ⟨hs, hnone⟩
    rw [known?_start] at hnone
    split at hnone
    · cases hnone
    · exact ⟨hs, hnone⟩
  · have hnone := (hsub hr).2
    rw [known?_start, if_pos rfl] at hnone
    cases hnone

/-- A computation copies an object in the course of a search that can go on for `level` steps. -/
def Copies (h : Heap) (v : Ref) (level : Nat) (copy : Ref → Copying → Ref × Copying) (r : Ref) :
    Prop :=
  ∀ c, h.Kept c.heap → (c.unknown h v).ncard < level →
    Step h v c (copy r c).2 ∧ (copy r c).2.Stands h r (copy r c).1

theorem mapThread_copies {level : Nat} {copy : Ref → Copying → Ref × Copying} {items : List Ref}
    (hcopy : ∀ r ∈ items, Copies h v level copy r) (hkept : h.Kept c.heap)
    (hlevel : (c.unknown h v).ncard < level) :
    Step h v c (mapThread copy items c).2 ∧
      List.Forall₂ ((mapThread copy items c).2.Stands h) items (mapThread copy items c).1 := by
  induction items generalizing c with
  | nil => exact ⟨.of_memo (Heap.kept_extending.refl _) rfl, .nil⟩
  | cons r rest ih =>
      obtain ⟨hfirst, hstands⟩ := hcopy r List.mem_cons_self c hkept hlevel
      have hlevel' := Nat.lt_of_le_of_lt (hfirst.ncard_unknown hin) hlevel
      obtain ⟨hrest, hitems⟩ := ih (fun s hs => hcopy s (List.mem_cons_of_mem r hs))
        (Heap.kept_extending.trans hkept hfirst.kept) hlevel'
      exact ⟨hfirst.trans hrest, .cons (hstands.mono hrest.kept hrest.known) hitems⟩

/-- The level is the number of containers the search may still come upon. -/
theorem copyTo_copies (level : Nat) {r : Ref} (hr : h.Reaches v r) :
    Copies h v level (copyTo level) r := by
  induction level generalizing r with
  | zero => exact fun c _ hlevel => absurd hlevel (Nat.not_lt_zero _)
  | succ level ih =>
      intro c hkept hlevel
      have hvalue : c.heap.value r = h.value r := hkept.value (hin r hr)
      by_cases hcontainer : (h.value r).isContainer = true
      · have hcontainer' : (c.heap.value r).isContainer = true := by
          rw [hvalue]
          exact hcontainer
        rcases hknown : c.known? r with _ | copy
        · have hmem : r ∈ c.unknown h v := ⟨⟨hr, hcontainer⟩, hknown⟩
          have hchildren : c.heap.children r = h.children r := Heap.children_congr hvalue
          have hbegun : ((h.value r).withItems []).isContainer = true := by
            rw [Value.isContainer_withItems]
            exact hcontainer
          let begun : Copying := (c.start r ((h.value r).withItems [])).2
          have hbegunKept : h.Kept begun.heap :=
            Heap.kept_extending.trans hkept (Heap.kept_extending.alloc c.heap _)
          have hless : (begun.unknown h v).ncard < level :=
            Nat.lt_of_lt_of_le (ncard_unknown_start hin hmem _) (Nat.le_of_lt_succ hlevel)
          have hchild : ∀ s ∈ h.children r, Copies h v level (copyTo level) s :=
            fun s hs => ih (hr.tail hs)
          obtain ⟨hstep, hitems⟩ := mapThread_copies hin hchild hbegunKept hless
          rw [copyTo_new hcontainer' hknown, hvalue, hchildren]
          refine ⟨hstep.around ⟨hr, hcontainer⟩ hknown hbegun hitems, ?_⟩
          rw [Stands, if_pos hcontainer]
          exact hstep.known ((known?_start c r r _).trans (if_pos rfl))
        · rw [copyTo_known hcontainer' hknown]
          refine ⟨.of_memo (Heap.kept_extending.refl _) rfl, ?_⟩
          rw [Stands, if_pos hcontainer]
          exact hknown
      · rw [copyTo_plain (by rw [hvalue]; exact Bool.eq_false_iff.2 hcontainer), hvalue]
        refine ⟨.of_memo (Heap.kept_extending.alloc c.heap _) rfl, ?_⟩
        rw [Stands, if_neg hcontainer]
        refine ⟨hkept.size, ?_, ?_⟩
        · exact Nat.lt_of_lt_of_eq (Nat.lt_succ_self _) (c.heap.size_alloc _).symm
        · exact (c.heap.cell_alloc _ _).trans (if_pos rfl)

end

end

end Copying

/-! ## The graph of a copy -/

/-- What may be found in a copy at the place of an object: the image of a List or Dictionary, or a
new, unlocked object that holds the same. -/
def Corresponds (φ : Ref → Ref) (h h' : Heap) (r r' : Ref) : Prop :=
  if (h.value r).isContainer = true then r' = φ r
  else h.size ≤ r'.index ∧ r'.index < h'.size ∧ h'.cell r' = { value := h.value r }

/-- Only a container's image is a container. -/
theorem Corresponds.of_isContainer {φ : Ref → Ref} {h h' : Heap} {r r' : Ref}
    (hcorr : Corresponds φ h h' r r') (hr' : (h'.value r').isContainer = true) :
    (h.value r).isContainer = true ∧ r' = φ r := by
  unfold Corresponds at hcorr
  split at hcorr
  · rename_i hr
    exact ⟨hr, hcorr⟩
  · rename_i hplain
    have hvalue : h'.value r' = h.value r := by
      rw [Heap.value, hcorr.2.2]
    rw [hvalue] at hr'
    exact absurd hr' hplain

/-- Every container that can be reached from `v` has an image of its own among the new objects, and
is there item by item. -/
structure Reproduced (φ : Ref → Ref) (h : Heap) (v : Ref) (h' : Heap) (v' : Ref) : Prop where
  root : Corresponds φ h h' v v'
  injective : Set.InjOn φ (h.containers v)
  new (r : Ref) : r ∈ h.containers v → h.size ≤ (φ r).index ∧ (φ r).index < h'.size
  items (r : Ref) : r ∈ h.containers v → ∃ items,
    h'.cell (φ r) = { value := (h.value r).withItems items } ∧
      List.Forall₂ (Corresponds φ h h') (h.children r) items

theorem exists_mem_of_forall₂ {α β : Type} {R : α → β → Prop} {as : List α} {bs : List β}
    (h : List.Forall₂ R as bs) {a : α} (ha : a ∈ as) : ∃ b ∈ bs, R a b := by
  induction h with
  | nil => cases ha
  | @cons a' b' as bs hab _ ih =>
      rcases List.mem_cons.1 ha with rfl | ha
      · exact ⟨b', List.mem_cons_self, hab⟩
      · obtain ⟨b, hb, hr⟩ := ih ha
        exact ⟨b, List.mem_cons_of_mem b' hb, hr⟩

theorem Table.values_zip {keys : List String} {values : List Ref}
    (h : keys.length = values.length) : Table.values { entries := keys.zip values } = values :=
  List.map_snd_zip (Nat.le_of_eq h.symm)

theorem Table.keys_zip {keys : List String} {values : List Ref}
    (h : keys.length = values.length) : Table.keys { entries := keys.zip values } = keys :=
  List.map_fst_zip (Nat.le_of_eq h)

/-- A container that is given as many items as it has holds these. -/
theorem Heap.children_withItems {h h' : Heap} {r r' : Ref} {items : List Ref}
    (hr : (h.value r).isContainer = true) (hvalue : h'.value r' = (h.value r).withItems items)
    (hlength : (h.children r).length = items.length) : h'.children r' = items := by
  unfold children at hlength ⊢
  rw [hvalue]
  cases hv : h.value r with
  | list _ => rfl
  | dict t =>
      rw [hv] at hlength
      refine Table.values_zip ?_
      simpa [Table.keys, Table.values, Entries.names] using hlength
  | number _ | float _ | string _ | funcref _ | blob _ =>
      rw [hv] at hr
      cases hr

namespace Reproduced

variable {φ : Ref → Ref} {h h' : Heap} {v v' : Ref} (hcopy : Reproduced φ h v h' v')
include hcopy

theorem value_eq {r : Ref} (hr : r ∈ h.containers v) :
    (h'.value (φ r)).isContainer = true ∧
      List.Forall₂ (Corresponds φ h h') (h.children r) (h'.children (φ r)) := by
  obtain ⟨items, hcell, hitems⟩ := hcopy.items r hr
  have hvalue : h'.value (φ r) = (h.value r).withItems items := congrArg Cell.value hcell
  rw [Heap.children_withItems hr.2 hvalue hitems.length_eq, hvalue, Value.isContainer_withItems]
  exact ⟨hr.2, hitems⟩

/-- Where the original leads to, the copy leads to something that corresponds. -/
theorem reaches {r : Ref} (hr : h.Reaches v r) :
    ∃ r', h'.Reaches v' r' ∧ Corresponds φ h h' r r' := by
  induction hr with
  | refl => exact ⟨v', .refl, hcopy.root⟩
  | @tail r s hr hs ih =>
      have hcontainer := Heap.isContainer_of_mem_children hs
      obtain ⟨r', hr', hcorr⟩ := ih
      rw [Corresponds, if_pos hcontainer] at hcorr
      subst hcorr
      have hitems := (hcopy.value_eq ⟨hr, hcontainer⟩).2
      obtain ⟨s', hs', hcorr⟩ := exists_mem_of_forall₂ hitems hs
      exact ⟨s', hr'.tail hs', hcorr⟩

/-- The copy leads nowhere else. -/
theorem reaches_back {r' : Ref} (hr' : h'.Reaches v' r') :
    ∃ r, h.Reaches v r ∧ Corresponds φ h h' r r' := by
  induction hr' with
  | refl => exact ⟨v, .refl, hcopy.root⟩
  | @tail r' s' hr' hs' ih =>
      obtain ⟨r, hr, hcorr⟩ := ih
      obtain ⟨hcontainer, rfl⟩ := hcorr.of_isContainer (Heap.isContainer_of_mem_children hs')
      have hitems := (hcopy.value_eq ⟨hr, hcontainer⟩).2
      obtain ⟨s, hs, hcorr⟩ := exists_mem_of_forall₂ hitems.flip hs'
      exact ⟨s, hr.tail hs, hcorr⟩

theorem bijOn : Set.BijOn φ (h.containers v) (h'.containers v') := by
  refine ⟨?_, hcopy.injective, ?_⟩
  · intro r hr
    obtain ⟨r', hr', hcorr⟩ := hcopy.reaches hr.1
    rw [Corresponds, if_pos hr.2] at hcorr
    subst hcorr
    exact ⟨hr', (hcopy.value_eq hr).1⟩
  · rintro r' ⟨hr', hcontainer⟩
    obtain ⟨r, hr, hcorr⟩ := hcopy.reaches_back hr'
    obtain ⟨hr'', rfl⟩ := hcorr.of_isContainer hcontainer
    exact ⟨r, ⟨hr, hr''⟩, rfl⟩

end Reproduced

/-! ## Deep copies -/

/-- A search that has begun with nothing known has found every container of its root. -/
theorem Copying.Step.known_of_mem {h : Heap} {v v' : Ref} {c c' : Copying}
    (hstep : Step h v c c') (hempty : ∀ r, c.known? r = none) (hroot : c'.Stands h v v') {r : Ref}
    (hr : r ∈ h.containers v) : ∃ x, c'.known? r = some x := by
  obtain ⟨hreach, hcontainer⟩ := hr
  -- each object on the way to `r` is a container, and a copy that is complete knows its items
  induction hreach with
  | refl =>
      rw [Stands, if_pos hcontainer] at hroot
      exact ⟨v', hroot⟩
  | @tail r s hr hs ih =>
      obtain ⟨x, hx⟩ := ih (Heap.isContainer_of_mem_children hs)
      obtain ⟨items, -, hitems⟩ := hstep.complete (hempty r) hx
      obtain ⟨s', -, hstands⟩ := exists_mem_of_forall₂ hitems hs
      rw [Stands, if_pos hcontainer] at hstands
      exact ⟨s', hstands⟩

/-- The images of such a search reproduce the graph. -/
theorem Copying.Step.reproduced {h : Heap} {v v' : Ref} {c c' : Copying} (hstep : Step h v c c')
    (hheap : c.heap = h) (hempty : ∀ r, c.known? r = none) (hroot : c'.Stands h v v') :
    Reproduced (fun r => (c'.known? r).getD r) h v c'.heap v' := by
  set φ : Ref → Ref := fun r => (c'.known? r).getD r
  have hknown {r : Ref} (hr : r ∈ h.containers v) : c'.known? r = some (φ r) := by
    obtain ⟨x, hx⟩ := hstep.known_of_mem hempty hroot hr
    simp only [φ, hx, Option.getD_some]
  have hstands {r r' : Ref} (hr : c'.Stands h r r') : Corresponds φ h c'.heap r r' := by
    unfold Stands at hr
    unfold Corresponds
    split
    · rename_i hcontainer
      rw [if_pos hcontainer] at hr
      simp only [φ, hr, Option.getD_some]
    · rename_i hplain
      rwa [if_neg hplain] at hr
  refine ⟨hstands hroot, ?_, ?_, ?_⟩
  · intro r hr s hs heq
    have hs' := hknown hs
    rw [← heq] at hs'
    exact hstep.injective (hempty r) (hknown hr) (hempty s) hs'
  · intro r hr
    have hnew := hstep.new (hempty r) (hknown hr)
    rwa [hheap] at hnew
  · intro r hr
    obtain ⟨items, hcell, hitems⟩ := hstep.complete (hempty r) (hknown hr)
    exact ⟨items, hcell, hitems.imp fun _ _ => hstands⟩

/-- What it means that `v'` is a copy of the whole graph under `v`, with `φ` taking each of its
Lists and Dictionaries to its copy. -/
structure DeepCopy (φ : Ref → Ref) (h : Heap) (v : Ref) (h' : Heap) (v' : Ref) : Prop where
  kept : h.Kept h'
  root : Corresponds φ h h' v v'
  bijective : Set.BijOn φ (h.containers v) (h'.containers v')
  new (r : Ref) : r ∈ h.containers v → h.size ≤ (φ r).index ∧ (φ r).index < h'.size
  unlocked (r : Ref) : r ∈ h.containers v → h'.isLocked (φ r) = false
  list (r : Ref) (items : List Ref) : r ∈ h.containers v → h.value r = .list items →
    ∃ items', h'.value (φ r) = .list items' ∧ List.Forall₂ (Corresponds φ h h') items items'
  dict (r : Ref) (t : Table) : r ∈ h.containers v → h.value r = .dict t →
    ∃ t', h'.value (φ r) = .dict t' ∧ t'.keys = t.keys ∧ t'.lockedNames = [] ∧
      List.Forall₂ (Corresponds φ h h') t.values t'.values

theorem Reproduced.deepCopy {φ : Ref → Ref} {h h' : Heap} {v v' : Ref}
    (hcopy : Reproduced φ h v h' v') (hkept : h.Kept h') : DeepCopy φ h v h' v' where
  kept := hkept
  root := hcopy.root
  bijective := hcopy.bijOn
  new := hcopy.new
  unlocked r hr := by
    obtain ⟨items, hcell, -⟩ := hcopy.items r hr
    rw [Heap.isLocked, hcell]
  list r items hr hvalue := by
    obtain ⟨items', hcell, hitems⟩ := hcopy.items r hr
    rw [Heap.children, hvalue] at hitems
    refine ⟨items', ?_, hitems⟩
    rw [Heap.value, hcell, hvalue]
    rfl
  dict r t hr hvalue := by
    obtain ⟨items, hcell, hitems⟩ := hcopy.items r hr
    rw [Heap.children, hvalue] at hitems
    have hlength : t.keys.length = items.length := by
      rw [← hitems.length_eq]
      simp [Table.keys, Table.values, Entries.names]
    refine ⟨{ entries := t.keys.zip items }, ?_, Table.keys_zip hlength, rfl, ?_⟩
    · rw [Heap.value, hcell, hvalue]
      rfl
    · rw [Table.values_zip hlength]
      exact hitems

/-- Copying a value to a level above the number of Lists and Dictionaries under it makes a copy of
the whole graph: shared objects are shared as before, cycles are closed as before, and no List or
Dictionary of the copy is one that was there. -/
theorem copy_preserves_graph (h : Heap) (v : Ref) (level : Int)
    (hin : ∀ r, h.Reaches v r → r.index < h.size)
    (hlevel : ((h.containers v).ncard : Int) < level) :
    ∃ v' h' φ, Op.copy level v h = (.ok v', h') ∧ DeepCopy φ h v h' v' ∧
      (∀ r ∈ h.containers v, ∀ s ∈ h.containers v, φ r = φ s ↔ r = s) ∧
      (∀ r ∈ h'.containers v', h.size ≤ r.index ∧ r ∉ h.containers v) := by
  have hunknown : (Copying.unknown h v { heap := h }).ncard < level.toNat := by
    have hsub : Copying.unknown h v { heap := h } ⊆ h.containers v := fun r hr => hr.1
    have hcard := Set.ncard_le_ncard hsub (Heap.finite_containers hin)
    omega
  obtain ⟨hstep, hroot⟩ := Copying.copyTo_copies hin level.toNat .refl { heap := h }
    (Heap.kept_extending.refl h) hunknown
  have hcopy := (hstep.reproduced rfl (fun _ => rfl) hroot).deepCopy hstep.kept
  refine ⟨_, _, _, rfl, hcopy, ?_, ?_⟩
  · intro r hr s hs
    exact hcopy.bijective.injOn.eq_iff hr hs
  · intro r hr
    obtain ⟨s, hs, rfl⟩ := hcopy.bijective.surjOn hr
    have hnew := hcopy.new s hs
    refine ⟨hnew.1, fun hold => ?_⟩
    exact absurd (hin _ hold.1) (Nat.not_lt.2 hnew.1)

/-- A List that holds a locked Dictionary twice, and itself, which the Dictionary holds as well. -/
def knot : Heap where
  cells := #[
    { value := .list [⟨1⟩, ⟨1⟩, ⟨0⟩] },
    { value := .dict { entries := [("list", ⟨0⟩), ("number", ⟨2⟩)] }, isLocked := true },
    { value := .number 7 }]

theorem knot_reaches {r : Ref} (hr : knot.Reaches ⟨0⟩ r) : r.index < 3 := by
  induction hr with
  | refl => decide
  | @tail r s _ hs ih =>
      have hall : ∀ i < 3, ∀ s ∈ knot.children ⟨i⟩, s.index < 3 := by decide
      exact hall r.index ih s hs

/-- A deep copy of it is such a knot again. -/
theorem knot_copied :
    ∃ v' h' φ, Op.copy deepLevel ⟨0⟩ knot = (.ok v', h') ∧ DeepCopy φ knot ⟨0⟩ h' v' ∧
      (∀ r ∈ knot.containers ⟨0⟩, ∀ s ∈ knot.containers ⟨0⟩, φ r = φ s ↔ r = s) ∧
      (∀ r ∈ h'.containers v', 3 ≤ r.index ∧ r ∉ knot.containers ⟨0⟩) :=
  copy_preserves_graph knot ⟨0⟩ deepLevel (fun _ => knot_reaches) (by
    have hcard : (knot.containers ⟨0⟩).ncard ≤ 3 := Heap.ncard_containers_le fun _ => knot_reaches
    unfold deepLevel
    omega)

end Vimscript
