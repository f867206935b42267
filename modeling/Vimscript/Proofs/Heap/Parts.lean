import Vimscript.Proofs.Heap.Acyclic

/-!
# Parts of values

A comparison follows the items of a List, the entries of a Dictionary and
the captured arguments of a Funcref. The last are no children of an object:
printing and copying stop at a Funcref. So there is a second notion of a
value that does not contain itself (`Heap.Unknotted`).

Its theory is that of acyclic values, in the heap that has a List of its
parts in the place of each object (`Heap.opened`).
-/

namespace Vimscript

/-- What a comparison follows: the items, the entries, or the captured arguments. -/
def Value.parts : Value → List Ref
  | .list items => items
  | .dict t => t.values
  | .funcref f => [f.arguments]
  | _ => []

namespace Heap

/-- The parts of what an object holds. -/
def parts (h : Heap) (r : Ref) : List Ref := (h.value r).parts

/-- An object is a value or part of it, at whatever depth. -/
def Spans (h : Heap) : Ref → Ref → Prop := Relation.ReflTransGen fun r s => s ∈ h.parts r

/-- No object of a value is part of itself. -/
def Unknotted (h : Heap) (v : Ref) : Prop :=
  ∀ r, h.Spans v r → ¬Relation.TransGen (fun r s => s ∈ h.parts r) r r

/-- The heap with a List of its parts for every object. -/
def opened (h : Heap) : Heap where
  cells := h.cells.map fun c => { value := .list c.value.parts }

variable {h h' : Heap} {v r s : Ref}

theorem children_opened (h : Heap) (r : Ref) : h.opened.children r = h.parts r := by
  rcases hr : h.cells[r.index]? with _ | c
  · simp [children, parts, value, cell, opened, Array.getD_eq_getD_getElem?, hr]
    rfl
  · simp [children, parts, value, cell, opened, Array.getD_eq_getD_getElem?, hr]

theorem acyclic_opened : h.opened.Acyclic v ↔ h.Unknotted v := by
  unfold Acyclic Unknotted Reaches Holds Spans
  simp only [children_opened]

theorem Unknotted.spanned (hv : h.Unknotted v) (hr : h.Spans v r) : h.Unknotted r :=
  fun s hs => hv s (hr.trans hs)

/-- What is true of an object once it is true of its parts, with one step less, is true of a value
followed with enough steps. -/
theorem Unknotted.descend (hv : h.Unknotted v) {motive : Nat → Ref → Prop}
    (step : ∀ fuel r, h.Spans v r → (∀ s ∈ h.parts r, motive fuel s) → motive (fuel + 1) r)
    {fuel : Nat} (hfuel : h.size < fuel) : motive fuel v := by
  have hreach : h.opened.Reaches v = h.Spans v := by
    unfold Reaches Spans
    simp only [children_opened]
  refine (acyclic_opened.mpr hv).descend (motive := fun fuel _ r => motive fuel r) ?_
    (.start _ v) ?_
  · intro fuel _ r hr _ hparts
    rw [children_opened] at hparts
    rw [hreach] at hr
    exact step fuel r hr hparts
  · rw [List.length_nil, size, opened, Array.size_map]
    exact hfuel

theorem Unknotted.induct (hv : h.Unknotted v) {motive : Ref → Prop}
    (step : ∀ r, h.Spans v r → (∀ s ∈ h.parts r, motive s) → motive r) : motive v :=
  hv.descend (motive := fun _ r => motive r) (fun _ => step) (Nat.lt_succ_self h.size)

theorem unknotted_of_parts (hv : ∀ s ∈ h.parts v, h.Unknotted s) : h.Unknotted v :=
  noLoop_of_steps hv

theorem unknotted_of_acc (hv : Acc (fun s r => s ∈ h.parts r) v) : h.Unknotted v := by
  have hself : ∀ {r}, Acc (fun s r => s ∈ h.parts r) r →
      ¬Relation.TransGen (fun r s => s ∈ h.parts r) r r := by
    intro r hr
    induction hr with
    | intro r _ ih =>
        intro hloop
        obtain ⟨s, hs, hback⟩ := Relation.TransGen.head'_iff.mp hloop
        exact ih s hs (.tail' hback hs)
  intro r hr
  refine hself ?_
  induction hr with
  | refl => exact hv
  | tail _ hs ih => exact ih.inv hs

/-- A value whose parts have their counterparts among those of an unknotted one is unknotted. -/
theorem Unknotted.of_simulation (hv : h.Unknotted v) {R : Ref → Ref → Prop} {v' : Ref}
    (hR : ∀ x y, h.Spans v x → R x y → ∀ t ∈ h'.parts y, ∃ s ∈ h.parts x, R s t)
    (hvv : R v v') : h'.Unknotted v' := by
  have hacc : ∀ y, R v y → Acc (fun s r => s ∈ h'.parts r) y := by
    refine hv.induct (motive := fun x => ∀ y, R x y → Acc (fun s r => s ∈ h'.parts r) y) ?_
    intro x hx ih y hxy
    refine ⟨y, fun t ht => ?_⟩
    obtain ⟨s, hs, hst⟩ := hR x y hx hxy t ht
    exact ih s hs t hst
  exact unknotted_of_acc (hacc v' hvv)

theorem Unknotted.congr (hv : h.Unknotted v) (hsame : ∀ r, h.Spans v r → h'.parts r = h.parts r) :
    h'.Unknotted v := by
  refine hv.of_simulation (R := fun x y => x = y ∧ h.Spans v x) ?_ ⟨rfl, .refl⟩
  rintro x _ hx ⟨rfl, -⟩ t ht
  rw [hsame x hx] at ht
  exact ⟨t, ht, rfl, hx.tail ht⟩

end Heap

end Vimscript
