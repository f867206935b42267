import Vimscript.Proofs.Heap.Copy
import Vimscript.Proofs.Heap.Edit

/-!
# Values that do not contain themselves

An acyclic value can be followed down to its leaves, and the way down never
meets an object twice. Printing and converting a value follow it with the
containers they are inside of on a path and with a bound on the number of
steps. On an acyclic value neither matters: no object is found on the path
(`Descent.not_mem`), and since the path grows with every step and is never
longer than the heap (`Descent.length_le`), the bound is not reached.

`Descent.induct` is the induction that all such functions share. It hands
the proof of a step the objects one level below, with one step less to go
and the container entered, unless the object is on the path. That cannot be
if the value is acyclic (`Acyclic.descend`).
-/

namespace Vimscript.Heap

/-- An object holds another, at whatever depth. -/
def Holds (h : Heap) : Ref → Ref → Prop := Relation.TransGen fun r s => s ∈ h.children r

/-- Nothing that can be reached from an object holds itself. -/
def Acyclic (h : Heap) (v : Ref) : Prop := ∀ r, h.Reaches v r → ¬ h.Holds r r

/-- There is a loop beyond an object only if there is one beyond an object one step further on. -/
theorem noLoop_of_steps {step : Ref → Ref → Prop} {v : Ref}
    (hsteps : ∀ s, step v s → ∀ r, Relation.ReflTransGen step s r → ¬Relation.TransGen step r r) :
    ∀ r, Relation.ReflTransGen step v r → ¬Relation.TransGen step r r := by
  intro r hr hloop
  rcases Relation.ReflTransGen.cases_head hr with rfl | ⟨s, hs, hsr⟩
  · obtain ⟨s, hs, hback⟩ := Relation.TransGen.head'_iff.mp hloop
    exact hsteps s hs s .refl (.tail' hback hs)
  · exact hsteps s hs r hsr hloop

/-- A way from an object down to another: the path lists the containers it entered, the innermost
first. -/
structure Descent (h : Heap) (v : Ref) (path : List Ref) (r : Ref) : Prop where
  reaches : h.Reaches v r
  nodup : path.Nodup
  holds : ∀ p ∈ path, h.Holds p r

variable {h : Heap} {v r s : Ref} {path : List Ref}

theorem Descent.start (h : Heap) (v : Ref) : h.Descent v [] v := ⟨.refl, .nil, nofun⟩

theorem Descent.not_mem (hd : h.Descent v path r) (ha : h.Acyclic v) : r ∉ path :=
  fun hr => ha r hd.reaches (hd.holds r hr)

theorem Descent.enterNew (hd : h.Descent v path r) (hnew : r ∉ path) (hs : s ∈ h.children r) :
    h.Descent v (r :: path) s where
  reaches := hd.reaches.tail hs
  nodup := List.nodup_cons.mpr ⟨hnew, hd.nodup⟩
  holds p hp := by
    rcases List.mem_cons.mp hp with rfl | hp
    · exact .single hs
    · exact (hd.holds p hp).tail hs

/-- A List or Dictionary is one of the objects there are. -/
theorem index_lt_of_isContainer (hr : (h.value r).isContainer = true) : r.index < h.size := by
  refine Nat.lt_of_not_le fun hout => ?_
  rw [value_of_size_le hout] at hr
  cases hr

theorem index_lt_of_mem_children (hs : s ∈ h.children r) : r.index < h.size :=
  index_lt_of_isContainer (isContainer_of_mem_children hs)

theorem Holds.index_lt (hr : h.Holds r s) : r.index < h.size := by
  obtain ⟨t, ht, -⟩ := Relation.TransGen.head'_iff.mp hr
  exact index_lt_of_mem_children ht

/-- Where every object holds only later ones, nothing holds itself. -/
theorem acyclic_of_forward (hforward : ∀ i < h.size, ∀ s ∈ h.children ⟨i⟩, i < s.index) (v : Ref) :
    h.Acyclic v := by
  have hlater : ∀ {r s : Ref}, h.Holds r s → r.index < s.index := by
    intro r s hr
    induction hr with
    | single hs => exact hforward _ (index_lt_of_mem_children hs) _ hs
    | tail _ hs ih => exact ih.trans (hforward _ (index_lt_of_mem_children hs) _ hs)
  exact fun r _ hr => Nat.lt_irrefl _ (hlater hr)

/-- A list of objects without repetition is no longer than the heap. -/
theorem length_le_size (hnodup : path.Nodup) (hin : ∀ p ∈ path, p.index < h.size) :
    path.length ≤ h.size := by
  have hindexes : (path.map Ref.index).Nodup := hnodup.map Ref.index_injective
  have hsubset : path.map Ref.index ⊆ List.range h.size := by
    intro i hi
    obtain ⟨p, hp, rfl⟩ := List.mem_map.mp hi
    exact List.mem_range.mpr (hin p hp)
  have hlength := (List.subperm_of_subset hindexes hsubset).length_le
  rwa [List.length_map, List.length_range] at hlength

theorem Descent.length_le (hd : h.Descent v path r) : path.length ≤ h.size :=
  length_le_size hd.nodup fun p hp => (hd.holds p hp).index_lt

/-- What is true of an object that is on the path, or once it is true of all it holds with one step
less and the object on the path, is true of every value followed with enough steps. -/
theorem Descent.induct {motive : Nat → List Ref → Ref → Prop}
    (step : ∀ fuel path r, h.Descent v path r →
      (r ∉ path → ∀ s ∈ h.children r, motive fuel (r :: path) s) → motive (fuel + 1) path r)
    {fuel : Nat} (hd : h.Descent v path r) (hfuel : h.size < fuel + path.length) :
    motive fuel path r := by
  induction fuel generalizing path r with
  | zero =>
      rw [Nat.zero_add] at hfuel
      exact absurd hd.length_le (Nat.not_le.mpr hfuel)
  | succ fuel ih =>
      refine step fuel path r hd fun hnew s hs => ih (hd.enterNew hnew hs) ?_
      rw [List.length_cons]
      omega

/-- On an acyclic value no object is on the path. -/
theorem Acyclic.descend (ha : h.Acyclic v) {motive : Nat → List Ref → Ref → Prop}
    (step : ∀ fuel path r, h.Reaches v r → r ∉ path →
      (∀ s ∈ h.children r, motive fuel (r :: path) s) → motive (fuel + 1) path r)
    {fuel : Nat} (hd : h.Descent v path r) (hfuel : h.size < fuel + path.length) :
    motive fuel path r :=
  hd.induct (fun fuel path r hd hparts =>
    step fuel path r hd.reaches (hd.not_mem ha) (hparts (hd.not_mem ha))) hfuel

end Vimscript.Heap
