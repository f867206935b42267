import Mathlib.Data.List.Forall2
import Vimscript.Heap.Exchange
import Vimscript.Proofs.Heap.Acyclic

/-!
# Values that have no form as data

The data of a value is its unfolding, in which what is shared is repeated at
every place where it occurs (`Heap.Unfolds`). A value that contains itself
has none, and its conversion fails.

The conversion keeps the Lists and Dictionaries it is inside of on a path,
and fails at an object that is on the path. Such an object holds itself. Why
no recursive value escapes is the other direction: data is only made of an
object once all it holds has become data, and an object is acyclic when all
it holds is. So one induction shows both (`Heap.endsConverted_step`), with a
result that carries the acyclicity of what was converted
(`Heap.IsUnfolding`).
-/

namespace Vimscript

/-! ## Sequences -/

section

variable {ε α β : Type}

/-- A computation ends in a result of one kind, or stops for a reason of another. -/
def Concludes (P : α → Prop) (Q : ε → Prop) : Except ε α → Prop
  | .ok a => P a
  | .error e => Q e

theorem Concludes.map {P : α → Prop} {P' : β → Prop} {Q : ε → Prop} {out : Except ε α} {f : α → β}
    (hout : Concludes P Q out) (hf : ∀ a, P a → P' (f a)) : Concludes P' Q (f <$> out) := by
  cases out with
  | ok a => exact hf a hout
  | error e => exact hout

/-- A sequence of computations has the results of all of them, or stops as one of them does. -/
theorem Concludes.mapM {f : α → Except ε β} {P : α → β → Prop} {Q : ε → Prop} {as : List α}
    (hf : ∀ a ∈ as, Concludes (P a) Q (f a)) : Concludes (List.Forall₂ P as) Q (as.mapM f) := by
  induction as with
  | nil => exact .nil
  | cons a as ih =>
      have ha := hf a List.mem_cons_self
      have has := ih fun a ha => hf a (List.mem_cons_of_mem _ ha)
      rw [List.mapM_cons]
      cases hfa : f a with
      | error e =>
          rw [hfa] at ha
          exact ha
      | ok b =>
          rw [hfa] at ha
          cases hfas : as.mapM f with
          | error e =>
              rw [hfas] at has
              exact has
          | ok bs =>
              rw [hfas] at has
              exact .cons ha has

theorem mapM_congr {f g : α → Except ε β} {as : List α} (h : ∀ a ∈ as, f a = g a) :
    as.mapM f = as.mapM g := by
  induction as with
  | nil => rfl
  | cons a as ih =>
      rw [List.mapM_cons, List.mapM_cons, h a List.mem_cons_self,
        ih fun a ha => h a (List.mem_cons_of_mem _ ha)]

/-- The entries of a Dictionary are converted as its values are. -/
theorem mapM_entries (f : Ref → Except Fault Data) (entries : Entries Ref) :
    entries.mapM (fun (k, v) => do return (Key.text k, ← f v)) =
      ((entries.map (·.1)).map Key.text).zip <$> (entries.map (·.2)).mapM f := by
  induction entries with
  | nil => rfl
  | cons e entries ih =>
      simp only [List.mapM_cons, List.map_cons, ih]
      cases f e.2 with
      | error _ => rfl
      | ok d => cases (entries.map (·.2)).mapM f <;> rfl

end

/-! ## Unfoldings -/

namespace Heap

/-- An object unfolds to data: what it holds is data at every place where it occurs, and a Funcref
is the name of its function. -/
inductive Unfolds (h : Heap) : Ref → Data → Prop
  | number {r : Ref} {n : Int} : h.value r = .number n → h.Unfolds r (.int n)
  | float {r : Ref} {x : Float} : h.value r = .float x → h.Unfolds r (.float x)
  | string {r : Ref} {s : String} : h.value r = .string s → h.Unfolds r (.text s)
  | blob {r : Ref} {bytes : List UInt8} : h.value r = .blob bytes → h.Unfolds r (.bytes bytes)
  | funcref {r : Ref} {f : Funcref} : h.value r = .funcref f → h.Unfolds r (.text f.callee.name)
  | list {r : Ref} {items : List Ref} {ds : List Data} : h.value r = .list items →
    List.Forall₂ h.Unfolds items ds → h.Unfolds r (.list ds)
  | dict {r : Ref} {t : Table} {ds : List Data} : h.value r = .dict t →
    List.Forall₂ h.Unfolds t.values ds → h.Unfolds r (.map ((t.keys.map Key.text).zip ds))

/-- The unfolding of an object without cycles: there is no other data that it unfolds to. -/
structure IsUnfolding (h : Heap) (r : Ref) (d : Data) : Prop where
  acyclic : h.Acyclic r
  unfolds : h.Unfolds r d
  unique {d' : Data} : h.Unfolds r d' → d' = d

variable {h : Heap} {v r : Ref} {d : Data} {path : List Ref} {fuel : Nat}

theorem acyclic_of_children (hchildren : ∀ s ∈ h.children r, h.Acyclic s) : h.Acyclic r :=
  noLoop_of_steps hchildren

theorem IsUnfolding.acyclic_all {rs : List Ref} {ds : List Data}
    (hds : List.Forall₂ h.IsUnfolding rs ds) : ∀ s ∈ rs, h.Acyclic s := by
  induction hds with
  | nil => exact nofun
  | cons hd _ ih => exact List.forall_mem_cons.mpr ⟨hd.acyclic, ih⟩

theorem IsUnfolding.unfolds_all {rs : List Ref} {ds : List Data}
    (hds : List.Forall₂ h.IsUnfolding rs ds) : List.Forall₂ h.Unfolds rs ds :=
  hds.imp fun _ _ => unfolds

theorem IsUnfolding.unique_all {rs : List Ref} {ds ds' : List Data}
    (hds : List.Forall₂ h.IsUnfolding rs ds) (hds' : List.Forall₂ h.Unfolds rs ds') : ds' = ds := by
  induction hds generalizing ds' with
  | nil =>
      cases hds'
      rfl
  | cons hd _ ih =>
      cases hds' with
      | cons hd' hrest => rw [hd.unique hd', ih hrest]

theorem isUnfolding_list {items : List Ref} {ds : List Data} (hv : h.value r = .list items)
    (hds : List.Forall₂ h.IsUnfolding items ds) : h.IsUnfolding r (.list ds) where
  acyclic := by
    refine acyclic_of_children fun s hs => ?_
    rw [children, hv] at hs
    exact IsUnfolding.acyclic_all hds s hs
  unfolds := .list hv (IsUnfolding.unfolds_all hds)
  unique hd' := by
    cases hd' with
    | list hv' hds' =>
        cases hv.symm.trans hv'
        rw [IsUnfolding.unique_all hds hds']
    | number hv' | float hv' | string hv' | blob hv' | funcref hv' | dict hv' =>
        cases hv.symm.trans hv'

theorem isUnfolding_dict {t : Table} {ds : List Data} (hv : h.value r = .dict t)
    (hds : List.Forall₂ h.IsUnfolding t.values ds) :
    h.IsUnfolding r (.map ((t.keys.map Key.text).zip ds)) where
  acyclic := by
    refine acyclic_of_children fun s hs => ?_
    rw [children, hv] at hs
    exact IsUnfolding.acyclic_all hds s hs
  unfolds := .dict hv (IsUnfolding.unfolds_all hds)
  unique hd' := by
    cases hd' with
    | dict hv' hds' =>
        cases hv.symm.trans hv'
        rw [IsUnfolding.unique_all hds hds']
    | number hv' | float hv' | string hv' | blob hv' | funcref hv' | list hv' =>
        cases hv.symm.trans hv'

theorem isUnfolding_of_leaf (hr : (h.value r).isContainer = false) (hd : h.Unfolds r d) :
    h.IsUnfolding r d where
  acyclic := by
    refine acyclic_of_children fun s hs => ?_
    rw [isContainer_of_mem_children hs] at hr
    cases hr
  unfolds := hd
  unique hd' := by
    cases hd <;> cases hd' <;> simp_all [Value.isContainer]

/-! ## One step -/

/-- The fault for a List or Dictionary that is met again inside itself. -/
def recursion (h : Heap) (r : Ref) : Fault :=
  match h.value r with
  | .dict _ => .recursiveDict
  | _ => .recursiveList

theorem toDataWithin_again (hagain : r ∈ path) (hr : (h.value r).isContainer = true) :
    h.toDataWithin (fuel + 1) path r = .error (h.recursion r) := by
  have hcontains := List.contains_iff_mem.mpr hagain
  unfold recursion
  rw [toDataWithin]
  cases hv : h.value r with
  | list _ | dict _ => exact if_pos hcontains
  | number _ | float _ | string _ | blob _ | funcref _ =>
      rw [hv] at hr
      cases hr

theorem toDataWithin_list {items : List Ref} (hv : h.value r = .list items) (hnew : r ∉ path) :
    h.toDataWithin (fuel + 1) path r =
      Data.list <$> items.mapM (h.toDataWithin fuel (r :: path)) := by
  have hcontains : ¬path.contains r = true := fun hr => hnew (List.contains_iff_mem.mp hr)
  rw [toDataWithin, hv]
  dsimp only
  rw [if_neg hcontains]
  cases items.mapM (h.toDataWithin fuel (r :: path)) <;> rfl

theorem toDataWithin_dict {t : Table} (hv : h.value r = .dict t) (hnew : r ∉ path) :
    h.toDataWithin (fuel + 1) path r = (fun ds => Data.map ((t.keys.map Key.text).zip ds)) <$>
      t.values.mapM (h.toDataWithin fuel (r :: path)) := by
  have hcontains : ¬path.contains r = true := fun hr => hnew (List.contains_iff_mem.mp hr)
  rw [toDataWithin, hv]
  dsimp only
  rw [if_neg hcontains, mapM_entries, Table.values, Table.keys]
  cases (t.entries.map (·.2)).mapM (h.toDataWithin fuel (r :: path)) <;> rfl

/-- Where the parts of an object are converted alike, so is the object. -/
theorem toDataWithin_congr {fuel' : Nat} (hparts : r ∉ path → ∀ s ∈ h.children r,
      h.toDataWithin fuel (r :: path) s = h.toDataWithin fuel' (r :: path) s) :
    h.toDataWithin (fuel + 1) path r = h.toDataWithin (fuel' + 1) path r := by
  unfold children at hparts
  cases hv : h.value r with
  | list items =>
      rw [hv] at hparts
      by_cases hagain : r ∈ path
      · have hr : (h.value r).isContainer = true := by rw [hv]; rfl
        rw [toDataWithin_again hagain hr, toDataWithin_again hagain hr]
      · rw [toDataWithin_list hv hagain, toDataWithin_list hv hagain, mapM_congr (hparts hagain)]
  | dict t =>
      rw [hv] at hparts
      by_cases hagain : r ∈ path
      · have hr : (h.value r).isContainer = true := by rw [hv]; rfl
        rw [toDataWithin_again hagain hr, toDataWithin_again hagain hr]
      · rw [toDataWithin_dict hv hagain, toDataWithin_dict hv hagain, mapM_congr (hparts hagain)]
  | number _ | float _ | string _ | blob _ | funcref _ => rw [toDataWithin, toDataWithin, hv]

/-- A number of steps that leaves one for each container that can still be entered is enough. -/
theorem toDataWithin_add (hd : h.Descent v path r) (hfuel : h.size < fuel + path.length)
    (more : Nat) : h.toDataWithin (fuel + more) path r = h.toDataWithin fuel path r := by
  refine hd.induct (motive := fun fuel path r =>
    h.toDataWithin (fuel + more) path r = h.toDataWithin fuel path r) ?_ hfuel
  intro fuel path r _ hparts
  rw [Nat.add_right_comm]
  exact toDataWithin_congr hparts

/-- The conversion of a part of a value ends in the unfolding of the part, or it fails as there is
an object in the value that holds itself. -/
def EndsConverted (h : Heap) (v r : Ref) : Except Fault Data → Prop :=
  Concludes (h.IsUnfolding r) fun fault => ∃ s, h.Reaches v s ∧ h.Holds s s ∧ fault = h.recursion s

theorem endsConverted_step (fuel : Nat) (path : List Ref) (r : Ref) (hd : h.Descent v path r)
    (hparts : r ∉ path → ∀ s ∈ h.children r,
      h.EndsConverted v s (h.toDataWithin fuel (r :: path) s)) :
    h.EndsConverted v r (h.toDataWithin (fuel + 1) path r) := by
  by_cases hr : (h.value r).isContainer = true
  · by_cases hagain : r ∈ path
    · rw [toDataWithin_again hagain hr]
      exact ⟨r, hd.reaches, hd.holds r hagain, rfl⟩
    · unfold children at hparts
      cases hv : h.value r with
      | list items =>
          rw [hv] at hparts
          rw [toDataWithin_list hv hagain]
          exact (Concludes.mapM (hparts hagain)).map fun ds hds => isUnfolding_list hv hds
      | dict t =>
          rw [hv] at hparts
          rw [toDataWithin_dict hv hagain]
          exact (Concludes.mapM (hparts hagain)).map fun ds hds => isUnfolding_dict hv hds
      | number _ | float _ | string _ | blob _ | funcref _ =>
          rw [hv] at hr
          cases hr
  · have hleaf := Bool.eq_false_iff.mpr hr
    rw [toDataWithin]
    cases hv : h.value r with
    | number _ => exact isUnfolding_of_leaf hleaf (.number hv)
    | float _ => exact isUnfolding_of_leaf hleaf (.float hv)
    | string _ => exact isUnfolding_of_leaf hleaf (.string hv)
    | blob _ => exact isUnfolding_of_leaf hleaf (.blob hv)
    | funcref _ => exact isUnfolding_of_leaf hleaf (.funcref hv)
    | list _ | dict _ =>
        rw [hv] at hleaf
        cases hleaf

theorem toData_endsConverted (h : Heap) (v : Ref) : h.EndsConverted v v (h.toData v) :=
  (Descent.start h v).induct (motive := fun fuel path r =>
    h.EndsConverted v r (h.toDataWithin fuel path r)) endsConverted_step (Nat.lt_succ_self h.size)

/-- A List or Dictionary in a value that holds itself, at whatever depth. -/
structure Recurs (h : Heap) (v r : Ref) : Prop where
  container : (h.value r).isContainer = true
  reaches : h.Reaches v r
  holds : h.Holds r r

theorem recurs_iff : h.Recurs v r ↔ h.Reaches v r ∧ h.Holds r r := by
  refine ⟨fun hr => ⟨hr.reaches, hr.holds⟩, fun ⟨hreaches, hholds⟩ => ⟨?_, hreaches, hholds⟩⟩
  obtain ⟨s, hs, -⟩ := Relation.TransGen.head'_iff.mp hholds
  exact isContainer_of_mem_children hs

theorem acyclic_iff_not_recurs : h.Acyclic v ↔ ¬∃ r, h.Recurs v r := by
  unfold Acyclic
  simp only [recurs_iff, not_exists, not_and]

theorem kind_recursion (h : Heap) (r : Ref) : (h.recursion r).kind = .value := by
  unfold recursion
  cases h.value r <;> rfl

theorem recurs_of_error {fault : Fault} (hfault : h.toData v = .error fault) :
    ∃ r, h.Recurs v r ∧ fault = h.recursion r := by
  have hends := h.toData_endsConverted v
  rw [hfault] at hends
  obtain ⟨r, hreaches, hholds, hfault⟩ := hends
  exact ⟨r, recurs_iff.mpr ⟨hreaches, hholds⟩, hfault⟩

theorem toData_of_not_recursive (hnone : ¬∃ r, h.Recurs v r) :
    ∃ d, h.toData v = .ok d ∧ h.IsUnfolding v d := by
  have hends := h.toData_endsConverted v
  cases hout : h.toData v with
  | ok d =>
      rw [hout] at hends
      exact ⟨d, rfl, hends⟩
  | error fault =>
      obtain ⟨r, hr, -⟩ := recurs_of_error hout
      exact absurd ⟨r, hr⟩ hnone

theorem toData_of_recursive (hrecursive : ∃ r, h.Recurs v r) :
    ∃ r, h.Recurs v r ∧ h.toData v = .error (h.recursion r) := by
  have hends := h.toData_endsConverted v
  cases hout : h.toData v with
  | ok d =>
      rw [hout] at hends
      exact absurd hrecursive (acyclic_iff_not_recurs.mp hends.acyclic)
  | error fault =>
      obtain ⟨r, hr, hfault⟩ := recurs_of_error hout
      exact ⟨r, hr, by rw [hfault]⟩

/-- A value is converted exactly if it is not recursive: the conversion ends after a number of steps
with the unfolding of the value, or with the fault for a List or Dictionary that holds itself. So
does what is written of the data. -/
structure ConvertsExactly (h : Heap) (v : Ref) : Prop where
  ends {steps : Nat} : h.size < steps → h.toDataWithin steps [] v = h.toData v
  fails : (∃ fault, fault.kind = .value ∧ h.toData v = .error fault) ↔ ∃ r, h.Recurs v r
  blames {fault : Fault} : h.toData v = .error fault → ∃ r, h.Recurs v r ∧ fault = h.recursion r
  converts : (¬∃ r, h.Recurs v r) →
    ∃ d, h.toData v = .ok d ∧ h.Unfolds v d ∧ ∀ d', h.Unfolds v d' → d' = d
  refuses {α : Type} (write : Data → Except Fault α) : (∃ r, h.Recurs v r) →
    ∃ r, h.Recurs v r ∧ (h.toData v >>= write) = .error (h.recursion r)
  writes {α : Type} (write : Data → Except Fault α) {d : Data} : (¬∃ r, h.Recurs v r) →
    h.Unfolds v d → (h.toData v >>= write) = write d

end Heap

/-- Converting fails for the recursive values and for no others, however much these share. -/
theorem toData_fails_iff_recursive (h : Heap) (v : Ref) : h.ConvertsExactly v where
  ends {steps} hsteps := by
    have hfuel : h.size < h.size + 1 + ([] : List Ref).length := Nat.lt_succ_self h.size
    have hstable := Heap.toDataWithin_add (.start h v) hfuel (steps - (h.size + 1))
    rwa [Nat.add_sub_cancel' hsteps] at hstable
  fails := by
    constructor
    · rintro ⟨fault, -, hfault⟩
      obtain ⟨r, hr, -⟩ := Heap.recurs_of_error hfault
      exact ⟨r, hr⟩
    · intro hrecursive
      obtain ⟨r, -, hfault⟩ := Heap.toData_of_recursive hrecursive
      exact ⟨_, h.kind_recursion r, hfault⟩
  blames := Heap.recurs_of_error
  converts hnone := by
    obtain ⟨d, hd, hunfolding⟩ := Heap.toData_of_not_recursive hnone
    exact ⟨d, hd, hunfolding.unfolds, fun _ => hunfolding.unique⟩
  refuses write hrecursive := by
    obtain ⟨r, hr, hfault⟩ := Heap.toData_of_recursive hrecursive
    exact ⟨r, hr, by rw [hfault]; rfl⟩
  writes {_} write {_} hnone hd := by
    obtain ⟨d', hd', hunfolding⟩ := Heap.toData_of_not_recursive hnone
    rw [hd', hunfolding.unique hd]
    rfl

/-- A List that holds a Dictionary twice, in which there is a Funcref. -/
def heldTwice : Heap where
  cells := #[{ value := .list [⟨1⟩, ⟨1⟩] }, { value := .dict { entries := [("f", ⟨2⟩)] } },
    { value := .funcref { callee := .declared 0 "F", arguments := ⟨3⟩ } }, { value := .list [] }]

example : heldTwice.toData ⟨0⟩ =
    .ok (.list [.map [(.text "f", .text "F")], .map [(.text "f", .text "F")]]) := rfl

end Vimscript
