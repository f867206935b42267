import Vimscript.Function.Registry

/-!
# Changes to the declared functions

A registry changes in two ways only. A declaration is added: it gets the
next number, at most one name leads to it from now on, and no other
declaration changes (`Adds`). Or a declaration is deleted: the one that a
name leads to is marked, and that name is taken away (`Deletes`). Both are
said of all numbers and all names at once, so that what follows from a
change is read off without opening the tables.

A registry is `Sound` when every name leads to a declaration of that name
that is not deleted. Replacing a function is the case that needs care: the
old declaration loses its name without being deleted. What keeps a deletion
from taking away another name's declaration is that no declaration has two
places (`Sound.alone`), which holds because every declaration enters one
table under one name and as a new one.
-/

namespace Vimscript.Registry

/-! ## Tables and declarations -/

/-- A name leads to the declaration with a number. -/
def Leads (r : Registry) (space : FunctionSpace) (key : FunctionName) (id : Nat) : Prop :=
  Entries.find? key (r.table space) = some id

theorem ofScript_putScript (scripts : List (Nat × FunctionTable)) (id other : Nat)
    (t : FunctionTable) :
    (((putScript id t scripts).find? fun e => e.1 == other).map (·.2)).getD [] =
      if id = other then t
      else ((scripts.find? fun e => e.1 == other).map (·.2)).getD [] := by
  induction scripts with
  | nil => by_cases hid : id = other <;> simp [putScript, hid]
  | cons e rest ih =>
      by_cases he : e.1 = id
      · by_cases hid : id = other <;> simp [putScript, he, hid]
      · by_cases ho : e.1 = other
        · have hne : other ≠ id := fun hid => he (ho.trans hid)
          simp [putScript, ho, hne, hne.symm]
        · simpa [putScript, he, ho] using ih

theorem table_setTable (r : Registry) (space other : FunctionSpace) (t : FunctionTable) :
    (r.setTable space t).table other = if space = other then t else r.table other := by
  cases space with
  | global => cases other <;> rfl
  | numbered => cases other <;> rfl
  | ofScript id =>
      cases other with
      | global => rfl
      | numbered => rfl
      | ofScript id' =>
          simpa [setTable, table, ofScript] using ofScript_putScript r.scripts id id' t

theorem declarations_setTable (r : Registry) (space : FunctionSpace) (t : FunctionTable) :
    (r.setTable space t).declarations = r.declarations := by
  cases space <;> rfl

theorem numberedCount_setTable (r : Registry) (space : FunctionSpace) (t : FunctionTable) :
    (r.setTable space t).numberedCount = r.numberedCount := by
  cases space <;> rfl

theorem table_add (r : Registry) (d : Declaration) (space : FunctionSpace) :
    (r.add d).2.table space = r.table space := by
  cases space <;> rfl

variable {r : Registry} {space space' : FunctionSpace} {key key' : FunctionName} {id id' : Nat}
  {d : Declaration}

/-- A new declaration has the next number, and the others keep theirs. -/
theorem declaration?_push {r' : Registry} (hr : r'.declarations = r.declarations.push d)
    (id : Nat) :
    r'.declaration? id = if id = r.declarations.size then some d else r.declaration? id := by
  simp only [declaration?, hr, Array.getElem?_push]

theorem declarations_addNamed (r : Registry) (space : FunctionSpace) (key : FunctionName)
    (d : Declaration) : (r.addNamed space key d).2.declarations = r.declarations.push d :=
  declarations_setTable ..

theorem leads_addNamed : (r.addNamed space key d).2.Leads space' key' id ↔
    if space = space' ∧ key = key' then id = r.declarations.size else r.Leads space' key' id := by
  unfold Leads addNamed
  simp only [table_setTable, table_add]
  by_cases hspace : space = space'
  · subst hspace
    by_cases hkey : key = key'
    · simp [Entries.find?_put, hkey, add, eq_comm]
    · simp [Entries.find?_put, hkey]
  · simp [hspace]

theorem declaration?_deleteFrom (r : Registry) (space : FunctionSpace) (key : FunctionName)
    (id other : Nat) : (r.deleteFrom space key id).declaration? other =
      (r.declaration? other).map fun d =>
        if other = id then { d with isDeleted := true } else d := by
  unfold deleteFrom declaration?
  rw [declarations_setTable, Array.getElem?_modify]
  by_cases hid : id = other
  · simp [hid]
  · simp [hid, Ne.symm hid]

theorem leads_deleteFrom : (r.deleteFrom space key id).Leads space' key' id' ↔
    ¬ (space = space' ∧ key = key') ∧ r.Leads space' key' id' := by
  have htables : ∀ declarations other,
      table { r with declarations } other = r.table other := by
    intro declarations other
    cases other <;> rfl
  unfold Leads deleteFrom
  simp only [table_setTable, htables]
  by_cases hspace : space = space'
  · subst hspace
    by_cases hkey : key = key' <;> simp [Entries.find?_remove, hkey]
  · simp [hspace]

/-! ## Adding and deleting -/

/-- A declaration has been added under the next number, and of all names only the one given, if
any, leads elsewhere now: to the new declaration. -/
structure Adds (r : Registry) (place : Option (FunctionSpace × FunctionName)) (d : Declaration)
    (r' : Registry) : Prop where
  declaration? (id : Nat) :
    r'.declaration? id = if id = r.declarations.size then some d else r.declaration? id
  leads {space : FunctionSpace} {key : FunctionName} {id : Nat} : r'.Leads space key id ↔
    if place = some (space, key) then id = r.declarations.size else r.Leads space key id
  numberedCount : r.numberedCount ≤ r'.numberedCount

/-- The declaration with a number has been marked as deleted, and a name has been taken away. All
other declarations and names are as before. -/
structure Deletes (r : Registry) (space : FunctionSpace) (key : FunctionName) (id : Nat)
    (r' : Registry) : Prop where
  declaration? (other : Nat) : r'.declaration? other =
    (r.declaration? other).map fun d => if other = id then { d with isDeleted := true } else d
  leads {space' : FunctionSpace} {key' : FunctionName} {id' : Nat} : r'.Leads space' key' id' ↔
    ¬ (space = space' ∧ key = key') ∧ r.Leads space' key' id'
  numberedCount : r'.numberedCount = r.numberedCount

theorem addNamed_adds (r : Registry) (space : FunctionSpace) (key : FunctionName)
    (d : Declaration) : r.Adds (some (space, key)) d (r.addNamed space key d).2 where
  declaration? id := declaration?_push (declarations_addNamed r space key d) id
  leads := by
    simp only [leads_addNamed, Option.some.injEq, Prod.mk.injEq, implies_true]
  numberedCount := Nat.le_of_eq (numberedCount_setTable (r.add d).2 space _).symm

theorem deleteFrom_deletes (r : Registry) (space : FunctionSpace) (key : FunctionName) (id : Nat) :
    r.Deletes space key id (r.deleteFrom space key id) where
  declaration? := declaration?_deleteFrom r space key id
  leads := leads_deleteFrom
  numberedCount := numberedCount_setTable ..

/-- The name of the next function that is declared as an entry of a Dictionary. -/
def nextNumber (r : Registry) : String := toString (r.numberedCount + 1)

/-! ## Sound registries -/

/-- Every name leads to a declaration of its own, and none to a deleted one. -/
structure Sound (r : Registry) : Prop where
  found {space : FunctionSpace} {key : FunctionName} {id : Nat} : r.Leads space key id →
    ∃ d, r.declaration? id = some d ∧ d.isDeleted = false ∧ FunctionName.ofData d.name = .ok key
  /-- No declaration has two places. -/
  alone {space space' : FunctionSpace} {key key' : FunctionName} {id : Nat} :
    r.Leads space key id → r.Leads space' key' id → space = space' ∧ key = key'
  /-- Numbers beyond the count are yet to be given out. -/
  counted {key : FunctionName} {id : Nat} : r.Leads .numbered key id →
    ∃ n, n < r.numberedCount ∧ key = .text (toString (n + 1))

/-- Where nothing is declared, no name leads anywhere. -/
theorem not_leads_empty : ¬ Leads {} space key id := by
  cases space <;> exact nofun

theorem Sound.empty : Sound {} where
  found h := absurd h not_leads_empty
  alone h _ := absurd h not_leads_empty
  counted h := absurd h not_leads_empty

/-- Names lead to declarations there are. -/
theorem Sound.lt (hr : r.Sound) (h : r.Leads space key id) : id < r.declarations.size := by
  obtain ⟨d, hd, -⟩ := hr.found h
  exact (Array.getElem?_eq_some_iff.mp hd).1

/-- A declaration that is not deleted gets its place under its own name, and among the numbered
ones under the next number. -/
structure Belongs (r : Registry) (place : Option (FunctionSpace × FunctionName)) (d : Declaration)
    (r' : Registry) : Prop where
  kept : d.isDeleted = false
  named {space : FunctionSpace} {key : FunctionName} : place = some (space, key) →
    FunctionName.ofData d.name = .ok key
  numbered {key : FunctionName} : place = some (.numbered, key) →
    key = .text r.nextNumber ∧ r.numberedCount < r'.numberedCount

/-- A registry stays sound when a declaration is added where it belongs. -/
theorem Sound.adds {r' : Registry} {place : Option (FunctionSpace × FunctionName)} (hr : r.Sound)
    (h : r.Adds place d r') (hd : r.Belongs place d r') : r'.Sound := by
  constructor
  case found =>
    intro space key id hid
    rw [h.declaration?]
    rw [h.leads] at hid
    split at hid
    · rename_i hplace
      exact ⟨d, if_pos hid, hd.kept, hd.named hplace⟩
    · rw [if_neg (Nat.ne_of_lt (hr.lt hid))]
      exact hr.found hid
  case alone =>
    intro space₁ space₂ key₁ key₂ id h₁ h₂
    rw [h.leads] at h₁ h₂
    split at h₁ <;> split at h₂
    · rename_i hplace₁ hplace₂
      exact Prod.mk.inj (Option.some.inj (hplace₁.symm.trans hplace₂))
    · exact absurd h₁ (Nat.ne_of_lt (hr.lt h₂))
    · exact absurd h₂ (Nat.ne_of_lt (hr.lt h₁))
    · exact hr.alone h₁ h₂
  case counted =>
    intro key id hid
    rw [h.leads] at hid
    split at hid
    · rename_i hplace
      exact ⟨r.numberedCount, (hd.numbered hplace).2, (hd.numbered hplace).1⟩
    · obtain ⟨n, hn, hkey⟩ := hr.counted hid
      exact ⟨n, Nat.lt_of_lt_of_le hn h.numberedCount, hkey⟩

/-- A registry stays sound when the declaration that a name leads to is deleted. -/
theorem Sound.deletes {r' : Registry} (hr : r.Sound) (hid : r.Leads space key id)
    (h : r.Deletes space key id r') : r'.Sound := by
  constructor
  case found =>
    intro space' key' id' hid'
    obtain ⟨hne, hbefore⟩ := h.leads.mp hid'
    have hother : id' ≠ id := by
      rintro rfl
      exact hne (hr.alone hid hbefore)
    obtain ⟨d, hd, hrest⟩ := hr.found hbefore
    refine ⟨d, ?_, hrest⟩
    rw [h.declaration?, hd, Option.map_some, if_neg hother]
  case alone =>
    intro space₁ space₂ key₁ key₂ id' h₁ h₂
    exact hr.alone (h.leads.mp h₁).2 (h.leads.mp h₂).2
  case counted =>
    intro key' id' hid'
    rw [h.numberedCount]
    exact hr.counted (h.leads.mp hid').2

end Vimscript.Registry
