/-!
# Named entries

Things held under names, in the order in which the names were first added. Dictionaries, function
tables and the settings of a host are all kept this way, because scripts can see the order.
Names are texts nearly everywhere.
-/

namespace Vimscript

/-- Things under names of some type, in the order in which the names were added. -/
abbrev EntriesBy (κ α : Type) := List (κ × α)

/-- Things under names that are texts. -/
abbrev Entries (α : Type) := EntriesBy String α

namespace Entries

variable {κ α : Type} [DecidableEq κ]

/-- The thing under a name. -/
def find? (name : κ) : EntriesBy κ α → Option α
  | [] => none
  | (k, v) :: rest => if k = name then some v else find? name rest

/-- Puts a thing under a name: a known name keeps its place, a new one comes last. -/
def put (name : κ) (value : α) : EntriesBy κ α → EntriesBy κ α
  | [] => [(name, value)]
  | (k, v) :: rest => if k = name then (k, value) :: rest else (k, v) :: put name value rest

/-- Removes a name. -/
def remove (name : κ) (entries : EntriesBy κ α) : EntriesBy κ α :=
  entries.filter fun e => e.1 != name

/-- The names in order. -/
def names {κ α : Type} (entries : EntriesBy κ α) : List κ :=
  entries.map (·.1)

/-- The first entries are overruled by those that follow. -/
def merge (entries others : EntriesBy κ α) : EntriesBy κ α :=
  others.foldl (fun acc e => put e.1 e.2 acc) entries

/-! ## What putting and removing do to the view by name -/

theorem find?_put (name other : κ) (value : α) (entries : EntriesBy κ α) :
    find? other (put name value entries)
      = if name = other then some value else find? other entries := by
  induction entries with
  | nil => simp [put, find?]
  | cons e rest ih =>
    obtain ⟨k, v⟩ := e
    by_cases hk : k = name
    · subst hk
      by_cases ho : k = other <;> simp [put, find?, ho]
    · by_cases ho : k = other
      · subst ho
        simp [put, find?, hk, Ne.symm hk]
      · simp [put, find?, hk, ho, ih]

/-- A new name comes last. -/
theorem put_of_not_mem {name : κ} {value : α} {entries : EntriesBy κ α}
    (hnew : name ∉ names entries) : put name value entries = entries ++ [(name, value)] := by
  induction entries with
  | nil => rfl
  | cons e rest ih =>
    obtain ⟨k, v⟩ := e
    rw [names, List.map_cons, List.mem_cons, not_or] at hnew
    rw [put, if_neg (Ne.symm hnew.1), ih hnew.2, List.cons_append]

theorem find?_remove (name other : κ) (entries : EntriesBy κ α) :
    find? other (remove name entries)
      = if name = other then none else find? other entries := by
  induction entries with
  | nil => simp [remove, find?]
  | cons e rest ih =>
    obtain ⟨k, v⟩ := e
    by_cases hk : k = name
    · have dropped : remove name ((k, v) :: rest) = remove name rest := by simp [remove, hk]
      rw [dropped, ih]
      by_cases ho : name = other
      · simp [ho]
      · simp [find?, hk, ho]
    · have kept : remove name ((k, v) :: rest) = (k, v) :: remove name rest := by
        simp [remove, hk]
      rw [kept]
      by_cases ho : k = other
      · subst ho
        simp [find?, Ne.symm hk]
      · simp [find?, ho, ih]

theorem find?_eq_none_iff {name : κ} {entries : EntriesBy κ α} :
    find? name entries = none ↔ name ∉ names entries := by
  induction entries with
  | nil => simp [find?, names]
  | cons e rest ih =>
    obtain ⟨k, v⟩ := e
    by_cases hk : k = name
    · simp [find?, names, hk]
    · simp only [names] at ih
      simp [find?, names, hk, ih, Ne.symm hk]

theorem mem_of_find? {name : κ} {value : α} {entries : EntriesBy κ α}
    (h : find? name entries = some value) : (name, value) ∈ entries := by
  induction entries with
  | nil => cases h
  | cons e rest ih =>
    obtain ⟨k, v⟩ := e
    by_cases hk : k = name
    · subst hk
      simp only [find?, if_true, Option.some.injEq] at h
      rw [h]
      exact List.mem_cons_self
    · simp only [find?, hk, if_false] at h
      exact List.mem_cons_of_mem _ (ih h)

/-- Where every name is used once, the things found are the entries. -/
theorem find?_eq_some_iff {name : κ} {value : α} {entries : EntriesBy κ α}
    (hnodup : (names entries).Nodup) :
    find? name entries = some value ↔ (name, value) ∈ entries := by
  refine ⟨mem_of_find?, fun h => ?_⟩
  induction entries with
  | nil => cases h
  | cons e rest ih =>
    obtain ⟨k, v⟩ := e
    simp only [names, List.map_cons, List.nodup_cons] at hnodup
    rcases List.mem_cons.mp h with he | hrest
    · cases he
      simp [find?]
    · have hk : k ≠ name := by
        rintro rfl
        exact hnodup.1 (List.mem_map_of_mem hrest)
      simp [find?, hk, ih hnodup.2 hrest]

/-- A known name keeps its place and a new one comes last. -/
theorem names_put (name : κ) (value : α) (entries : EntriesBy κ α) :
    names (put name value entries)
      = if name ∈ names entries then names entries else names entries ++ [name] := by
  induction entries with
  | nil => simp [put, names]
  | cons e rest ih =>
    obtain ⟨k, v⟩ := e
    by_cases hk : k = name
    · simp [put, names, hk]
    · simp only [names] at ih
      by_cases hm : name ∈ rest.map (·.1)
      · simp [put, names, hk, Ne.symm hk, ih, hm]
      · simp [put, names, hk, Ne.symm hk, ih, hm]

end Entries

end Vimscript
