import Vimscript.Eval.Assign
import Vimscript.Proofs.Heap.Keeping
import Vimscript.Proofs.Run.Result

/-!
# Compound assignments that fail

A compound assignment to a variable reads it, combines what it holds with
the value on the right, and writes the result back. Reading changes nothing
(`Op.Reads`), and a write that is refused has changed nothing
(`Op.FailsClean`), because everything that can refuse it is checked first.
Between the two, most operators make a new value and leave the old ones
alone. The one exception is `+=` on two Lists: it extends the first in
place, and only then is the variable written. So where the variable refuses
to be written, the List has been extended all the same, and this is the
only change a failed assignment can leave behind
(`failed_update_keeps_iff`).
-/

namespace Vimscript

open Run

/-! ## Operations that leave the heap alone -/

namespace Op

variable {α β : Type}

theorem value_eq (r : Ref) (h : Heap) : value r h = (.ok (h.value r), h) := rfl

theorem isLocked_eq (r : Ref) (h : Heap) : isLocked r h = (.ok (h.isLocked r), h) := rfl

theorem get_eq (h : Heap) : (get : Op Heap) h = (.ok h, h) := rfl

theorem reading_eq (f : Heap → Result α) (h : Heap) : reading f h = (f h, h) := by
  refine (bind_of_ok (get_eq h)).trans ?_
  cases f h <;> rfl

theorem modify_eq (f : Heap → Heap) (h : Heap) : (modify f : Op Unit) h = (.ok (), f h) := rfl

/-- An operation changes nothing, however it ends. -/
def Reads (op : Op α) : Prop := ∀ h, (op h).2 = h

/-- An operation that stops short has changed nothing. -/
def FailsClean (op : Op α) : Prop := ∀ h stop h', op h = (.error stop, h') → h' = h

theorem Reads.eq {op : Op α} (hop : Reads op) {h h' : Heap} {r : Except Stop α}
    (hout : op h = (r, h')) : h = h' := by
  have hread := hop h
  rw [hout] at hread
  exact hread.symm

theorem Reads.pure (a : α) : Reads (pure a : Op α) := fun _ => rfl

theorem Reads.fail (cause : Cause) : Reads (fail cause : Op α) := fun _ => rfl

theorem Reads.get : Reads (get : Op Heap) := fun _ => rfl

theorem Reads.bind {op : Op α} {f : α → Op β} (hop : Reads op) (hf : ∀ a, Reads (f a)) :
    Reads (op >>= f) := by
  intro h
  rcases hout : op h with ⟨stop | a, h'⟩
  · rw [bind_of_error hout, hop.eq hout]
  · rw [bind_of_ok hout, hf a h', hop.eq hout]

/-- A part that only reads leaves the heap to what follows, and tells it what it found. -/
theorem Reads.bind_heap {op : Op α} {f : α → Op β} (hop : Reads op) {Q : Heap → Prop} {h : Heap}
    (hstop : Q h) (hf : ∀ a, op h = (.ok a, h) → Q (f a h).2) : Q ((op >>= f) h).2 := by
  rcases hout : op h with ⟨stop | a, h'⟩
  · rw [bind_of_error hout, ← hop.eq hout]
    exact hstop
  · obtain rfl := hop.eq hout
    rw [bind_of_ok hout]
    exact hf a hout

theorem FailsClean.modify (f : Heap → Heap) : FailsClean (modify f : Op Unit) := by
  intro h stop h' hout
  cases hout

theorem FailsClean.after {op : Op α} {f : α → Op β} (hop : Reads op) (hf : ∀ a, FailsClean (f a)) :
    FailsClean (op >>= f) := by
  intro h stop h' hout
  rcases hfirst : op h with ⟨stop' | a, h₁⟩
  · rw [bind_of_error hfirst] at hout
    cases hout
    exact (hop.eq hfirst).symm
  · obtain rfl := hop.eq hfirst
    rw [bind_of_ok hfirst] at hout
    exact hf a h stop h' hout

end Op

/-! ## Reading and writing variables -/

namespace Spaces

open Op

variable (sp : Spaces) (scope : Option Scope) (name : String) (c : Context)

theorem searched_reads : Reads (sp.searched scope name c) := by
  unfold searched
  split
  · exact .pure _
  · exact .fail _

theorem space_reads : Reads (sp.space scope c) := by
  unfold space
  split
  · exact .pure _
  · exact .fail _

theorem getOrFail_reads : Reads (sp.getOrFail scope name c) := by
  refine .bind (.bind (searched_reads sp scope name c) fun _ => .bind .get fun _ => .pure _) ?_
  intro found
  split
  · exact .pure _
  · exact .fail _

theorem requireWritable_reads : Reads (requireWritable scope name c) := by
  unfold requireWritable
  split
  · exact .pure _
  · exact .fail _

theorem target_reads : Reads (sp.target scope name c) := by
  cases scope with
  | some scope => exact space_reads sp _ c
  | none =>
      refine .bind (searched_reads sp none name c) fun _ => .bind .get fun h => ?_
      split
      · exact .pure _
      · exact space_reads sp none c

/-- All that can refuse a write is checked before the variable is written. -/
theorem set_failsClean (value : Ref) : FailsClean (sp.set scope name value c) := by
  refine .after (requireWritable_reads scope name c) fun _ =>
    .after (target_reads sp scope name c) fun ns => .after .get fun h => ?_
  split
  · exact .after (.fail _) fun _ => .modify _
  · exact .modify _

/-- What a compound assignment to a variable comes to once its name is known. -/
def update (op : Arith) (value : Ref) : Op Unit := do
  let current ← sp.getOrFail scope name c
  let result ← Op.combine op current value (displayName scope name)
  sp.set scope name result c

end Spaces

theorem assign_update {M : Machine} {mark : Option Mark} {scope : Option Scope}
    {parts : List NamePart} {op : Arith} {value : Ref} {c : Context} {setup : Setup} {s t : State}
    {name : String} (hname : evalName M parts c setup s = (.ok name, t)) :
    assign M (.var mark scope parts) (.update op) value c setup s =
      (liftM (setup.spaces.update scope name c op value) : Run Unit) setup t := by
  unfold assign
  dsimp only
  rw [bind_of_ok hname, bind_of_ok (a := setup.spaces) (t := t) rfl]
  simp only [Spaces.update, op_bind]

/-! ## Joining two Lists -/

/-- An operator is `+` and finds two Lists, the first of which is not locked. -/
structure Joins (h : Heap) (op : Arith) (current value : Ref) (items added : List Ref) : Prop where
  isAdd : op = .add
  left : h.value current = .list items
  right : h.value value = .list added
  unlocked : h.isLocked current = false

section

variable {h : Heap} {op : Arith} {current value : Ref}

theorem Joins.unique {items added items' added' : List Ref}
    (hj : Joins h op current value items added) (hj' : Joins h op current value items' added') :
    items' = items ∧ added' = added := by
  have hleft := hj'.left
  have hright := hj'.right
  rw [hj.left] at hleft
  rw [hj.right] at hright
  cases hleft
  cases hright
  exact ⟨rfl, rfl⟩

theorem combine_of_joins {items added : List Ref} (hj : Joins h op current value items added)
    (what : String) :
    Op.combine op current value what h =
      (.ok current, h.setValue current (.list (items ++ added))) := by
  have hitems : h.items current = items := by
    rw [Heap.items, hj.left]
  cases hj.isAdd
  unfold Op.combine
  rw [Op.bind_of_ok (Op.value_eq current h), Op.bind_of_ok (Op.value_eq value h), hj.left,
    hj.right]
  dsimp only
  rw [Op.bind_of_ok (Op.isLocked_eq current h), hj.unlocked, ← hitems]
  rfl

/-- Any other compound operator makes a new value, or fails. -/
theorem combine_kept (hno : ∀ items added, ¬Joins h op current value items added) (what : String) :
    h.Kept (Op.combine op current value what h).2 := by
  unfold Op.combine
  rw [Op.bind_of_ok (Op.value_eq current h), Op.bind_of_ok (Op.value_eq value h)]
  generalize hleft : h.value current = left
  generalize hright : h.value value = right
  split
  · rename_i items added
    rcases hlocked : h.isLocked current with _ | _
    · exact absurd ⟨rfl, hleft, hright, hlocked⟩ (hno items added)
    · rw [Op.bind_of_ok (Op.isLocked_eq current h), hlocked]
      exact Heap.kept_extending.refl h
  · exact Op.arith_keeps Heap.kept_extending op current value h

end

namespace Heap

theorem index_lt_of_list {h : Heap} {r : Ref} {items : List Ref} (hr : h.value r = .list items) :
    r.index < h.size := by
  refine Nat.lt_of_not_le fun hout => ?_
  have hdefault : h.value r = .number 0 := by
    rw [value, cell, Array.getD_eq_getD_getElem?, Array.getElem?_eq_none hout]
    rfl
  rw [hdefault] at hr
  cases hr

theorem kept_extended_iff {h : Heap} {r : Ref} {items added : List Ref}
    (hr : h.value r = .list items) :
    h.Kept (h.setValue r (.list (items ++ added))) ↔ added = [] := by
  have hin := index_lt_of_list hr
  constructor
  · intro hkept
    have hvalue := hkept.value hin
    rw [value_setValue h _ hin, hr] at hvalue
    simpa using hvalue
  · rintro rfl
    refine ⟨Nat.le_of_eq (size_setValue h _ _).symm, fun s _ => ?_⟩
    by_cases hrs : s = r
    · subst hrs
      rw [List.append_nil, ← hr, cell_setValue_self h _ hin]
      rfl
    · exact cell_setValue_of_ne h _ hrs

end Heap

/-! ## Assignments that fail -/

/-- A compound assignment to a variable extends the List `current` that the variable holds. -/
structure ExtendsInPlace (sp : Spaces) (h : Heap) (scope : Option Scope) (name : String)
    (c : Context) (op : Arith) (value current : Ref) (items added : List Ref) : Prop where
  held : sp.getOrFail scope name c h = (.ok current, h)
  joins : Joins h op current value items added

section

variable {sp : Spaces} {h h' : Heap} {scope : Option Scope} {name : String} {c : Context}
  {op : Arith} {value current current' : Ref} {items items' added added' : List Ref}

theorem ExtendsInPlace.unique (hext : ExtendsInPlace sp h scope name c op value current items added)
    (hext' : ExtendsInPlace sp h scope name c op value current' items' added') :
    current' = current ∧ items' = items ∧ added' = added := by
  have hheld := hext'.held
  rw [hext.held] at hheld
  cases hheld
  exact ⟨rfl, hext.joins.unique hext'.joins⟩

/-- Two Lists are joined before anything asks whether the variable may be written. -/
theorem update_of_error {stop : Stop}
    (hfail : sp.update scope name c op value h = (.error stop, h')) :
    (∃ current items added, ExtendsInPlace sp h scope name c op value current items added ∧
      h' = h.setValue current (.list (items ++ added))) ∨
    ((¬∃ current items added, ExtendsInPlace sp h scope name c op value current items added) ∧
      h.Kept h') := by
  unfold Spaces.update at hfail
  rcases hheld : sp.getOrFail scope name c h with ⟨stop' | current, h₁⟩
  · obtain rfl := (sp.getOrFail_reads scope name c).eq hheld
    rw [Op.bind_of_error hheld] at hfail
    cases hfail
    refine .inr ⟨?_, Heap.kept_extending.refl h⟩
    rintro ⟨current, items, added, hext⟩
    rw [hext.held] at hheld
    cases hheld
  · obtain rfl := (sp.getOrFail_reads scope name c).eq hheld
    rw [Op.bind_of_ok hheld] at hfail
    by_cases hjoins : ∃ items added, Joins h op current value items added
    · obtain ⟨items, added, hjoins⟩ := hjoins
      rw [Op.bind_of_ok (combine_of_joins hjoins _)] at hfail
      -- Only the write is left to fail, and it leaves the heap as the joining left it.
      refine .inl ⟨current, items, added, ⟨hheld, hjoins⟩, ?_⟩
      exact sp.set_failsClean scope name c current _ _ _ hfail
    · have hkept := combine_kept (fun items added hj => hjoins ⟨items, added, hj⟩)
        (displayName scope name)
      refine .inr ⟨?_, ?_⟩
      · rintro ⟨current', items, added, hext⟩
        have hsame := hext.held
        rw [hheld] at hsame
        cases hsame
        exact hjoins ⟨items, added, hext.joins⟩
      · rcases hcombined : Op.combine op current value (displayName scope name) h with
          ⟨stop' | result, h₂⟩
        · rw [Op.bind_of_error hcombined] at hfail
          rw [hcombined] at hkept
          cases hfail
          exact hkept
        · rw [Op.bind_of_ok hcombined] at hfail
          rw [hcombined] at hkept
          rw [sp.set_failsClean scope name c result _ _ _ hfail]
          exact hkept

end

/-- A compound assignment to a variable that fails has changed no object, and so no variable, just
when it was none of `+=` that found two Lists, the first not locked and the second not empty. If it
was, the first List has been extended although the assignment failed. -/
theorem failed_update_keeps_iff {M : Machine} {mark : Option Mark} {scope : Option Scope}
    {parts : List NamePart} {op : Arith} {value : Ref} {c : Context} {setup : Setup}
    {s t u : State} {name : String} {stop : Stop}
    (hname : evalName M parts c setup s = (.ok name, t))
    (hfail : assign M (.var mark scope parts) (.update op) value c setup s = (.error stop, u)) :
    u = { t with heap := u.heap } ∧
    (t.heap.Kept u.heap ↔
      ¬∃ current items added, added ≠ [] ∧
        ExtendsInPlace setup.spaces t.heap scope name c op value current items added) ∧
    ∀ current items added,
      ExtendsInPlace setup.spaces t.heap scope name c op value current items added →
        u.heap = t.heap.setValue current (.list (items ++ added)) := by
  rw [assign_update hname] at hfail
  rcases hupdate : setup.spaces.update scope name c op value t.heap with ⟨stop' | _, h⟩
  · rw [op_of_error hupdate] at hfail
    cases hfail
    refine ⟨rfl, ?_⟩
    obtain ⟨current, items, added, hext, rfl⟩ | ⟨hno, hkept⟩ := update_of_error hupdate
    · refine ⟨(Heap.kept_extended_iff hext.joins.left).trans ⟨?_, ?_⟩, ?_⟩
      · rintro rfl ⟨current', items', added', hne, hext'⟩
        exact hne (hext.unique hext').2.2
      · intro hno
        refine Decidable.byContradiction fun hne => ?_
        exact hno ⟨current, items, added, hne, hext⟩
      · intro current' items' added' hext'
        obtain ⟨rfl, rfl, rfl⟩ := hext.unique hext'
        rfl
    · refine ⟨iff_of_true hkept ?_, ?_⟩
      · rintro ⟨current, items, added, -, hext⟩
        exact hno ⟨current, items, added, hext⟩
      · intro current items added hext
        exact absurd ⟨current, items, added, hext⟩ hno
  · rw [op_of_ok hupdate] at hfail
    cases hfail

/-- The inside of a call: the namespaces of its frame, the second of which has an empty List for the
argument `l` and a Number for `n`; these two; and a List that holds the Number. -/
def withArguments : State where
  heap := { cells := #[
    { value := .dict {} }, { value := .dict { entries := [("l", ⟨2⟩), ("n", ⟨3⟩)] } },
    { value := .list [] }, { value := .number 5 }, { value := .list [⟨3⟩] }] }

/-- Where the code of the call runs. -/
def calledContext : Context :=
  { script := default, frame := some { own := { locals := ⟨0⟩, arguments := ⟨1⟩ } } }

/-- A setup in which nothing is special. -/
def bareSetup : Setup :=
  { spaces := default, maxDepth := 100, parser := none, matcher := fun _ _ => .ok true,
    isTracing := false }

/-- `:let` with `+=` for an argument of the call. -/
def addToArgument (name : String) (value : Ref) : Run Unit :=
  assign Machine.halted (.var none (some .arguments) [.plain name]) (.update .add) value
    calledContext

/-- An argument is read-only. The Number it holds is still the same. -/
theorem number_argument_kept :
    ∃ u, addToArgument "n" ⟨3⟩ bareSetup withArguments =
        (.error (.ofCause (.readOnly "a:n")), u) ∧
      withArguments.heap.Kept u.heap := by
  have hname : evalName Machine.halted [.plain "n"] calledContext bareSetup withArguments =
      (.ok "n", withArguments) := rfl
  have hrun : ∃ u, addToArgument "n" ⟨3⟩ bareSetup withArguments =
      (.error (.ofCause (.readOnly "a:n")), u) := ⟨_, rfl⟩
  obtain ⟨u, hu⟩ := hrun
  refine ⟨u, hu, (failed_update_keeps_iff hname hu).2.1.2 ?_⟩
  rintro ⟨current, items, added, -, hext⟩
  have hright := hext.joins.right
  cases hright

/-- The List an argument holds has been extended by the time it is found to be read-only. -/
theorem list_argument_extended :
    ∃ u, addToArgument "l" ⟨4⟩ bareSetup withArguments =
        (.error (.ofCause (.readOnly "a:l")), u) ∧
      withArguments.heap.items ⟨2⟩ = [] ∧ u.heap.items ⟨2⟩ = [⟨3⟩] :=
  ⟨_, rfl, rfl, rfl⟩

end Vimscript
