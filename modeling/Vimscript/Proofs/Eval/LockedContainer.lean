import Vimscript.Eval.Call
import Vimscript.Proofs.Library.Policy
import Vimscript.Proofs.Run.Policy

/-!
# Locked containers

Each of the operations that change a List or Dictionary has a lock test of
its own, and not all of them test the same lock: an item is assigned when
the old item is not locked, an entry is put under a known key when the old
entry is not. So a locked container can change, but it cannot grow or
shrink. That is a policy (`Policy.sized`): its container is locked and has
as many items, or the same keys, as at the start. The laws of a policy list
what an operation can do and which lock it has tested, and none of these
changes resizes a locked container.

The operations that would resize it are refused. They are followed up to
the test, and nothing has been changed by then. The one case that takes an
argument is `+=` on the items of a slice, which works its way from item to
item: the items before the locked List have been replaced, but the List is
still where it was when its turn comes (`assignRun_refused`).
-/

namespace Vimscript

open Run

/-! ## How large a container is -/

/-- The size of a container: how many items a List has, or which keys a Dictionary, in order. -/
inductive Extent where
  | items (count : Nat)
  | keys (names : List String)
deriving DecidableEq

/-- The size of a List or Dictionary. -/
def Value.extent? : Value → Option Extent
  | .list items => some (.items items.length)
  | .dict t => some (.keys t.keys)
  | _ => none

theorem Table.keys_insert_of_get? {t : Table} {key : String} {held : Ref}
    (hheld : t.get? key = some held) (value : Ref) : (t.insert key value).keys = t.keys := by
  have hmem : key ∈ Entries.names t.entries := by
    refine Decidable.byContradiction fun hnot => ?_
    rw [Table.get?, Entries.find?_eq_none_iff.mpr hnot] at hheld
    cases hheld
  rw [keys, insert, Entries.names_put, if_pos hmem, keys]

/-- A container stays locked and keeps its size; every other object may change. -/
def Policy.sized (r : Ref) (extent : Extent) : Policy where
  Holds h := h.isLocked r = true ∧ (h.value r).extent? = some extent
  Given _ := True
  Free x := x ≠ r

section

variable {r : Ref} {extent : Extent}

theorem Policy.sized_of_cell {h h' : Heap} (hh : (sized r extent).Holds h)
    (hcell : h'.cell r = h.cell r) : (sized r extent).Holds h' := by
  obtain ⟨hlocked, hextent⟩ := hh
  refine ⟨?_, ?_⟩
  · rw [Heap.isLocked, hcell]
    exact hlocked
  · rw [Heap.value, hcell]
    exact hextent

theorem Policy.sized_of_kept {h h' : Heap} (hh : (sized r extent).Holds h) (hkept : h.Kept h') :
    (sized r extent).Holds h' :=
  sized_of_cell hh (hkept.cell r (Heap.index_lt_of_isLocked hh.1))

theorem Policy.sized_lawful : (sized r extent).Lawful where
  carries _ _ := fun _ _ => trivial
  alloc := by
    intro h v hh _
    have hin := Heap.index_lt_of_isLocked hh.1
    refine ⟨sized_of_kept hh (Heap.kept_extending.alloc h v), trivial, ?_⟩
    rintro rfl
    exact Nat.lt_irrefl _ hin
  container _ _ := trivial
  free := by
    rintro h x hh - - hfree rfl
    rw [hh.1] at hfree
    cases hfree
  freeBlob := by
    rintro h x bytes hh - hblob rfl
    have hextent := hh.2
    rw [hblob] at hextent
    cases hextent
  replace := by
    intro h x v hh hx _
    exact sized_of_cell hh (Heap.cell_setValue_of_ne h v hx.symm)
  setItem := by
    intro h list item value items i hh _ hitems _ _ _
    by_cases hlist : list = r
    · subst hlist
      have hin := Heap.index_lt_of_list hitems
      have hextent := hh.2
      rw [hitems] at hextent
      refine ⟨(Heap.isLocked_setValue h _ list list).trans hh.1, ?_⟩
      rw [Heap.value_setValue h _ hin, Value.extent?, List.length_set]
      exact hextent
    · exact sized_of_cell hh (Heap.cell_setValue_of_ne h _ (Ne.symm hlist))
  setEntry := by
    intro h dict value t key hh _ ht hadmits _
    by_cases hdict : dict = r
    · subst hdict
      -- the Dictionary is locked, so the entry is not a new one
      rcases hheld : t.get? key with _ | held
      · rw [Heap.Admits, hheld, hh.1] at hadmits
        cases hadmits
      · have hin := Heap.index_lt_of_dict ht
        have hextent := hh.2
        rw [ht] at hextent
        refine ⟨(Heap.isLocked_setValue h _ dict dict).trans hh.1, ?_⟩
        rw [Heap.value_setValue h _ hin, Value.extent?, Table.keys_insert_of_get? hheld]
        exact hextent
    · exact sized_of_cell hh (Heap.cell_setValue_of_ne h _ (Ne.symm hdict))

end

/-! ## Operations that are refused -/

/-- An operation fails and changes nothing. -/
def Op.RefusedAt {α : Type} (op : Op α) (h : Heap) : Prop := ∃ stop, op h = (.error stop, h)

/-- A computation fails and changes nothing. -/
def Run.RefusedAt {α : Type} (x : Run α) (setup : Setup) (s : State) : Prop :=
  ∃ stop, x setup s = (.error stop, s)

theorem Run.RefusedAt.op {α : Type} {op : Op α} {setup : Setup} {s : State}
    (hop : op.RefusedAt s.heap) : RefusedAt (liftM op : Run α) setup s := by
  obtain ⟨stop, hstop⟩ := hop
  exact ⟨stop, op_of_error hstop⟩

/-- Reading comes first, whether it succeeds or fails. -/
theorem Op.RefusedAt.after {α β : Type} {op : Op α} {f : α → Op β} {h : Heap} (hop : Reads op)
    (hf : ∀ a, op h = (.ok a, h) → (f a).RefusedAt h) : (op >>= f).RefusedAt h := by
  rcases hout : op h with ⟨stop | a, h'⟩
  · obtain rfl := hop.eq hout
    exact ⟨stop, Op.bind_of_error hout⟩
  · obtain rfl := hop.eq hout
    obtain ⟨stop, hstop⟩ := hf a hout
    exact ⟨stop, (Op.bind_of_ok hout).trans hstop⟩

theorem Op.RefusedAt.bind {α β : Type} {op : Op α} {h : Heap} (hop : op.RefusedAt h)
    (f : α → Op β) : (op >>= f).RefusedAt h := by
  obtain ⟨stop, hstop⟩ := hop
  exact ⟨stop, Op.bind_of_error hstop⟩

theorem Op.RefusedAt.fail {α : Type} (c : Cause) (h : Heap) : (fail c : Op α).RefusedAt h :=
  ⟨_, rfl⟩

theorem Op.RefusedAt.value {β : Type} {r : Ref} {f : Value → Op β} {h : Heap}
    (hf : (f (h.value r)).RefusedAt h) : (Op.value r >>= f).RefusedAt h := hf

theorem Op.RefusedAt.locked {β : Type} {r : Ref} {c : Cause} {op : Op β} {h : Heap}
    (hlocked : h.isLocked r = true) :
    (Op.isLocked r >>= fun isLocked =>
      if isLocked = true then (Vimscript.fail c : Op Unit) >>= fun _ => op else op).RefusedAt
      h := by
  refine ⟨.ofCause c, ?_⟩
  rw [Op.bind_of_ok (Op.isLocked_eq r h), hlocked]
  rfl

/-- A container that is a List or a Dictionary. -/
theorem Value.extent?_cases {v : Value} {extent : Extent} (hv : v.extent? = some extent) :
    (∃ items, v = .list items) ∨ ∃ t, v = .dict t := by
  cases v with
  | list items => exact .inl ⟨items, rfl⟩
  | dict t => exact .inr ⟨t, rfl⟩
  | _ => cases hv

section

variable {h : Heap} {r : Ref} {extent : Extent} (hlocked : h.isLocked r = true)
  (hextent : (h.value r).extent? = some extent)
include hlocked

theorem Library.refuseLocked_refused (cause : Cause) : (refuseLocked r cause).RefusedAt h := by
  refine ⟨.ofCause cause, ?_⟩
  rw [refuseLocked, Op.bind_of_ok (Op.isLocked_eq r h), hlocked]
  rfl

theorem combine_refused {items : List Ref} (hitems : h.value r = .list items) (value : Ref)
    (what : String) : (Op.combine .add r value what).RefusedAt h := by
  refine .value (.value ?_)
  rw [hitems]
  rcases hvalue : h.value value with n | x | s | items | t | f | bytes
  case list => exact .locked hlocked
  -- a List and any other value have no sum
  all_goals
    refine .value (.value ?_)
    rw [hitems, hvalue]
    exact ⟨_, rfl⟩

include hextent

theorem Library.add_refused (item : Ref) : (add r item).RefusedAt h := by
  refine .value ?_
  obtain ⟨items, hr⟩ | ⟨t, hr⟩ := Value.extent?_cases hextent <;> rw [hr]
  · exact (refuseLocked_refused hlocked _).bind _
  · exact .fail _ h

theorem Library.insert_refused (item : Ref) (at_ : Option Ref) :
    (insert r item at_).RefusedAt h := by
  refine .value ?_
  obtain ⟨items, hr⟩ | ⟨t, hr⟩ := Value.extent?_cases hextent <;> rw [hr]
  · exact (refuseLocked_refused hlocked _).bind _
  · exact .fail _ h

theorem Library.remove_refused (key : Ref) (last : Option Ref) :
    (remove r key last).RefusedAt h := by
  refine .value ?_
  obtain ⟨items, hr⟩ | ⟨t, hr⟩ := Value.extent?_cases hextent <;> rw [hr]
  · exact (refuseLocked_refused hlocked _).bind _
  · dsimp only
    split
    · exact (Op.RefusedAt.fail _ h).bind _
    · exact (refuseLocked_refused hlocked _).bind _

theorem Library.reverse_refused : (reverse r).RefusedAt h := by
  refine .value ?_
  obtain ⟨items, hr⟩ | ⟨t, hr⟩ := Value.extent?_cases hextent <;> rw [hr]
  · exact (refuseLocked_refused hlocked _).bind _
  · exact .fail _ h

theorem unletItem_unchanged (key : Ref) (bang : Bool) : (Op.unletItem r key bang h).2 = h := by
  have hheap : ∀ {op : Op Unit}, op.RefusedAt h → (op h).2 = h := by
    rintro op ⟨stop, hstop⟩
    rw [hstop]
  unfold Op.unletItem
  rw [Op.bind_of_ok (Op.value_eq r h)]
  obtain ⟨items, hr⟩ | ⟨t, hr⟩ := Value.extent?_cases hextent <;> rw [hr]
  · refine hheap (.after (Op.toNumber_reads key) fun i _ => ?_)
    dsimp only
    split
    · exact .after (.orFault _) fun _ _ => .fail _ h
    · exact .locked hlocked
  · refine (Op.toText_reads key).bind_heap (Q := fun h' => h' = h) rfl fun k _ => ?_
    rcases t.get? k with _ | held
    · cases bang <;> rfl
    · refine hheap ⟨.ofCause (.locked k), ?_⟩
      dsimp only
      rw [Op.bind_of_ok (Op.isLocked_eq r h), Op.bind_of_ok (Op.isLocked_eq held h), hlocked,
        Bool.true_or]
      rfl

end

theorem Library.extend_refused {h : Heap} {r : Ref} {items : List Ref}
    (hlocked : h.isLocked r = true) (hitems : h.value r = .list items) (other : Ref)
    (how : Option Ref) : (extend r other how).RefusedAt h := by
  refine .value (.value ?_)
  rw [hitems]
  rcases h.value other with n | x | s | more | t | f | bytes
  case list => exact (refuseLocked_refused hlocked _).bind _
  all_goals exact .fail _ h

/-! ### Extending a List in place -/

theorem Heap.items_of_cell {h h' : Heap} {r : Ref} (hcell : h'.cell r = h.cell r) :
    h'.items r = h.items r := by
  rw [Heap.items, Heap.items, value, value, hcell]

/-- What a key selects in a container. -/
inductive Heap.ItemAt (h : Heap) (container key r : Ref) : Prop
  | entry (t : Table) (k : String) : h.value container = .dict t →
      (h.value key).toText = .ok k → t.get? k = some r → ItemAt h container key r
  | item (items : List Ref) (i : Int) (p : Nat) : h.value container = .list items →
      (h.value key).toNumber = .ok i → position? items.length i = some p → items[p]? = some r →
      ItemAt h container key r

theorem assignItem_refused {h : Heap} {container key r : Ref} {items : List Ref}
    (hlocked : h.isLocked r = true) (hitems : h.value r = .list items)
    (hitem : h.ItemAt container key r) (isDict : Callee → Bool) (value : Ref) :
    (Op.assignItem isDict container key (.update .add) value).RefusedAt h := by
  refine .value ?_
  cases hitem with
  | entry t k hcontainer hkey hheld =>
      rw [hcontainer]
      have htext : Op.toText key h = (.ok k, h) := by rw [← hkey]; rfl
      refine .after (Op.toText_reads key) fun k' hk' => ?_
      obtain rfl : k = k' := by rw [htext] at hk'; cases hk'; rfl
      obtain ⟨stop, hstop⟩ := combine_refused hlocked hitems value k
      refine ⟨stop, ?_⟩
      rw [Op.assignEntry, Op.bind_of_ok (Op.get_eq h), Heap.table_of_dict hcontainer, hheld]
      exact Op.bind_of_error hstop
  | item others i p hcontainer hkey hp hheld =>
      rw [hcontainer]
      have hnumber : Op.toNumber key h = (.ok i, h) := by rw [← hkey]; rfl
      refine .after (Op.toNumber_reads key) fun i' hi' => ?_
      obtain rfl : i = i' := by rw [hnumber] at hi'; cases hi'; rfl
      obtain ⟨stop, hstop⟩ := combine_refused hlocked hitems value (Op.itemName i)
      refine ⟨stop, ?_⟩
      rw [hp]
      dsimp only
      rw [List.getD_eq_getElem?_getD, hheld]
      exact Op.bind_of_error hstop

theorem combine_cell_of_ne {h : Heap} {r current value : Ref} (hne : r ≠ current) (op : Arith)
    (what : String) (hin : r.index < h.size) :
    (Op.combine op current value what h).2.cell r = h.cell r := by
  by_cases hjoins : ∃ items added, Joins h op current value items added
  · obtain ⟨items, added, hj⟩ := hjoins
    rw [combine_of_joins hj]
    exact Heap.cell_setValue_of_ne h _ hne
  · exact (combine_kept (fun items added hj => hjoins ⟨items, added, hj⟩) what).cell r hin

theorem ne_of_unlocked {h : Heap} {r current : Ref} (hlocked : h.isLocked r = true)
    (hfree : h.isLocked current = false) : r ≠ current := by
  rintro rfl
  rw [hlocked] at hfree
  cases hfree

/-- What adding to an unlocked item leaves of a locked object: the object is what it was, or, where
it is the container of the item, its other items are. -/
theorem replaced_spares {h h₁ : Heap} {container r current item value : Ref} {items : List Ref}
    {what : String} (i : Nat) (hlocked : h.isLocked r = true)
    (hfree : h.isLocked current = false) (hlist : h.value container = .list items)
    (hout : Op.combine .add current item what h = (.ok value, h₁)) :
    let h₂ := h₁.setValue container (.list ((h₁.items container).set i value))
    h₂.isLocked r = true ∧ (container ≠ r → h₂.cell r = h.cell r) ∧
      (∀ q, i ≠ q → (h₂.items r)[q]? = (h.items r)[q]?) ∧
      ∀ q, i ≠ q → (h.items container)[q]? = some r → (h₂.items container)[q]? = some r := by
  intro h₂
  have hin := Heap.index_lt_of_isLocked hlocked
  have hcell : (Op.combine .add current item what h).2.cell r = h.cell r :=
    combine_cell_of_ne (ne_of_unlocked hlocked hfree) .add what hin
  have hjoined := Op.combine_joined .add current item what h
  rw [hout] at hcell hjoined
  -- the addition may have extended the container, if that is the item
  obtain ⟨more, hmore⟩ := hjoined.list container _ hlist
  have hitems₂ : h₂.items container = (h₁.items container).set i value :=
    Heap.items_of_list (Heap.value_setValue h₁ _ (Heap.index_lt_of_list hmore))
  refine ⟨?_, fun hapart => ?_, fun q hq => ?_, fun q hq hitem => ?_⟩
  · rw [Heap.isLocked_setValue, hjoined.isLocked, hlocked]
  · exact (Heap.cell_setValue_of_ne h₁ _ (Ne.symm hapart)).trans hcell
  · rw [← Heap.items_of_cell hcell]
    by_cases hapart : container = r
    · rw [← hapart, hitems₂, List.getElem?_set_ne hq]
    · rw [Heap.items_of_cell (Heap.cell_setValue_of_ne h₁ _ (Ne.symm hapart))]
  · rw [Heap.items_of_list hlist] at hitem
    have hqin := (List.getElem?_eq_some_iff.mp hitem).1
    rw [hitems₂, List.getElem?_set_ne hq, Heap.items_of_list hmore,
      List.getElem?_append_left hqin, hitem]

/-- A slice is assigned item by item, so that items before the locked List have been replaced when
its turn comes. It has been left where it was, and as it was; only where it is an item of itself,
the items before that place are its own. -/
theorem assignRun_refused {container r : Ref} {length p : Nat} (hp : p < length) :
    ∀ (items : List Ref) (i : Nat) (h : Heap), h.isLocked r = true →
      (h.items container)[p]? = some r → i ≤ p → p < i + items.length →
      ∃ stop h', Op.assignRun container (.update .add) length i items h = (.error stop, h') ∧
        (container ≠ r → h'.cell r = h.cell r) ∧
        ∀ q, q < i ∨ p ≤ q → (h'.items r)[q]? = (h.items r)[q]?
  | [], i, h, _, _, hip, hpi => absurd hpi (by simp only [List.length_nil]; omega)
  | item :: rest, i, h, hlocked, hitem, hip, hpi => by
      have hilength : i < length := Nat.lt_of_le_of_lt hip hp
      rw [Op.assignRun, if_pos hilength, Op.bind_of_ok (Op.get_eq h)]
      rcases hcurrent : (h.items container)[i]? with _ | current
      · exact ⟨_, h, rfl, fun _ => rfl, fun _ _ => rfl⟩
      dsimp only
      rw [Op.bind_of_ok (Op.isLocked_eq current h)]
      cases hfree : h.isLocked current with
      | true => exact ⟨_, h, rfl, fun _ => rfl, fun _ _ => rfl⟩
      | false =>
          have hne := ne_of_unlocked hlocked hfree
          have hlt : i < p := by
            refine Nat.lt_of_le_of_ne hip ?_
            rintro rfl
            rw [hcurrent] at hitem
            exact hne (Option.some.inj hitem).symm
          change ∃ stop h', (Op.combine .add current item (Op.itemName i) >>= fun value =>
            Op.setItem container i value >>= fun _ =>
              Op.assignRun container (.update .add) length (i + 1) rest) h = (.error stop, h') ∧ _
          rcases hout : Op.combine .add current item (Op.itemName i) h with ⟨stop | value, h₁⟩
          · have hin := Heap.index_lt_of_isLocked hlocked
            have hcell : (Op.combine .add current item (Op.itemName i) h).2.cell r = h.cell r :=
              combine_cell_of_ne hne .add (Op.itemName i) hin
            rw [hout] at hcell
            refine ⟨stop, h₁, Op.bind_of_error hout, fun _ => hcell, fun q _ => ?_⟩
            rw [Heap.items_of_cell hcell]
          · obtain ⟨hlocked₂, hcell₂, hitems₂, hitem₂⟩ :=
              replaced_spares i hlocked hfree (Heap.value_of_getElem? hitem) hout
            generalize hset : h₁.setValue container _ = h₂ at *
            have hrun : Op.setItem container i value h₁ = (.ok (), h₂) := by rw [← hset]; rfl
            rw [Op.bind_of_ok hout, Op.bind_of_ok hrun]
            obtain ⟨stop, h', hrun', hsame, hothers⟩ := assignRun_refused hp rest (i + 1) h₂
              hlocked₂ (hitem₂ p (Nat.ne_of_lt hlt) hitem) hlt
              (by simp only [List.length_cons] at hpi; omega)
            refine ⟨stop, h', hrun', fun hapart => (hsame hapart).trans (hcell₂ hapart),
              fun q hq => ?_⟩
            rw [hothers q (by omega), hitems₂ q (by omega)]

/-! ## Statements and calls -/

section

variable {M : Machine} {setup : Setup} {s : State} {r : Ref} {extent : Extent}

theorem overContainer_refused {fname : String} {function : Ref} {c : Context}
    {onItems : (Ref → Ref → Run Ref) → Nat → List Ref → Run (List Ref)}
    {onEntries : (Ref → Ref → Run Ref) → Ref → List (String × Ref) → Run Unit}
    (hlocked : s.heap.isLocked r = true) (hextent : (s.heap.value r).extent? = some extent) :
    (Library.overContainer M fname r function c onItems onEntries).RefusedAt setup s := by
  refine ⟨.ofCause (.locked fname), ?_⟩
  unfold Library.overContainer
  rw [bind_of_ok (op_of_ok (Op.value_eq r s.heap))]
  obtain ⟨items, hr⟩ | ⟨t, hr⟩ := Value.extent?_cases hextent <;> rw [hr] <;> dsimp only <;>
    rw [bind_of_ok (op_of_ok (Op.isLocked_eq r s.heap)), hlocked] <;> rfl

theorem sort_refused {how self : Option Ref} {c : Context} (hlocked : s.heap.isLocked r = true)
    (hextent : (s.heap.value r).extent? = some extent) :
    (Library.sort M r how self c).RefusedAt setup s := by
  unfold Library.sort RefusedAt
  rw [bind_of_ok (op_of_ok (Op.value_eq r s.heap))]
  obtain ⟨items, hr⟩ | ⟨t, hr⟩ := Value.extent?_cases hextent <;> rw [hr] <;> dsimp only
  · rw [bind_of_ok (op_of_ok (Op.isLocked_eq r s.heap)), hlocked]
    exact ⟨_, rfl⟩
  · exact ⟨_, rfl⟩

theorem declareEntry_refused {key : String} {signature : Signature} {bang : Bool}
    {body : List Stmt} {c : Context} (hlocked : s.heap.isLocked r = true) :
    (declareEntry r key signature bang body c).RefusedAt setup s := by
  unfold declareEntry RefusedAt
  rw [bind_of_ok (op_of_ok (Op.value_eq r s.heap))]
  cases s.heap.value r with
  | dict t =>
      dsimp only
      rcases t.get? key with _ | held <;> dsimp only
      · rw [bind_of_ok (op_of_ok (Op.isLocked_eq r s.heap)), hlocked]
        exact ⟨_, rfl⟩
      · rw [bind_of_ok (op_of_ok (Op.value_eq held s.heap))]
        cases s.heap.value held with
        | funcref f =>
            cases bang with
            | false => exact ⟨_, rfl⟩
            | true =>
                dsimp only
                rw [if_neg (by decide), bind_of_ok (op_of_ok (Op.isLocked_eq r s.heap)), hlocked]
                exact ⟨_, rfl⟩
        | _ => exact ⟨_, rfl⟩
  | _ => exact ⟨_, rfl⟩

theorem le_of_checkArity {name : String} {arity : Nat × Option Nat} {count : Nat} {a : Unit}
    (harity : checkArity name arity count = .ok a) : arity.1 ≤ count := by
  refine Nat.le_of_not_lt fun hlt => ?_
  rw [checkArity, if_pos hlt] at harity
  cases harity

/-- A built-in function is applied to its arguments unless their number is wrong. -/
theorem callFunction_builtin {b : Builtin} {call : Call} (hcallee : call.callee = .builtin b) :
    (callFunction M call).RefusedAt setup s ∨
    (b.arity.1 ≤ call.args.length ∧
      callFunction M call setup s = b.apply M call.args call.context setup s) := by
  unfold callFunction RefusedAt
  rw [bind_of_ok (a := s.registry) (t := s) rfl, hcallee]
  dsimp only
  rcases harity : checkArity (s.registry.displayName (.builtin b)) (s.registry.arity (.builtin b))
    call.args.length with cause | ⟨⟩
  · exact .inl ⟨.ofCause cause, bind_of_error rfl⟩
  · exact .inr ⟨le_of_checkArity harity, bind_of_ok (a := ()) (t := s) rfl⟩

/-- The built-in functions that add, remove or move items. -/
def Builtin.resizing : List Builtin := [.add, .insert, .remove, .reverse, .map, .filter, .sort]

theorem resizing_refused {b : Builtin} (hb : b ∈ Builtin.resizing) {rest : List Ref}
    {self : Option Ref} {range : Option (Int × Int)} {c : Context}
    (hlocked : s.heap.isLocked r = true) (hextent : (s.heap.value r).extent? = some extent) :
    (callFunction M ⟨.builtin b, r :: rest, self, range, c⟩).RefusedAt setup s := by
  have hcall : (Call.mk (.builtin b) (r :: rest) self range c).callee = .builtin b := rfl
  obtain hrefused | ⟨hcount, happly⟩ := callFunction_builtin hcall
  · exact hrefused
  rw [RefusedAt, happly]
  change RefusedAt (b.apply M (r :: rest) c) setup s
  have hsecond : 2 ≤ b.arity.1 → ∃ second others, rest = second :: others := fun htwo =>
    List.exists_cons_of_length_pos (Nat.le_of_succ_le_succ (Nat.le_trans htwo hcount))
  simp only [Builtin.resizing, List.mem_cons, List.not_mem_nil, or_false] at hb
  rcases hb with rfl | rfl | rfl | rfl | rfl | rfl | rfl
  · obtain ⟨second, others, rfl⟩ := hsecond (Nat.le_refl 2)
    exact .op (Library.add_refused hlocked hextent second)
  · obtain ⟨second, others, rfl⟩ := hsecond (Nat.le_refl 2)
    exact .op (Library.insert_refused hlocked hextent second others[0]?)
  · obtain ⟨second, others, rfl⟩ := hsecond (Nat.le_refl 2)
    exact .op (Library.remove_refused hlocked hextent second others[0]?)
  · exact .op (Library.reverse_refused hlocked hextent)
  · obtain ⟨second, others, rfl⟩ := hsecond (Nat.le_refl 2)
    exact overContainer_refused hlocked hextent
  · obtain ⟨second, others, rfl⟩ := hsecond (Nat.le_refl 2)
    exact overContainer_refused hlocked hextent
  · exact sort_refused hlocked hextent

/-- `extend()` is applied to its arguments unless their number is wrong. -/
theorem callFunction_extend {rest : List Ref} {self : Option Ref} {range : Option (Int × Int)}
    {c : Context} :
    (callFunction M ⟨.builtin .extend, r :: rest, self, range, c⟩).RefusedAt setup s ∨
    ∃ other how, callFunction M ⟨.builtin .extend, r :: rest, self, range, c⟩ setup s =
      (liftM (Library.extend r other how) : Run Ref) setup s := by
  have hcall : (Call.mk (.builtin .extend) (r :: rest) self range c).callee = .builtin .extend :=
    rfl
  obtain hrefused | ⟨hcount, happly⟩ := callFunction_builtin hcall
  · exact .inl hrefused
  · obtain ⟨other, others, rfl⟩ :=
      List.exists_cons_of_length_pos (Nat.le_of_succ_le_succ hcount : 0 < rest.length)
    exact .inr ⟨other, others[0]?, happly⟩

theorem extend_keeps_extent {rest : List Ref} {self : Option Ref} {range : Option (Int × Int)}
    {c : Context} (hlocked : s.heap.isLocked r = true)
    (hextent : (s.heap.value r).extent? = some extent) :
    ((callFunction M ⟨.builtin .extend, r :: rest, self, range, c⟩
      setup s).2.heap.value r).extent? = some extent := by
  obtain ⟨stop, hstop⟩ | ⟨other, how, happly⟩ := callFunction_extend
  · rw [hstop]
    exact hextent
  · rw [happly]
    have hsafe : Op.Safe (Policy.sized r extent) _ (Library.extend r other how) :=
      Library.extend_safe Policy.sized_lawful other how trivial
    exact (hsafe s.heap ⟨hlocked, hextent⟩).1.2

theorem extend_list_refused {items : List Ref} {rest : List Ref} {self : Option Ref}
    {range : Option (Int × Int)} {c : Context} (hlocked : s.heap.isLocked r = true)
    (hitems : s.heap.value r = .list items) :
    (callFunction M ⟨.builtin .extend, r :: rest, self, range, c⟩).RefusedAt setup s := by
  obtain hrefused | ⟨other, how, happly⟩ := callFunction_extend
  · exact hrefused
  · rw [RefusedAt, happly]
    exact RefusedAt.op (Library.extend_refused hlocked hitems other how)

theorem assign_variable_refused {mark : Option Mark} {scope : Option Scope}
    {parts : List NamePart} {name : String} {value : Ref} {c : Context} {items : List Ref}
    {s₀ : State} (hlocked : s.heap.isLocked r = true) (hitems : s.heap.value r = .list items)
    (hname : evalName M parts c setup s₀ = (.ok name, s))
    (hheld : setup.spaces.getOrFail scope name c s.heap = (.ok r, s.heap)) :
    ∃ stop, assign M (.var mark scope parts) (.update .add) value c setup s₀ =
      (.error stop, s) := by
  obtain ⟨stop, hstop⟩ := combine_refused hlocked hitems value (displayName scope name)
  refine ⟨stop, ?_⟩
  rw [assign_update hname]
  refine op_of_error ?_
  rw [Spaces.update, Op.bind_of_ok hheld, Op.bind_of_error hstop]

/-! ### Slices -/

theorem requireList_cases (setup : Setup) (s : State) (x : Ref) (cause : Cause) :
    (∃ items, s.heap.value x = .list items ∧ requireList x cause setup s = (.ok items, s)) ∨
    requireList x cause setup s = (.error (.ofCause cause), s) := by
  unfold requireList
  rw [bind_of_ok (op_of_ok (Op.value_eq x s.heap))]
  cases s.heap.value x with
  | list items => exact .inl ⟨items, rfl, rfl⟩
  | _ => exact .inr rfl

theorem unlet_slice_refused {mark : Option Mark} {target : Expr} {first last : Option Expr}
    {bang : Bool} {c : Context} {s₀ : State} (hlocked : s.heap.isLocked r = true)
    (htarget : evalExpr M target c setup s₀ = (.ok r, s)) :
    ∃ stop, unletTarget M (.slice mark target first last) bang c setup s₀ = (.error stop, s) := by
  unfold unletTarget
  dsimp only
  rw [bind_of_ok htarget]
  obtain ⟨items, -, hlist⟩ | hother := requireList_cases setup s r .notIndexable
  · rw [bind_of_ok hlist, bind_of_ok (op_of_ok (Op.isLocked_eq r s.heap)), hlocked]
    exact ⟨_, rfl⟩
  · exact ⟨_, bind_of_error hother⟩

/-- Evaluating an operand that may be missing leaves every object as it is. -/
def Settled (M : Machine) (c : Context) (setup : Setup) (operand : Option Expr) : Prop :=
  ∀ e, operand = some e → ∀ s : State, s.heap.Kept (evalExpr M e c setup s).2.heap

/-- A computation stops short in a state with a property. -/
def Run.StopsAt {α : Type} (Q : State → Prop) (x : Run α) (setup : Setup) (s : State) : Prop :=
  ∃ stop t, x setup s = (.error stop, t) ∧ Q t

theorem Run.StopsAt.bind {α β : Type} {Q : State → Prop} {x : Run α} {f : α → Run β}
    (hx : Q (x setup s).2) (hf : ∀ a t, x setup s = (.ok a, t) → StopsAt Q (f a) setup t) :
    StopsAt Q (x >>= f) setup s := by
  rcases hout : x setup s with ⟨stop | a, t⟩ <;> rw [hout] at hx
  · exact ⟨stop, t, bind_of_error hout, hx⟩
  · obtain ⟨stop, u, hstop, hu⟩ := hf a t hout
    exact ⟨stop, u, (bind_of_ok hout).trans hstop, hu⟩

/-- An object is what it was, or, where it is the container of a slice, its items outside the part
that comes before a position are. -/
def SparedBeyond (container r : Ref) (start : Int) (p : Nat) (h h' : Heap) : Prop :=
  (container ≠ r → h'.cell r = h.cell r) ∧
    ∀ q : Nat, q < start ∨ p ≤ q → (h'.items r)[q]? = (h.items r)[q]?

theorem SparedBeyond.of_kept {container r : Ref} {start : Int} {p : Nat} {h h' : Heap}
    (hr : r.index < h.size) (hkept : h.Kept h') : SparedBeyond container r start p h h' :=
  ⟨fun _ => hkept.cell r hr, fun _ _ => by rw [Heap.items_of_cell (hkept.cell r hr)]⟩

theorem assignRun_stopsAt {container : Ref} {items given : List Ref} {p : Nat} {start : Int}
    {t : State} (hlocked : s.heap.isLocked r = true) (hlist : s.heap.value container = .list items)
    (hitem : items[p]? = some r) (ht : s.heap.Kept t.heap) (hpos : 0 ≤ start) (hfrom : start ≤ p)
    (hto : p < start + given.length) :
    StopsAt (fun u => SparedBeyond container r start p s.heap u.heap)
      (liftM (Op.assignRun container (.update .add) items.length start.toNat given) : Run Unit)
      setup t := by
  have hcell := ht.cell r (Heap.index_lt_of_isLocked hlocked)
  have hcontainer := ht.cell container (Heap.index_lt_of_list hlist)
  have hlocked' : t.heap.isLocked r = true := by rw [Heap.isLocked, hcell]; exact hlocked
  have hitem' : (t.heap.items container)[p]? = some r := by
    rw [Heap.items_of_cell hcontainer, Heap.items_of_list hlist, hitem]
  obtain ⟨stop, h', hrun, hsame, hothers⟩ := assignRun_refused
    (List.getElem?_eq_some_iff.mp hitem).1 given start.toNat t.heap hlocked' hitem' (by omega)
    (by omega)
  refine ⟨stop, _, op_of_error hrun, fun hapart => (hsame hapart).trans hcell, fun q hq => ?_⟩
  rw [← Heap.items_of_cell hcell]
  exact hothers q (by omega)

theorem assignSlice_refused {container value : Ref} {target : Expr} {first last : Option Expr}
    {c : Context} {p : Nat} {i : Int} {s₀ s₁ : State} (hlocked : s.heap.isLocked r = true)
    (htarget : evalExpr M target c setup s₀ = (.ok container, s))
    (hitem : (s.heap.items container)[p]? = some r)
    (hfirst : evalBound M 0 first c setup s = (.ok i, s₁)) (hkept : s.heap.Kept s₁.heap)
    (hlast : Settled M c setup last)
    (hfrom : fromEnd (s.heap.items container).length i ≤ p)
    (hto : p < fromEnd (s.heap.items container).length i + (s₁.heap.items value).length) :
    StopsAt (fun t => SparedBeyond container r (fromEnd (s.heap.items container).length i) p
        s.heap t.heap)
      (assignSlice M target first last (.update .add) value c) setup s₀ := by
  have hcontainer := Heap.value_of_getElem? hitem
  generalize hitems : s.heap.items container = items at *
  generalize hstart : fromEnd items.length i = start at *
  have hspared : ∀ t : State, s.heap.Kept t.heap →
      SparedBeyond container r start p s.heap t.heap := fun _ ht =>
    .of_kept (Heap.index_lt_of_isLocked hlocked) ht
  have hrefl := Heap.kept_extending.refl s.heap
  unfold assignSlice StopsAt
  rw [bind_of_ok htarget]
  obtain ⟨items', hitems', hlist⟩ | hother := requireList_cases setup s container .notIndexable
  case inr => exact ⟨_, s, bind_of_error hother, hspared s hrefl⟩
  obtain rfl : items = items' := by rw [hcontainer] at hitems'; cases hitems'; rfl
  rw [bind_of_ok hlist]
  obtain ⟨given, -, hgiven⟩ | hother := requireList_cases setup s value .sliceNeedsList
  case inr => exact ⟨_, s, bind_of_error hother, hspared s hrefl⟩
  rw [bind_of_ok hgiven, bind_of_ok hfirst, hstart]
  dsimp only
  split
  · rcases Number.write start with fault | text
    · exact ⟨_, s₁, rfl, hspared s₁ hkept⟩
    · exact ⟨_, s₁, rfl, hspared s₁ hkept⟩
  · rename_i hrange
    have hpos : 0 ≤ start := by omega
    rw [bind_of_ok (a := s₁) (t := s₁) rfl]
    cases last with
    | none => exact assignRun_stopsAt hlocked hcontainer hitem hkept hpos hfrom hto
    | some e =>
        -- the items of the slice have been read before its last bound is evaluated
        have hkept' := Heap.kept_extending.trans hkept (hlast e rfl s₁)
        refine StopsAt.bind (hspared _ hkept') fun v t hv => ?_
        rw [hv] at hkept'
        refine StopsAt.bind (hspared t hkept') fun n u hn => ?_
        obtain rfl : t = u := congrArg Prod.snd hn
        refine StopsAt.bind (hspared t hkept') fun _ u hcount => ?_
        obtain rfl : t = u := congrArg Prod.snd hcount
        exact assignRun_stopsAt hlocked hcontainer hitem hkept' hpos hfrom hto

theorem assignSlice_keeps_extent {target : Expr} {first last : Option Expr} {op : LetOp}
    {value : Ref} {c : Context} {s₀ : State} (hlocked : s.heap.isLocked r = true)
    (hextent : (s.heap.value r).extent? = some extent)
    (htarget : evalExpr M target c setup s₀ = (.ok r, s))
    (hfirst : Settled M c setup first) (hlast : Settled M c setup last) :
    ((assignSlice M target first last op value c setup s₀).2.heap.value r).extent? =
      some extent := by
  let P := Policy.sized r extent
  have hQ : Guards P fun s => P.Holds s.heap :=
    { holds := fun hs => hs
      heap := fun _ hh => hh
      same := by
        intro s t hs hheap _
        rw [hheap]
        exact hs }
  have hoperand : ∀ {operand : Option Expr}, Settled M c setup operand → ∀ e, operand = some e →
      Safe setup (fun s => P.Holds s.heap) (fun _ => True) (evalExpr M e c) :=
    fun hsettled e he t ht => ⟨Policy.sized_of_kept ht (hsettled e he t), fun _ _ => trivial⟩
  have hcontainer : SafeAt setup (fun s => P.Holds s.heap) P.Given (evalExpr M target c) s₀ := by
    rw [SafeAt, htarget]
    exact ⟨⟨hlocked, hextent⟩, fun _ _ => trivial⟩
  exact (assignSlice_safeAt hQ Policy.sized_lawful op value hcontainer (hoperand hfirst)
    (hoperand hlast)).1.2

/-! ## Every operation -/

/-- What the operations on containers make of a List or Dictionary of some size. Operands have been
evaluated: the state is the one in which the container and the name or key are known, and
evaluating the bounds of a slice changes no object. -/
structure KeepsSize (M : Machine) (setup : Setup) (s : State) (r : Ref) (extent : Extent) :
    Prop where
  /-- The built-in functions that add, remove or move items fail. -/
  resizing (b : Builtin) (rest : List Ref) (self : Option Ref) (range : Option (Int × Int))
    (c : Context) : b ∈ Builtin.resizing →
      (callFunction M ⟨.builtin b, r :: rest, self, range, c⟩).RefusedAt setup s
  /-- So does `extend()` on a List. -/
  extendList (items : List Ref) (rest : List Ref) (self : Option Ref) (range : Option (Int × Int))
    (c : Context) : s.heap.value r = .list items →
      (callFunction M ⟨.builtin .extend, r :: rest, self, range, c⟩).RefusedAt setup s
  /-- On a Dictionary it may replace values. -/
  extend (rest : List Ref) (self : Option Ref) (range : Option (Int × Int)) (c : Context) :
    ((callFunction M ⟨.builtin .extend, r :: rest, self, range, c⟩
      setup s).2.heap.value r).extent? = some extent
  /-- `+=` on a variable that holds the List fails. -/
  addToVariable (mark : Option Mark) (scope : Option Scope) (parts : List NamePart) (name : String)
    (value : Ref) (c : Context) (items : List Ref) (s₀ : State) : s.heap.value r = .list items →
      evalName M parts c setup s₀ = (.ok name, s) →
      setup.spaces.getOrFail scope name c s.heap = (.ok r, s.heap) →
      ∃ stop, assign M (.var mark scope parts) (.update .add) value c setup s₀ = (.error stop, s)
  /-- So does `+=` on an item or entry that is the List. -/
  addToItem (isDict : Callee → Bool) (container key value : Ref) (items : List Ref) :
    s.heap.value r = .list items → s.heap.ItemAt container key r →
      (Op.assignItem isDict container key (.update .add) value).RefusedAt s.heap
  /-- So does `+=` on a slice that has the List at one of its positions. Items in front of it may
  have been replaced by then. -/
  addToSlice (container value : Ref) (target : Expr) (first last : Option Expr) (c : Context)
    (p : Nat) (i : Int) (s₀ s₁ : State) : evalExpr M target c setup s₀ = (.ok container, s) →
      (s.heap.items container)[p]? = some r →
      evalBound M 0 first c setup s = (.ok i, s₁) → s.heap.Kept s₁.heap → Settled M c setup last →
      fromEnd (s.heap.items container).length i ≤ p →
      p < fromEnd (s.heap.items container).length i + (s₁.heap.items value).length →
      StopsAt (fun t => (container ≠ r → t.heap.cell r = s.heap.cell r) ∧
          ∀ q : Nat, q < fromEnd (s.heap.items container).length i ∨ p ≤ q →
            (t.heap.items r)[q]? = (s.heap.items r)[q]?)
        (assignSlice M target first last (.update .add) value c) setup s₀
  /-- Assigning an item or entry does not resize the container. -/
  assignItem (isDict : Callee → Bool) (key : Ref) (op : LetOp) (value : Ref) :
    ((Op.assignItem isDict r key op value s.heap).2.value r).extent? = some extent
  /-- Nor does assigning a slice. -/
  assignSlice (target : Expr) (first last : Option Expr) (op : LetOp) (value : Ref) (c : Context)
    (s₀ : State) : evalExpr M target c setup s₀ = (.ok r, s) → Settled M c setup first →
      Settled M c setup last →
      ((Vimscript.assignSlice M target first last op value c setup s₀).2.heap.value r).extent? =
        some extent
  /-- Nothing is removed. -/
  unletItem (key : Ref) (bang : Bool) : (Op.unletItem r key bang s.heap).2 = s.heap
  unletSlice (mark : Option Mark) (target : Expr) (first last : Option Expr) (bang : Bool)
    (c : Context) (s₀ : State) : evalExpr M target c setup s₀ = (.ok r, s) →
      ∃ stop, unletTarget M (.slice mark target first last) bang c setup s₀ = (.error stop, s)
  /-- No function is declared as an entry. -/
  declareEntry (key : String) (signature : Signature) (bang : Bool) (body : List Stmt)
    (c : Context) : (Vimscript.declareEntry r key signature bang body c).RefusedAt setup s

/-- A locked List or Dictionary neither grows nor shrinks. -/
theorem locked_keepsSize (M : Machine) (setup : Setup) (hlocked : s.heap.isLocked r = true)
    (hextent : (s.heap.value r).extent? = some extent) : KeepsSize M setup s r extent where
  resizing _ _ _ _ _ hb := resizing_refused hb hlocked hextent
  extendList _ _ _ _ _ hitems := extend_list_refused hlocked hitems
  extend _ _ _ _ := extend_keeps_extent hlocked hextent
  addToVariable _ _ _ _ _ _ _ _ hitems hname hheld :=
    assign_variable_refused hlocked hitems hname hheld
  addToItem isDict _ _ value _ hitems hitem := assignItem_refused hlocked hitems hitem isDict value
  addToSlice _ _ _ _ _ _ _ _ _ _ htarget hitem hfirst hkept hlast hfrom hto :=
    assignSlice_refused hlocked htarget hitem hfirst hkept hlast hfrom hto
  assignItem isDict key op value := by
    have hsafe : Op.Safe (Policy.sized r extent) (fun _ => True)
        (Op.assignItem isDict r key op value) :=
      Op.assignItem_safe Policy.sized_lawful isDict key op trivial trivial
    exact (hsafe s.heap ⟨hlocked, hextent⟩).1.2
  assignSlice _ _ _ _ _ _ _ htarget hfirst hlast :=
    assignSlice_keeps_extent hlocked hextent htarget hfirst hlast
  unletItem key bang := unletItem_unchanged hlocked hextent key bang
  unletSlice _ _ _ _ _ _ _ htarget := unlet_slice_refused hlocked htarget
  declareEntry _ _ _ _ _ := declareEntry_refused hlocked

end

/-- A locked List of two Numbers, a List that holds it, and a Number. -/
def lockedPair : State where
  heap := { cells := #[
    { value := .list [⟨2⟩, ⟨3⟩], isLocked := true }, { value := .list [⟨0⟩] },
    { value := .number 0 }, { value := .number 7 }] }

/-- The first item of the locked pair is replaced; adding a third or appending to the pair through
the List around it fails. -/
theorem lockedPair_keepsSize :
    (Op.assignItem (fun _ => false) ⟨0⟩ ⟨2⟩ .set ⟨3⟩ lockedPair.heap).1 = .ok () ∧
    ((Op.assignItem (fun _ => false) ⟨0⟩ ⟨2⟩ .set ⟨3⟩ lockedPair.heap).2.value ⟨0⟩).extent? =
      some (.items 2) ∧
    (callFunction Machine.halted ⟨.builtin .add, [⟨0⟩, ⟨3⟩], none, none, calledContext⟩).RefusedAt
      bareSetup lockedPair ∧
    (Op.assignItem (fun _ => false) ⟨1⟩ ⟨2⟩ (.update .add) ⟨1⟩).RefusedAt lockedPair.heap := by
  have hkeeps : KeepsSize Machine.halted bareSetup lockedPair ⟨0⟩ (.items 2) :=
    locked_keepsSize Machine.halted bareSetup rfl rfl
  refine ⟨rfl, hkeeps.assignItem _ _ _ _, hkeeps.resizing _ _ _ _ _ (by decide), ?_⟩
  exact hkeeps.addToItem _ _ _ _ [⟨2⟩, ⟨3⟩] rfl (.item [⟨0⟩] 0 0 rfl rfl rfl rfl)

end Vimscript
