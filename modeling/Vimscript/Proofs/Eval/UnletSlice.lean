import Vimscript.Proofs.Eval.LockedContainer
import Vimscript.Proofs.Operator.Slice

/-!
# Removing a slice

`:unlet` of a slice of a List, held against the slice expression with the
same bounds. Once the bounds are known, nothing can go wrong: the List is
not locked, and any two integers are bounds. What is left of the List are
the items that the slice expression does not read, unless a bound lies so
far before the beginning that it is counted from the end twice.
-/

namespace Vimscript

open Run

/-- A slice of a List is a new List of the items at the positions that are read. -/
theorem Op.slice_list {h : Heap} {r : Ref} {first last : Option Ref} {items : List Ref} {a b : Int}
    (hitems : h.value r = .list items) (hfirst : toNumberD 0 first h = (.ok a, h))
    (hlast : toNumberD (items.length - 1) last h = (.ok b, h)) :
    slice r first last h =
      (.ok (h.alloc (.list (sliceItems items a b))).1,
        (h.alloc (.list (sliceItems items a b))).2) := by
  have hpart : sliceOf items first last h = (.ok (sliceItems items a b), h) := by
    rw [sliceOf, bind_of_ok hfirst, bind_of_ok hlast]
    rfl
  rw [slice, bind_of_ok (value_eq r h), hitems]
  dsimp only
  rw [bind_of_ok hpart]
  rfl

section

variable {M : Machine} {mark : Option Mark} {target : Expr} {first last : Option Expr}
  {bang : Bool} {c : Context} {setup : Setup} {s₀ s s₁ s₂ : State} {r : Ref} {items : List Ref}
  {a b : Int}

/-- The List is cut at the first bound and behind the last one. -/
theorem unlet_slice_eq (htarget : evalExpr M target c setup s₀ = (.ok r, s))
    (hitems : s.heap.value r = .list items) (hunlocked : s.heap.isLocked r = false)
    (hfirst : evalBound M 0 first c setup s = (.ok a, s₁))
    (hlast : evalBound M (items.length - 1) last c setup s₁ = (.ok b, s₂))
    (hsame : s₂.heap.value r = .list items) :
    unletTarget M (.slice mark target first last) bang c setup s₀ =
      (.ok (), { s₂ with heap := s₂.heap.setValue r (.list
        (Op.removeBetween items (fromEnd items.length a) (fromEnd items.length b + 1))) }) := by
  have hlist : requireList r .notIndexable setup s = (.ok items, s) := by
    rw [requireList, bind_of_ok (op_of_ok (Op.value_eq r s.heap)), hitems]
    rfl
  have hfree : (liftM (Op.isLocked r) : Run Bool) setup s = (.ok false, s) :=
    op_of_ok (by rw [Op.isLocked_eq, hunlocked])
  have hheld : s₂.heap.items r = items := Heap.items_of_list hsame
  unfold unletTarget
  dsimp only
  rw [bind_of_ok htarget, bind_of_ok hlist, bind_of_ok hfree, if_neg Bool.false_ne_true,
    bind_of_ok hfirst, bind_of_ok hlast, bind_of_ok (a := s₂) (t := s₂) rfl, hheld]
  exact op_of_ok rfl

/-- `:unlet` of a slice of an unlocked List, with bounds that leave the List as it is, succeeds and
changes nothing but the List. What is left are the items at the positions that the slice
expression does not read, just when the slice is cut where it is read. -/
theorem unlet_slice_leaves_unread_iff (htarget : evalExpr M target c setup s₀ = (.ok r, s))
    (hitems : s.heap.value r = .list items) (hunlocked : s.heap.isLocked r = false)
    (hfirst : evalBound M 0 first c setup s = (.ok a, s₁))
    (hlast : evalBound M (items.length - 1) last c setup s₁ = (.ok b, s₂))
    (hsame : s₂.heap.value r = .list items) :
    ∃ left, unletTarget M (.slice mark target first last) bang c setup s₀ =
        (.ok (), { s₂ with heap := s₂.heap.setValue r (.list left) }) ∧
      (∀ (h : Heap) (x y : Option Ref), h.value r = .list items →
        Op.toNumberD 0 x h = (.ok a, h) → Op.toNumberD (items.length - 1) y h = (.ok b, h) →
        ∃ part, Op.slice r x y h = (.ok (h.alloc (.list part)).1, (h.alloc (.list part)).2) ∧
          part.map some = (positionsRead items.length a b).map (items[·]?)) ∧
      (left = itemsUnread items a b ↔ CutsAsRead items.length a b) := by
  refine ⟨_, unlet_slice_eq htarget hitems hunlocked hfirst hlast hsame, ?_,
    removeBetween_eq_itemsUnread_iff items a b⟩
  intro h x y hr hx hy
  exact ⟨_, Op.slice_list hr hx hy, map_some_sliceItems items a b⟩

end

/-- The inside of a call whose argument `l` is a List of three Numbers. -/
def threeItems : State where
  heap := { cells := #[
    { value := .dict {} }, { value := .dict { entries := [("l", ⟨2⟩)] } },
    { value := .list [⟨3⟩, ⟨4⟩, ⟨5⟩] }, { value := .number 1 }, { value := .number 2 },
    { value := .number 3 }] }

/-- The argument `l`. -/
def theArgument : Expr := .var none (some .arguments) [.plain "l"]

/-- From the last item but one on, all is removed. -/
theorem lastTwo_removed :
    ∃ t, unletTarget Machine.halted (.slice none theArgument (some (.int none (-2))) none) false
        calledContext bareSetup threeItems = (.ok (), t) ∧
      t.heap.items ⟨2⟩ = itemsUnread [⟨3⟩, ⟨4⟩, ⟨5⟩] (-2) 2 := by
  have htarget : evalExpr Machine.halted theArgument calledContext bareSetup threeItems =
      (.ok ⟨2⟩, threeItems) := rfl
  have hfirst : ∃ s₁, evalBound Machine.halted 0 (some (.int none (-2))) calledContext bareSetup
      threeItems = (.ok (-2), s₁) ∧ s₁.heap.value ⟨2⟩ = .list [⟨3⟩, ⟨4⟩, ⟨5⟩] := ⟨_, rfl, rfl⟩
  obtain ⟨s₁, hfirst, hsame⟩ := hfirst
  have hlast : evalBound Machine.halted 2 none calledContext bareSetup s₁ = (.ok 2, s₁) := rfl
  obtain ⟨left, hrun, -, hleft⟩ :=
    unlet_slice_leaves_unread_iff htarget rfl rfl hfirst hlast hsame
  refine ⟨_, hrun, ?_⟩
  have hcuts : CutsAsRead 3 (-2) 2 := by decide
  have hheld := Heap.value_setValue s₁.heap (.list left) (Heap.index_lt_of_list hsame)
  exact (Heap.items_of_list hheld).trans (hleft.mpr hcuts)

/-- The first item is left behind when the first bound lies two places before it: counted from the
end once more, this is the second item. -/
theorem reachingBack_leaves_first :
    ∃ t, unletTarget Machine.halted (.slice none theArgument (some (.int none (-5))) none) false
        calledContext bareSetup threeItems = (.ok (), t) ∧
      t.heap.items ⟨2⟩ = [⟨3⟩] ∧ itemsUnread [⟨3⟩, ⟨4⟩, ⟨5⟩] (-5) 2 = ([] : List Ref) := by
  have htarget : evalExpr Machine.halted theArgument calledContext bareSetup threeItems =
      (.ok ⟨2⟩, threeItems) := rfl
  have hfirst : ∃ s₁, evalBound Machine.halted 0 (some (.int none (-5))) calledContext bareSetup
      threeItems = (.ok (-5), s₁) ∧ s₁.heap.value ⟨2⟩ = .list [⟨3⟩, ⟨4⟩, ⟨5⟩] := ⟨_, rfl, rfl⟩
  obtain ⟨s₁, hfirst, hsame⟩ := hfirst
  have hlast : evalBound Machine.halted 2 none calledContext bareSetup s₁ = (.ok 2, s₁) := rfl
  refine ⟨_, unlet_slice_eq htarget rfl rfl hfirst hlast hsame, ?_, by decide⟩
  exact Heap.items_of_list (Heap.value_setValue s₁.heap _ (Heap.index_lt_of_list hsame))

end Vimscript
