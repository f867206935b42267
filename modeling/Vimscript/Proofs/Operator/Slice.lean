import Vimscript.Eval.Unlet

/-!
# The positions of a slice

A slice is read between two inclusive bounds, and a slice is removed by
cutting the list at two places. Both count a negative bound from the end;
what they do with one that is negative still differs. To compare the two,
everything is said about positions: a slice reads `positionsRead`, and what it
leaves out is `itemsUnread`. Both come down to two cuts, the list up to the
first and the list from the second on (`itemsUnread_eq`).

A bound before the beginning stops there when the slice is read. When it is
removed, it is counted from the end once more, and this can move the cut
into the list (`removeBetween_eq_itemsUnread_iff`).
-/

namespace Vimscript

variable {α β : Type}

/-- The positions of a list that a slice reads, in order. -/
def positionsRead (length : Nat) (first last : Int) : List Nat :=
  sliceItems (List.range length) first last

/-- The items of a list that a slice does not read, in order. -/
def itemsUnread (items : List α) (first last : Int) : List α :=
  (items.zipIdx.filter fun x => x.2 ∉ positionsRead items.length first last).map (·.1)

/-! ## What a slice reads -/

theorem mem_positionsRead {length : Nat} {first last : Int} {i : Nat} :
    i ∈ positionsRead length first last ↔
      i < length ∧ fromEnd length first ≤ i ∧ i ≤ fromEnd length last := by
  simp only [positionsRead, sliceItems, sliceBounds, segment, List.length_range]
  generalize fromEnd length first = a
  generalize fromEnd length last = b
  split
  · rw [List.mem_iff_getElem?]
    constructor
    · rintro ⟨j, hj⟩
      obtain ⟨hjn, hi⟩ := List.getElem?_eq_some_iff.mp hj
      simp only [List.length_take, List.length_drop, List.length_range] at hjn
      simp only [List.getElem_take, List.getElem_drop, List.getElem_range] at hi
      omega
    · rintro ⟨hi, ha, hb⟩
      refine ⟨i - (max a 0).toNat, ?_⟩
      rw [List.getElem?_take_of_lt (by omega), List.getElem?_drop]
      have hposition : (max a 0).toNat + (i - (max a 0).toNat) = i := by omega
      rw [hposition, List.getElem?_range hi]
  · simp only [List.not_mem_nil, false_iff]
    omega

theorem sliceItems_map (f : α → β) (items : List α) (first last : Int) :
    sliceItems (items.map f) first last = (sliceItems items first last).map f := by
  simp only [sliceItems, segment, List.length_map]
  split <;> simp

/-- A slice consists of the items at the positions that it reads. -/
theorem map_some_sliceItems (items : List α) (first last : Int) :
    (sliceItems items first last).map some =
      (positionsRead items.length first last).map (items[·]?) := by
  have hitems : items.map some = (List.range items.length).map (items[·]?) := by
    refine List.ext_getElem? fun i => ?_
    by_cases hi : i < items.length
    · simp [hi]
    · simp [hi]
  rw [← sliceItems_map, hitems, sliceItems_map, positionsRead]

/-! ## What a slice leaves out -/

/-- To leave out the positions from `k` to `m` is to cut the list there; the positions are counted
from `start`. -/
theorem filter_zipIdx_eq {p : α × Nat → Bool} {k m : Nat} (hkm : k ≤ m) :
    ∀ (items : List α) (start : Nat),
      (∀ x i, i < start + items.length → (p (x, i) = true ↔ i < k ∨ m ≤ i)) →
      ((items.zipIdx start).filter p).map (·.1) =
        items.take (k - start) ++ items.drop (m - start)
  | [], _, _ => by simp
  | x :: rest, start, hp => by
      have hx := hp x start (by simp)
      have hrest := filter_zipIdx_eq hkm rest (start + 1) fun y i hi =>
        hp y i (by simp only [List.length_cons]; omega)
      rw [List.zipIdx_cons, List.filter_cons]
      rcases Nat.lt_or_ge start k with hk | hk
      · have hsucc : k - start = k - (start + 1) + 1 := by omega
        have hsucc' : m - start = m - (start + 1) + 1 := by omega
        rw [if_pos (hx.mpr (.inl hk)), List.map_cons, hrest, hsucc, hsucc', List.take_succ_cons,
          List.drop_succ_cons, List.cons_append]
      have hnone : k - start = 0 := by omega
      have hnone' : k - (start + 1) = 0 := by omega
      rw [hnone, List.take_zero, List.nil_append]
      rw [hnone', List.take_zero, List.nil_append] at hrest
      rcases Nat.lt_or_ge start m with hm | hm
      · have hsucc : m - start = m - (start + 1) + 1 := by omega
        rw [if_neg (by rw [hx]; omega), hrest, hsucc, List.drop_succ_cons]
      · have hwhole : m - start = 0 := by omega
        have hwhole' : m - (start + 1) = 0 := by omega
        rw [if_pos (hx.mpr (.inr hm)), List.map_cons, hrest, hwhole, hwhole', List.drop_zero,
          List.drop_zero]

theorem itemsUnread_eq (items : List α) (first last : Int) :
    itemsUnread items first last =
      items.take (fromEnd items.length first).toNat ++
        items.drop (max (fromEnd items.length first) (fromEnd items.length last + 1)).toNat := by
  have hkm : (fromEnd items.length first).toNat ≤
      (max (fromEnd items.length first) (fromEnd items.length last + 1)).toNat := by omega
  refine (filter_zipIdx_eq hkm items 0 fun x i hi => ?_).trans (by simp only [Nat.sub_zero])
  rw [decide_eq_true_eq, mem_positionsRead]
  omega

/-! ## What is removed -/

/-- To remove a slice is to cut the list where reading it does. A first bound that is before the
beginning is counted from the end once more: it must be before the beginning even so, or the slice
must read nothing. So is the end behind a last bound; it must not come behind the first cut. -/
def CutsAsRead (length : Nat) (first last : Int) : Prop :=
  (fromEnd length first < 0 → fromEnd length first + length ≤ 0 ∨ fromEnd length last < 0) ∧
    (fromEnd length last + 1 < 0 →
      Op.cut length (fromEnd length last + 1) ≤ Op.cut length (fromEnd length first))
deriving Decidable

theorem fromEnd_cases (length : Nat) (i : Int) :
    (i < 0 ∧ fromEnd length i = i + length) ∨ (0 ≤ i ∧ fromEnd length i = i) := by
  rcases Int.lt_or_le i 0 with hi | hi
  · exact .inl ⟨hi, if_pos hi⟩
  · exact .inr ⟨hi, if_neg (Int.not_lt.mpr hi)⟩

theorem removeBetween_eq_itemsUnread_iff (items : List α) (first last : Int) :
    Op.removeBetween items (fromEnd items.length first) (fromEnd items.length last + 1) =
      itemsUnread items first last ↔ CutsAsRead items.length first last := by
  rw [itemsUnread_eq, Op.removeBetween]
  simp only [CutsAsRead, Op.cut]
  generalize fromEnd items.length first = a
  generalize fromEnd items.length last = b
  have hfrom := fromEnd_cases items.length a
  have hbehind := fromEnd_cases items.length (b + 1)
  constructor
  · -- where the cuts differ, another number of items is left
    intro h
    have hlength := congrArg List.length h
    simp only [List.length_append, List.length_take, List.length_drop] at hlength
    omega
  · rintro ⟨hfirst, hlast⟩
    rcases Int.lt_or_le b (max a 0) with hempty | hread
    · -- nothing is read, and nothing is cut out
      have hnone : (max a (b + 1)).toNat = a.toNat := by omega
      have hnone' : max (min (fromEnd items.length a).toNat items.length)
          (min (fromEnd items.length (b + 1)).toNat items.length) =
            min (fromEnd items.length a).toNat items.length := by omega
      rw [hnone, hnone', List.take_append_drop, List.take_append_drop]
    · have hstart : min (fromEnd items.length a).toNat items.length =
          min a.toNat items.length := by omega
      have hstop : max (min (fromEnd items.length a).toNat items.length)
          (min (fromEnd items.length (b + 1)).toNat items.length) =
            min (max a (b + 1)).toNat items.length := by omega
      rw [hstop, hstart, ← List.take_eq_take_min, ← List.drop_eq_drop_min]

end Vimscript
