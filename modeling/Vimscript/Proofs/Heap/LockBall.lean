import Vimscript.Heap.Lock
import Vimscript.Proofs.Heap.CopyLevel

/-!
# What a lock reaches

Locking a value to a depth sets the lock flag of the objects in a ball of
the object graph: those that can be reached in fewer steps than the depth,
and always the value itself (`Heap.ball`). The search keeps no record of
where it has been. An object on many ways is met many times, with different
numbers of steps left, and a cycle is run through until no steps are left.

None of this shows. Setting flags does not change what objects hold, so
every visit finds the graph as it was, and visits with flags of one kind add
up to the union of what they concern (`Flagged.trans`). That is why one
induction on the number of steps is enough, and why the laws about repeated
locks are laws about balls.
-/

namespace Vimscript

namespace Heap

variable {h h' h'' : Heap} {v r : Ref} {isLocked : Bool} {S T : Set Ref}

/-! ## Flags -/

theorem size_setLocked (h : Heap) (b : Bool) (r : Ref) : (h.setLocked r b).size = h.size := by
  simp [size, setLocked]

theorem isLocked_setLocked (h : Heap) (b : Bool) (r s : Ref) :
    (h.setLocked r b).isLocked s = if s = r ∧ r.index < h.size then b else h.isLocked s := by
  by_cases hs : s = r
  · subst hs
    by_cases hin : s.index < h.size
    · rw [if_pos ⟨rfl, hin⟩]
      rw [size] at hin
      simp [Heap.isLocked, cell, setLocked, Array.getD_eq_getD_getElem?, Array.getElem_modify, hin]
    · have hout : h.size ≤ s.index := Nat.not_lt.mp hin
      rw [if_neg fun hboth => hin hboth.2, isLocked_of_size_le hout, isLocked_of_size_le]
      rwa [size_setLocked]
  · have hi : r.index ≠ s.index := fun heq => hs (Ref.index_injective heq.symm)
    rw [if_neg fun hboth => hs hboth.1]
    simp [Heap.isLocked, cell, setLocked, Array.getD_eq_getD_getElem?, Array.getElem?_modify, hi]

/-- A heap is another in which the objects of a set have been locked, or have been unlocked. -/
structure Flagged (isLocked : Bool) (S : Set Ref) (h h' : Heap) : Prop where
  size : h'.size = h.size
  value (r : Ref) : h'.value r = h.value r
  inside {r : Ref} : r ∈ S → r.index < h.size → h'.isLocked r = isLocked
  outside {r : Ref} : r ∉ S → h'.isLocked r = h.isLocked r

namespace Flagged

theorem refl (isLocked : Bool) (h : Heap) : Flagged isLocked ∅ h h where
  size := rfl
  value _ := rfl
  inside hr := nomatch hr
  outside _ := rfl

theorem setLocked (h : Heap) (isLocked : Bool) (r : Ref) :
    Flagged isLocked {r} h (h.setLocked r isLocked) where
  size := size_setLocked h isLocked r
  value := value_setLocked h isLocked r
  inside := by
    rintro s rfl hs
    rw [isLocked_setLocked, if_pos ⟨rfl, hs⟩]
  outside hs := by
    rw [isLocked_setLocked, if_neg fun hboth => hs hboth.1]

theorem trans (hS : Flagged isLocked S h h') (hT : Flagged isLocked T h' h'') :
    Flagged isLocked (S ∪ T) h h'' where
  size := hT.size.trans hS.size
  value r := (hT.value r).trans (hS.value r)
  inside := by
    intro r hr hin
    by_cases hrT : r ∈ T
    · exact hT.inside hrT (hS.size ▸ hin)
    · exact (hT.outside hrT).trans (hS.inside (hr.resolve_right hrT) hin)
  outside := by
    intro r hr
    rw [Set.mem_union, not_or] at hr
    exact (hT.outside hr.2).trans (hS.outside hr.1)

/-- Setting the same flags the other way leaves nothing of the first time. -/
theorem turned {b b' : Bool} (hS : Flagged b S h h') (hS' : Flagged b' S h' h'') :
    Flagged b' S h h'' where
  size := hS'.size.trans hS.size
  value r := (hS'.value r).trans (hS.value r)
  inside hr hin := hS'.inside hr (hS.size ▸ hin)
  outside hr := (hS'.outside hr).trans (hS.outside hr)

theorem congr (hS : Flagged isLocked S h h') (hST : S = T) : Flagged isLocked T h h' := hST ▸ hS

/-- There is only one such heap. -/
theorem unique (hS : Flagged isLocked S h h') (hS' : Flagged isLocked S h h'') : h' = h'' := by
  have hsize : h'.cells.size = h''.cells.size := hS.size.trans hS'.size.symm
  have hcell : ∀ r, r.index < h'.cells.size → h'.cell r = h''.cell r := by
    intro r hr
    have hin : r.index < h.size := hS.size ▸ hr
    have hvalue : h'.value r = h''.value r := (hS.value r).trans (hS'.value r).symm
    have hflag : h'.isLocked r = h''.isLocked r := by
      by_cases hrS : r ∈ S
      · exact (hS.inside hrS hin).trans (hS'.inside hrS hin).symm
      · exact (hS.outside hrS).trans (hS'.outside hrS).symm
    calc h'.cell r = ⟨h'.value r, h'.isLocked r⟩ := rfl
      _ = ⟨h''.value r, h''.isLocked r⟩ := by rw [hvalue, hflag]
      _ = h''.cell r := rfl
  have hcells : h'.cells = h''.cells := by
    refine Array.ext hsize fun i hi hi' => ?_
    have hi_cell := hcell ⟨i⟩ hi
    simpa [cell, Array.getD_eq_getD_getElem?, hi, hi'] using hi_cell
  exact congrArg Heap.mk hcells

end Flagged

/-! ## Balls -/

/-- An object can be reached in at most so many steps. -/
def ReachesWithin (h : Heap) (v : Ref) (steps : Nat) (r : Ref) : Prop :=
  ∃ n ≤ steps, h.ReachesIn v n r

/-- The objects at most `max depth 1 - 1` steps away from a value. -/
def ball (h : Heap) (v : Ref) (depth : Int) : Set Ref :=
  {r | ∃ n : Nat, (n : Int) ≤ max depth 1 - 1 ∧ h.ReachesIn v n r}

theorem reachesIn_zero_iff : h.ReachesIn v 0 r ↔ r = v := by
  constructor
  · rintro ⟨path, hlength, hpath⟩
    obtain rfl := List.eq_nil_of_length_eq_zero hlength
    exact (Option.some.inj hpath).symm
  · rintro rfl
    exact .start h r

theorem reachesIn_succ_iff {n : Nat} :
    h.ReachesIn v (n + 1) r ↔ ∃ s ∈ h.children v, h.ReachesIn s n r := by
  constructor
  · rintro ⟨path, hlength, hpath⟩
    obtain ⟨i, path, rfl⟩ := List.exists_cons_of_length_eq_add_one hlength
    obtain ⟨s, hs, hrest⟩ := Option.bind_eq_some_iff.mp hpath
    exact ⟨s, List.mem_of_getElem? hs, path, Nat.succ.inj hlength, hrest⟩
  · rintro ⟨s, hs, path, hlength, hpath⟩
    obtain ⟨i, hi⟩ := List.mem_iff_getElem?.mp hs
    refine ⟨i :: path, congrArg Nat.succ hlength, ?_⟩
    rw [objectAt?, hi]
    exact hpath

theorem reachesWithin_zero_iff : h.ReachesWithin v 0 r ↔ r = v := by
  constructor
  · rintro ⟨n, hn, hr⟩
    obtain rfl := Nat.le_zero.mp hn
    exact reachesIn_zero_iff.mp hr
  · intro hr
    exact ⟨0, Nat.le_refl 0, reachesIn_zero_iff.mpr hr⟩

theorem reachesWithin_succ_iff {n : Nat} :
    h.ReachesWithin v (n + 1) r ↔ r = v ∨ ∃ s ∈ h.children v, h.ReachesWithin s n r := by
  constructor
  · rintro ⟨m, hm, hr⟩
    cases m with
    | zero => exact .inl (reachesIn_zero_iff.mp hr)
    | succ m =>
        obtain ⟨s, hs, hr⟩ := reachesIn_succ_iff.mp hr
        exact .inr ⟨s, hs, m, Nat.le_of_succ_le_succ hm, hr⟩
  · rintro (rfl | ⟨s, hs, m, hm, hr⟩)
    · exact ⟨0, Nat.zero_le _, .start h r⟩
    · exact ⟨m + 1, Nat.succ_le_succ hm, reachesIn_succ_iff.mpr ⟨s, hs, hr⟩⟩

theorem ball_eq (h : Heap) (v : Ref) (depth : Int) :
    h.ball v depth = {r | h.ReachesWithin v (depth - 1).toNat r} := by
  ext r
  refine exists_congr fun n => and_congr_left fun _ => ?_
  omega

/-- Of two balls around a value the one lies in the other. -/
theorem ball_union (h : Heap) (v : Ref) (d e : Int) :
    h.ball v d ∪ h.ball v e = h.ball v (max d e) := by
  ext r
  constructor
  · rintro (⟨n, hn, hr⟩ | ⟨n, hn, hr⟩)
    · exact ⟨n, by omega, hr⟩
    · exact ⟨n, by omega, hr⟩
  · rintro ⟨n, hn, hr⟩
    rcases le_total d e with hde | hde
    · exact .inr ⟨n, by omega, hr⟩
    · exact .inl ⟨n, by omega, hr⟩

/-- Where objects hold the same, the same can be reached. -/
theorem objectAt?_congr (hvalue : ∀ r, h'.value r = h.value r) (v : Ref) (path : List Nat) :
    h'.objectAt? v path = h.objectAt? v path := by
  induction path generalizing v with
  | nil => rfl
  | cons i path ih =>
      have hchildren : h'.children v = h.children v := by rw [children, children, hvalue]
      rw [objectAt?, objectAt?, hchildren]
      exact Option.bind_congr fun s _ => ih s

theorem reachesIn_congr (hvalue : ∀ r, h'.value r = h.value r) (v : Ref) (n : Nat) (r : Ref) :
    h'.ReachesIn v n r ↔ h.ReachesIn v n r :=
  exists_congr fun path => by rw [objectAt?_congr hvalue]

theorem Flagged.ball_eq (hS : Flagged isLocked S h h') (v : Ref) (depth : Int) :
    h'.ball v depth = h.ball v depth := by
  ext r
  exact exists_congr fun n => and_congr_right fun _ => reachesIn_congr hS.value v n r

/-! ## Locking -/

/-- The visits of several objects, each of which flags what it reaches, flag all that is reached. -/
theorem foldl_flagged {visit : Heap → Ref → Heap} {within : Ref → Set Ref} {start : Heap}
    (hvisit : ∀ now s, (∀ r, now.value r = start.value r) →
      Flagged isLocked (within s) now (visit now s)) (children : List Ref) {now : Heap}
    (hnow : ∀ r, now.value r = start.value r) :
    Flagged isLocked {r | ∃ s ∈ children, r ∈ within s} now (children.foldl visit now) := by
  induction children generalizing now with
  | nil => exact (Flagged.refl isLocked now).congr (by simp)
  | cons s rest ih =>
      have hfirst := hvisit now s hnow
      have hnext : ∀ r, (visit now s).value r = start.value r := fun r =>
        (hfirst.value r).trans (hnow r)
      refine (hfirst.trans (ih hnext)).congr ?_
      ext r
      simp

/-- However often an object is met, it is flagged just when it is close enough. -/
theorem lockWithin_flagged (isLocked : Bool) (steps : Nat) (v : Ref) (h : Heap) :
    Flagged isLocked {r | h.ReachesWithin v steps r} h (h.lockWithin isLocked steps v) := by
  induction steps generalizing v h with
  | zero =>
      refine (Flagged.setLocked h isLocked v).congr ?_
      ext r
      exact reachesWithin_zero_iff.symm
  | succ steps ih =>
      have hself := Flagged.setLocked h isLocked v
      have hvisit : ∀ now s, (∀ r, now.value r = h.value r) →
          Flagged isLocked {r | h.ReachesWithin s steps r} now
            (now.lockWithin isLocked steps s) := by
        intro now s hnow
        refine (ih s now).congr ?_
        ext r
        exact exists_congr fun n => and_congr_right fun _ => reachesIn_congr hnow s n r
      refine (hself.trans (foldl_flagged hvisit (h.children v) hself.value)).congr ?_
      ext r
      exact reachesWithin_succ_iff.symm

theorem lockTo_flagged (isLocked : Bool) (depth : Int) (v : Ref) (h : Heap) :
    Flagged isLocked (h.ball v depth) h (h.lockTo isLocked depth v) :=
  (lockWithin_flagged isLocked (depth - 1).toNat v h).congr (ball_eq h v depth).symm

/-- Setting the flags of a value to a depth sets those of a ball and changes nothing else: a lock
leaves locked what was locked or is in the ball, and an unlock what was locked and is not. So to
do it twice is to do it once to the greater depth, and an unlock to the depth of a lock leaves the
ball unlocked and every other flag as it was before the two. -/
theorem lockTo_concerns_ball (h : Heap) (v : Ref) (d e : Int) :
    (∀ b, Flagged b (h.ball v d) h (h.lockTo b d v)) ∧
    (∀ r, r.index < h.size →
      ((h.lockTo true d v).isLocked r = true ↔ h.isLocked r = true ∨ r ∈ h.ball v d) ∧
      ((h.lockTo false d v).isLocked r = true ↔ h.isLocked r = true ∧ r ∉ h.ball v d)) ∧
    (∀ b, (h.lockTo b d v).lockTo b d v = h.lockTo b d v) ∧
    (∀ b, (h.lockTo b d v).lockTo b e v = h.lockTo b (max d e) v) ∧
    Flagged false (h.ball v d) h ((h.lockTo true d v).lockTo false d v) := by
  have hlock : ∀ b, Flagged b (h.ball v d) h (h.lockTo b d v) := fun b => lockTo_flagged b d v h
  -- what is done next concerns a ball of the heap at the start
  have hnext : ∀ b b' (e : Int), Flagged b' (h.ball v e) (h.lockTo b d v)
      ((h.lockTo b d v).lockTo b' e v) := fun b b' e =>
    (lockTo_flagged b' e v _).congr ((hlock b).ball_eq v e)
  have htwice : ∀ b e, (h.lockTo b d v).lockTo b e v = h.lockTo b (max d e) v := fun b e =>
    (((hlock b).trans (hnext b b e)).congr (ball_union h v d e)).unique
      (lockTo_flagged b (max d e) v h)
  refine ⟨hlock, fun r hr => ?_, fun b => ?_, fun b => htwice b e,
    (hlock true).turned (hnext true false d)⟩
  · by_cases hball : r ∈ h.ball v d
    · rw [(hlock true).inside hball hr, (hlock false).inside hball hr]
      simp [hball]
    · rw [(hlock true).outside hball, (hlock false).outside hball]
      simp [hball]
  · rw [htwice, max_self]

end Heap

end Vimscript
