import Vimscript.Library.MergeSort
import Vimscript.Proofs.Run.Sequence

/-!
# Sorting by a comparison that is a computation

Whatever a comparison answers, and whatever else it does, a merge sort asks
it a number of questions, one after the other, and comes to an end. Each
question is about an item and one that stood behind it, and what comes out
is a permutation: `mergeSortM_inquires` says this together with how the sort
ends where a comparison stops it.

If the answers that were given agree with a total preorder, the sort is the
stable one (`StableSort`): in each merge the effects can then be forgotten,
and it is the merge of lists.
-/

namespace Vimscript

open Run

variable {α : Type}

/-! ## Stable sorting -/

/-- A relation by which any two things can be compared. -/
structure TotalPreorder (le : α → α → Bool) : Prop where
  trans : ∀ a b c, le a b = true → le b c = true → le a c = true
  total : ∀ a b, (le a b || le b a) = true

/-- Two things compare equal. -/
def alike (le : α → α → Bool) (a b : α) : Bool := le a b && le b a

/-- A list has been put in order, and things that compare equal follow one another as before. -/
structure StableSort (le : α → α → Bool) (items sorted : List α) : Prop where
  perm : sorted.Perm items
  ordered : sorted.Pairwise fun a b => le a b = true
  stable : ∀ a, sorted.filter (alike le a) = items.filter (alike le a)

namespace TotalPreorder

variable {le : α → α → Bool} (hle : TotalPreorder le)
include hle

/-- A merge of ordered lists keeps what compares equal in order, and that of the first list stands
before that of the second. -/
theorem filter_merge (a : α) : ∀ {xs ys : List α}, xs.Pairwise (fun a b => le a b = true) →
    ys.Pairwise (fun a b => le a b = true) →
    (xs.merge ys le).filter (alike le a) = xs.filter (alike le a) ++ ys.filter (alike le a)
  | [], ys, _, _ => by rw [List.nil_merge, List.filter_nil, List.nil_append]
  | x :: xs, [], _, _ => by rw [List.merge_right, List.filter_nil, List.append_nil]
  | x :: xs, y :: ys, hxs, hys => by
    rw [List.merge]
    split
    · rw [List.filter_cons, List.filter_cons (x := x), filter_merge a hxs.of_cons hys]
      split <;> rfl
    · rename_i hlt
      rw [List.filter_cons, List.filter_cons (x := y), filter_merge a hxs hys.of_cons]
      split
      · rename_i hy
        -- `y` stands before all of the first list, so there is nothing like it there
        have hnone : (x :: xs).filter (alike le a) = [] := by
          rw [List.filter_eq_nil_iff]
          intro z hz hlike
          rw [alike, Bool.and_eq_true] at hy hlike
          have hxz : le x z = true := by
            rcases List.mem_cons.mp hz with rfl | hz
            · exact (Bool.or_self _).symm.trans (hle.total z z)
            · exact List.rel_of_pairwise_cons hxs hz
          exact hlt (hle.trans _ _ _ hxz (hle.trans _ _ _ hlike.2 hy.1))
        rw [hnone]
        rfl
      · rfl

end TotalPreorder

namespace StableSort

variable {le : α → α → Bool} {xs ys items left right : List α}

theorem short (hshort : items.length ≤ 1) : StableSort le items items where
  perm := .refl _
  ordered := by
    match items, hshort with
    | [], _ => exact .nil
    | [x], _ => exact List.pairwise_singleton _ x
  stable _ := rfl

theorem merge (hle : TotalPreorder le) (hleft : StableSort le xs left)
    (hright : StableSort le ys right) : StableSort le (xs ++ ys) (left.merge right le) where
  perm := (List.merge_perm_append le).trans (hleft.perm.append hright.perm)
  ordered := List.pairwise_merge hle.trans hle.total _ _ hleft.ordered hright.ordered
  stable a := by
    rw [hle.filter_merge a hleft.ordered hright.ordered, hleft.stable, hright.stable,
      List.filter_append]

/-- The merge sort of lists is stable. -/
theorem mergeSort (hle : TotalPreorder le) (items : List α) :
    StableSort le items (items.mergeSort le) where
  perm := List.mergeSort_perm items le
  ordered := List.pairwise_mergeSort hle.trans hle.total items
  stable a := by
    -- things that are alike are in order already, so they stay in this order
    have halike : (items.filter (alike le a)).Pairwise fun b c => le b c = true := by
      refine List.pairwise_of_forall_mem_list fun b hb c hc => ?_
      have hba := (List.mem_filter.mp hb).2
      have hac := (List.mem_filter.mp hc).2
      rw [alike, Bool.and_eq_true] at hba hac
      exact hle.trans b a c hba.2 hac.1
    have hsub := (List.sublist_mergeSort hle.trans hle.total halike List.filter_sublist).filter
      (alike le a)
    simp only [List.filter_filter, Bool.and_self] at hsub
    exact (hsub.eq_of_length ((List.mergeSort_perm items le).filter _).length_eq.symm).symm

theorem eq_swapped {a b : α} (h : StableSort le [a, b] items) (hab : ¬le a b = true) :
    items = [b, a] := by
  match items, h.perm.length_eq with
  | [x, y], _ =>
    have hxy : le x y = true := List.rel_of_pairwise_cons h.ordered List.mem_cons_self
    rcases List.mem_cons.mp (h.perm.mem_iff.mp List.mem_cons_self) with rfl | hx
    · cases List.perm_singleton.mp h.perm.cons_inv
      exact absurd hxy hab
    · obtain rfl := List.mem_singleton.mp hx
      cases List.perm_singleton.mp (h.perm.trans (List.Perm.swap _ _ _)).cons_inv
      rfl

end StableSort

/-! ## Following a sort -/

/-- Asks whether the first of two things may stand before the second. -/
def asked (le : α → α → Run Bool) (p : α × α) : Run Bool := le p.1 p.2

/-- Questions have been asked, each about two things that it may be about. What has come out is
good for these questions and their answers; or else the last question has stopped everything. -/
inductive Inquiry (le : α → α → Run Bool) (setup : Setup) (may : α → α → Prop)
    (good : List ((α × α) × Bool) → List α → Prop) (s : State) :
    Except Stop (List α) → State → Prop
  | done {pairs : List (α × α)} {answers : List Bool} {out : List α} {t : State} :
      Passed (asked le) setup pairs s answers t → (∀ p ∈ pairs, may p.1 p.2) →
      good (pairs.zip answers) out → Inquiry le setup may good s (.ok out) t
  | stopped {pairs : List (α × α)} {answers : List Bool} {p : α × α} {stop : Stop} {t u : State} :
      Passed (asked le) setup pairs s answers t → (∀ q ∈ pairs ++ [p], may q.1 q.2) →
      asked le p setup t = (.error stop, u) → Inquiry le setup may good s (.error stop) u

section

variable {le : α → α → Run Bool} {setup : Setup} {s t u : State} {may may' : α → α → Prop}
  {good good' : List ((α × α) × Bool) → List α → Prop} {result : Except Stop (List α)}

/-- More questions can come before, and more things be put to what comes out. -/
theorem Inquiry.after {pairs : List (α × α)} {answers : List Bool} (f : List α → List α)
    (h : Inquiry le setup may' good' t result u)
    (hbefore : Passed (asked le) setup pairs s answers t) (hmay : ∀ p ∈ pairs, may p.1 p.2)
    (hmore : ∀ a b, may' a b → may a b)
    (hgood : ∀ answered out, result = .ok out → good' answered out →
      good (pairs.zip answers ++ answered) (f out)) :
    Inquiry le setup may good s (result.map f) u := by
  cases h with
  | @done pairs' answers' out t hpassed hmay' hout =>
    refine .done (hbefore.append hpassed) ?_ ?_
    · exact List.forall_mem_append.mpr ⟨hmay, fun p hp => hmore _ _ (hmay' p hp)⟩
    · rw [List.zip_append hbefore.length_eq.symm]
      exact hgood _ _ rfl hout
  | stopped hpassed hmay' hstop =>
    refine .stopped (hbefore.append hpassed) ?_ hstop
    rw [List.append_assoc]
    exact List.forall_mem_append.mpr ⟨hmay, fun p hp => hmore _ _ (hmay' p hp)⟩

theorem return_of_run {x : Run (List α)} {result : Except Stop (List α)} (f : List α → List α)
    (h : x setup s = (result, t)) :
    (do return f (← x) : Run (List α)) setup s = (result.map f, t) := by
  cases result with
  | error stop => exact bind_of_error h
  | ok out => exact bind_of_ok h

/-- The answers that were given are those of a relation. -/
def Agree (before : α → α → Bool) (answered : List ((α × α) × Bool)) : Prop :=
  ∀ e ∈ answered, e.2 = before e.1.1 e.1.2

/-- What comes out of a merge: nothing is lost, and if the answers agree with a relation then it is
the merge by this relation. -/
def Merged (as bs : List α) (answered : List ((α × α) × Bool)) (out : List α) : Prop :=
  out.Perm (as ++ bs) ∧ ∀ before, Agree before answered → out = as.merge bs before

theorem mergeM_inquires (as bs : List α) (h : mergeM le as bs setup s = (result, t)) :
    Inquiry le setup (fun a b => a ∈ as ∧ b ∈ bs) (Merged as bs) s result t := by
  fun_induction mergeM le as bs generalizing s result with
  | case1 bs =>
    cases h
    exact .done .nil (by simp) ⟨.refl _, fun _ _ => (List.nil_merge bs).symm⟩
  | case2 as =>
    cases h
    refine .done .nil (by simp) ⟨?_, fun _ _ => (List.merge_right as).symm⟩
    rw [List.append_nil]
  | case3 a as b bs ih₁ ih₂ =>
    rcases hask : le a b setup s with ⟨stop | answer, u⟩
    · rw [bind_of_error hask] at h
      cases h
      exact .stopped (p := (a, b)) .nil (by simp) hask
    rw [bind_of_ok hask] at h
    have hfirst : Passed (asked le) setup [(a, b)] s [answer] u := .cons hask .nil
    cases answer with
    | true =>
      rcases hrest : mergeM le as (b :: bs) setup u with ⟨result', v⟩
      cases (return_of_run (a :: ·) hrest).symm.trans h
      refine (ih₁ hrest).after _ hfirst (by simp) ?_ ?_
      · exact fun x y hxy => ⟨List.mem_cons_of_mem _ hxy.1, hxy.2⟩
      · rintro answered out - ⟨hperm, hmerge⟩
        refine ⟨hperm.cons a, fun before hagree => ?_⟩
        obtain ⟨hab, hagree⟩ := List.forall_mem_cons.mp hagree
        rw [List.merge, if_pos hab.symm, hmerge before hagree]
    | false =>
      rcases hrest : mergeM le (a :: as) bs setup u with ⟨result', v⟩
      cases (return_of_run (b :: ·) hrest).symm.trans h
      refine (ih₂ hrest).after _ hfirst (by simp) ?_ ?_
      · exact fun x y hxy => ⟨hxy.1, List.mem_cons_of_mem _ hxy.2⟩
      · rintro answered out - ⟨hperm, hmerge⟩
        refine ⟨(hperm.cons b).trans List.perm_middle.symm, fun before hagree => ?_⟩
        obtain ⟨hab, hagree⟩ := List.forall_mem_cons.mp hagree
        rw [List.merge, if_neg (by rw [← hab]; exact Bool.false_ne_true), hmerge before hagree]

theorem mergeSortM_pair (le : α → α → Run Bool) (a b : α) :
    mergeSortM le [a, b] = le a b >>= fun first => pure (if first then [a, b] else [b, a]) := by
  have hsingle (x : α) : mergeSortM le [x] = pure [x] := by
    rw [mergeSortM, List.length_singleton, if_pos (Nat.le_refl 1)]
  have hleft : [a, b].take ([a, b].length / 2) = [a] := by simp
  have hright : [a, b].drop ([a, b].length / 2) = [b] := by simp
  rw [mergeSortM, if_neg (by rw [List.length_cons, List.length_singleton]; decide), hleft, hright,
    hsingle, hsingle, pure_bind, pure_bind, mergeM]
  refine bind_congr fun first => ?_
  cases first <;> simp [mergeM]

/-- What comes out of a sort. -/
def SortedBy (items : List α) (answered : List ((α × α) × Bool)) (out : List α) : Prop :=
  out.Perm items ∧ ∀ before, TotalPreorder before → Agree before answered →
    StableSort before items out

/-- A sort asks about pairs of which the first stood before the second. -/
theorem mergeSortM_inquires (items : List α) (h : mergeSortM le items setup s = (result, t)) :
    Inquiry le setup (fun a b => [a, b].Sublist items) (SortedBy items) s result t := by
  fun_induction mergeSortM le items generalizing s t result with
  | case1 items hshort =>
    cases h
    exact .done .nil (by simp) ⟨.refl _, fun _ _ _ => .short hshort⟩
  | case2 items _ ihleft ihright =>
    let half := items.length / 2
    have hhalves : items.take half ++ items.drop half = items := List.take_append_drop half items
    have hwithin {a b : α} : [a, b].Sublist (items.take half) → [a, b].Sublist items :=
      fun h => h.trans (List.take_sublist _ _)
    have hwithin' {a b : α} : [a, b].Sublist (items.drop half) → [a, b].Sublist items :=
      fun h => h.trans (List.drop_sublist _ _)
    rcases hleft : mergeSortM le (items.take half) setup s with ⟨stop | left, u⟩
    · rw [bind_of_error hleft] at h
      cases h
      exact (ihleft hleft).after id .nil (by simp) (fun _ _ => hwithin) nofun
    rw [bind_of_ok hleft] at h
    obtain @⟨pairs₁, answers₁, _, _, hpassed₁, hmay₁, hperm₁, hstable₁⟩ := ihleft hleft
    rcases hright : mergeSortM le (items.drop half) setup u with ⟨stop | right, v⟩
    · rw [bind_of_error hright] at h
      cases h
      exact (ihright hright).after id hpassed₁ (fun p hp => hwithin (hmay₁ p hp))
        (fun _ _ => hwithin') nofun
    rw [bind_of_ok hright] at h
    obtain @⟨pairs₂, answers₂, _, _, hpassed₂, hmay₂, hperm₂, hstable₂⟩ := ihright hright
    have hid : result.map id = result := congrFun Except.map_id result
    rw [← hid]
    refine (mergeM_inquires left right h).after id (hpassed₁.append hpassed₂) ?_ ?_ ?_
    · exact List.forall_mem_append.mpr
        ⟨fun p hp => hwithin (hmay₁ p hp), fun p hp => hwithin' (hmay₂ p hp)⟩
    · -- an item of the first half stands before one of the second
      rintro a b ⟨ha, hb⟩
      rw [← hhalves]
      exact (List.singleton_sublist.mpr (hperm₁.mem_iff.mp ha)).append
        (List.singleton_sublist.mpr (hperm₂.mem_iff.mp hb))
    · rintro answered out - ⟨hperm, hmerged⟩
      constructor
      · rw [← hhalves]
        exact hperm.trans (hperm₁.append hperm₂)
      · intro before hbefore hagree
        rw [List.zip_append hpassed₁.length_eq.symm] at hagree
        obtain ⟨hagree, hagree₃⟩ := List.forall_mem_append.mp hagree
        obtain ⟨hagree₁, hagree₂⟩ := List.forall_mem_append.mp hagree
        have hstable := (hstable₁ before hbefore hagree₁).merge hbefore
          (hstable₂ before hbefore hagree₂)
        rw [hhalves, ← hmerged before hagree₃] at hstable
        exact hstable

end

end Vimscript
