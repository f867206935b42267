import Vimscript.Proofs.Eval.Storing
import Vimscript.Proofs.Eval.UnletSlice

/-!
# Assigning a slice

`:let` for a slice of a List checks the bounds and the number of items
first. From then on it goes from item to item, and each is tested and written
before the next is looked at. So an assignment that fails may leave a part
of its work behind, but only this: the items before the one that is refused
have been assigned, each as a single item is assigned (`AssignedInTurn`), and
the others are where they were. Nothing has been added at the end, because
only the lock of the List can refuse an item there, and it refuses the first.
-/

namespace Vimscript

open Run

/-! ## From item to item -/

/-- Items have been assigned to a List one after the other, from a position on. -/
inductive AssignedInTurn (container : Ref) (op : LetOp) : Nat → List Ref → Heap → Heap → Prop
  | nil {i : Nat} {h : Heap} : AssignedInTurn container op i [] h h
  | cons {i : Nat} {item current assigned : Ref} {rest : List Ref} {h h₁ h₂ h' : Heap} :
      (h.items container)[i]? = some current → h.isLocked current = false →
      h.Computes current item op assigned h₁ → ItemReplaced h₁ h₂ container i assigned →
      AssignedInTurn container op (i + 1) rest h₂ h' →
      AssignedInTurn container op i (item :: rest) h h'

/-- An item is refused: the old item is locked, the operator has no value for it, or the List is
locked and ends there. -/
inductive StepRefusal (h : Heap) (container : Ref) (op : LetOp) (length i : Nat) (item : Ref) :
    Stop → Prop
  | lockedItem {current : Ref} : (h.items container)[i]? = some current →
      h.isLocked current = true →
      StepRefusal h container op length i item (.ofCause (.locked (Op.itemName i)))
  | noValue {current : Ref} {stop : Stop} : (h.items container)[i]? = some current →
      ¬h.Combinable op current item → Unconverted stop →
      StepRefusal h container op length i item stop
  | lockedEnd : i = length → h.isLocked container = true →
      StepRefusal h container op length i item (.ofCause (.locked (Op.itemName i)))

section

variable {container : Ref} {op : LetOp} {length : Nat}

theorem assignRun_item {i : Nat} {item current : Ref} {rest : List Ref} {h : Heap}
    (hi : i < length) (hcurrent : (h.items container)[i]? = some current)
    (hfree : h.isLocked current = false) :
    Op.assignRun container op length i (item :: rest) h =
      (Op.combined op current item (Op.itemName i) >>= fun assigned =>
        Op.setItem container i assigned >>= fun _ =>
          Op.assignRun container op length (i + 1) rest) h := by
  rw [Op.assignRun, if_pos hi, Op.bind_of_ok (Op.get_eq h), hcurrent]
  dsimp only
  rw [Op.bind_of_ok (Op.isLocked_eq current h), hfree]
  rfl

theorem assignRun_locked {i : Nat} {item current : Ref} {rest : List Ref} {h : Heap}
    (hi : i < length) (hcurrent : (h.items container)[i]? = some current)
    (hlocked : h.isLocked current = true) :
    Op.assignRun container op length i (item :: rest) h =
      (.error (.ofCause (.locked (Op.itemName i))), h) := by
  rw [Op.assignRun, if_pos hi, Op.bind_of_ok (Op.get_eq h), hcurrent]
  dsimp only
  rw [Op.bind_of_ok (Op.isLocked_eq current h), hlocked]
  rfl

/-- A List that is not locked takes any number of items at its end. -/
theorem assignRun_appends : ∀ (given : List Ref) (i : Nat) (h : Heap), length ≤ i →
    h.isLocked container = false →
    ∃ h', Op.assignRun container op length i given h = (.ok (), h')
  | [], _, h, _, _ => ⟨h, rfl⟩
  | item :: rest, i, h, hi, hfree => by
      rw [Op.assignRun, if_neg (Nat.not_lt.mpr hi), Op.bind_of_ok (Op.isLocked_eq container h),
        hfree, if_neg Bool.false_ne_true]
      obtain ⟨h', hrun⟩ := assignRun_appends rest (i + 1)
        (h.setValue container (.list (h.items container ++ [item]))) (Nat.le_succ_of_le hi)
        ((Heap.isLocked_setValue h _ container container).trans hfree)
      exact ⟨h', hrun⟩

/-- When a run stops short, the items before the one that is refused have been assigned. -/
theorem assignRun_fails {stop : Stop} {h' : Heap} : ∀ (given : List Ref) (i : Nat) (h : Heap),
    i ≤ length → length ≤ (h.items container).length →
    Op.assignRun container op length i given h = (.error stop, h') →
    ∃ done refused rest, given = done ++ refused :: rest ∧
      i + done.length ≤ length ∧ AssignedInTurn container op i done h h' ∧
      StepRefusal h' container op length (i + done.length) refused stop
  | [], _, _, _, _, hfail => by cases hfail
  | item :: rest, i, h, hi, hlength, hfail => by
      rcases Nat.lt_or_eq_of_le hi with hlt | hend
      · obtain ⟨current, hcurrent⟩ : ∃ current, (h.items container)[i]? = some current :=
          ⟨_, List.getElem?_eq_getElem (Nat.lt_of_lt_of_le hlt hlength)⟩
        cases hlock : h.isLocked current with
        | true =>
            rw [assignRun_locked hlt hcurrent hlock] at hfail
            cases hfail
            exact ⟨[], item, rest, rfl, hi, .nil, .lockedItem hcurrent hlock⟩
        | false =>
            rw [assignRun_item hlt hcurrent hlock] at hfail
            obtain ⟨assigned, h₁, hout, hcomputes⟩ | ⟨stop', hout, hstop⟩ :=
              Op.combined_cases op current item (Op.itemName i) h
            · have hlist := Heap.value_of_getElem? hcurrent
              obtain ⟨more, hmore⟩ := hcomputes.heapJoined.list container _ hlist
              have hlength₁ : length ≤ (h₁.items container).length := by
                rw [Heap.items_of_list hmore, List.length_append]
                omega
              obtain ⟨h₂, hset, hreplaced⟩ :=
                setItem_replaces (Nat.lt_of_lt_of_le hlt hlength₁) assigned
              have hlength₂ : length ≤ (h₂.items container).length := by
                rw [Heap.items_of_list hreplaced.items, List.length_set]
                exact hlength₁
              rw [Op.bind_of_ok hout, Op.bind_of_ok hset] at hfail
              obtain ⟨done, refused, rest', rfl, hto, hturn, hrefusal⟩ :=
                assignRun_fails rest (i + 1) h₂ hlt hlength₂ hfail
              have hcount : i + (item :: done).length = i + 1 + done.length := by
                rw [List.length_cons]
                omega
              refine ⟨item :: done, refused, rest', rfl, ?_,
                .cons hcurrent hlock hcomputes hreplaced hturn, ?_⟩
              · rw [hcount]
                exact hto
              · rw [hcount]
                exact hrefusal
            · rw [Op.bind_of_error hout] at hfail
              cases hfail
              refine ⟨[], item, rest, rfl, hi, .nil, ?_⟩
              obtain ⟨-, hlocked, -⟩ | ⟨hunconverted, hno⟩ := hstop
              · rw [hlock] at hlocked
                cases hlocked
              · exact .noValue hcurrent hno hunconverted
      · -- behind the items there were, the first one is refused or all are added
        cases hlock : h.isLocked container with
        | true =>
            rw [Op.assignRun, if_neg (Nat.not_lt.mpr (Nat.le_of_eq hend.symm)),
              Op.bind_of_ok (Op.isLocked_eq container h), hlock] at hfail
            cases hfail
            exact ⟨[], item, rest, rfl, hi, .nil, .lockedEnd hend hlock⟩
        | false =>
            obtain ⟨h'', hrun⟩ : ∃ h'', Op.assignRun container op length i (item :: rest) h =
                (.ok (), h'') := assignRun_appends _ i h (Nat.le_of_eq hend.symm) hlock
            rw [hrun] at hfail
            cases hfail

end

/-! ## What has changed -/

namespace AssignedInTurn

variable {container : Ref} {op : LetOp} {i : Nat} {done : List Ref} {h h' : Heap}

/-- What one step leaves at the other positions. -/
theorem getElem?_of_step {assigned current item : Ref} {h₁ h₂ : Heap}
    (hcurrent : (h.items container)[i]? = some current)
    (hcomputes : h.Computes current item op assigned h₁)
    (hreplaced : ItemReplaced h₁ h₂ container i assigned) :
    (h.items container).length ≤ (h₂.items container).length ∧
      ∀ q, q ≠ i → q < (h.items container).length →
        (h₂.items container)[q]? = (h.items container)[q]? := by
  have hlist := Heap.value_of_getElem? hcurrent
  obtain ⟨more, hmore⟩ := hcomputes.heapJoined.list container _ hlist
  rw [Heap.items_of_list hreplaced.items, Heap.items_of_list hmore]
  refine ⟨?_, fun q hq hlt => ?_⟩
  · rw [List.length_set, List.length_append]
    omega
  · rw [List.getElem?_set_ne (Ne.symm hq), List.getElem?_append_left hlt]

/-- The items at all other positions are where they were. -/
theorem others (hturn : AssignedInTurn container op i done h h') {q : Nat}
    (hlt : q < (h.items container).length) (hq : q < i ∨ i + done.length ≤ q) :
    (h'.items container)[q]? = (h.items container)[q]? := by
  induction hturn with
  | nil => rfl
  | cons hcurrent _ hcomputes hreplaced _ ih =>
      rw [List.length_cons] at hq
      obtain ⟨hlength, hsame⟩ := getElem?_of_step hcurrent hcomputes hreplaced
      rw [ih (by omega) (by omega), hsame q (by omega) hlt]

/-- An object that is neither the List nor an item that was replaced is what it was. -/
theorem kept (hturn : AssignedInTurn container op i done h h') {x : Ref} (hx : x.index < h.size)
    (hne : x ≠ container) (hto : i + done.length ≤ (h.items container).length)
    (hapart : ∀ q, (h.items container)[q]? = some x → q < i ∨ i + done.length ≤ q) :
    h'.cell x = h.cell x := by
  induction hturn with
  | nil => rfl
  | @cons i item current assigned rest h h₁ h₂ h' hcurrent _ hcomputes hreplaced _ ih =>
      rw [List.length_cons] at hto hapart
      obtain ⟨hlength, hsame⟩ := getElem?_of_step hcurrent hcomputes hreplaced
      have hsize : h.size ≤ h₂.size := by
        rw [hreplaced.size]
        exact hcomputes.size_le
      have hstep : h₂.cell x = h.cell x := by
        rw [hreplaced.kept x hne]
        refine hcomputes.cell hx ?_
        rintro rfl
        have hself := hapart i hcurrent
        omega
      rw [ih (Nat.lt_of_lt_of_le hx hsize) (by omega) ?_, hstep]
      intro q hq
      rcases Nat.lt_or_ge q (h.items container).length with hlt | hge
      · by_cases hqi : q = i
        · omega
        · rw [hsame q hqi hlt] at hq
          have hother := hapart q hq
          omega
      · omega

/-- `=` puts the items themselves into the List. -/
theorem items_of_set (hturn : AssignedInTurn container .set i done h h') :
    h'.items container = (h.items container).take i ++ done ++
      (h.items container).drop (i + done.length) := by
  generalize hset : LetOp.set = op at hturn
  induction hturn with
  | nil => rw [List.length_nil, Nat.add_zero, List.append_nil, List.take_append_drop]
  | @cons i item current assigned rest h h₁ h₂ h' hcurrent _ hcomputes hreplaced _ ih =>
      subst hset
      cases hcomputes
      have hlt := (List.getElem?_eq_some_iff.mp hcurrent).1
      have htake : ((h.items container).set i item).take (i + 1) =
          (h.items container).take i ++ [item] := by
        rw [List.take_add_one, List.take_set_of_le (Nat.le_refl i), List.getElem?_set_self hlt]
        rfl
      have hdrop : ((h.items container).set i item).drop (i + 1 + rest.length) =
          (h.items container).drop (i + (item :: rest).length) := by
        rw [List.drop_set_of_lt (by omega), List.length_cons]
        congr 1
        omega
      rw [ih, Heap.items_of_list hreplaced.items, htake, hdrop]
      simp only [List.append_assoc, List.cons_append, List.nil_append]

end AssignedInTurn

/-- The assignment of a slice has stopped at the item `refused`: the items before it have been
assigned to positions from `start` on, and the rest of the List is as it was. -/
structure PartlyAssigned (h h' : Heap) (container : Ref) (op : LetOp) (items : List Ref)
    (start : Nat) (done : List Ref) (refused : Ref) (stop : Stop) : Prop where
  inTurn : AssignedInTurn container op start done h h'
  refusal : StepRefusal h' container op items.length (start + done.length) refused stop
  others : ∀ q, q < items.length → q < start ∨ start + done.length ≤ q →
    (h'.items container)[q]? = items[q]?
  kept : ∀ x, x.index < h.size → x ≠ container →
    (∀ q, items[q]? = some x → q < start ∨ start + done.length ≤ q) → h'.cell x = h.cell x
  replaced : op = .set →
    h'.items container = items.take start ++ done ++ items.drop (start + done.length)

theorem assignRun_partly {h h' : Heap} {container : Ref} {op : LetOp} {items given : List Ref}
    {start : Nat} {stop : Stop} (hitems : h.value container = .list items)
    (hstart : start ≤ items.length)
    (hfail : Op.assignRun container op items.length start given h = (.error stop, h')) :
    ∃ done refused rest, given = done ++ refused :: rest ∧
      PartlyAssigned h h' container op items start done refused stop := by
  have hheld := Heap.items_of_list hitems
  obtain ⟨done, refused, rest, hgiven, hto, hturn, hrefusal⟩ :=
    assignRun_fails given start h hstart (Nat.le_of_eq (congrArg List.length hheld.symm)) hfail
  refine ⟨done, refused, rest, hgiven, hturn, hrefusal, ?_, ?_, ?_⟩
  · intro q hlt hq
    rw [← hheld] at hlt ⊢
    exact hturn.others hlt hq
  · intro x hx hne hapart
    rw [← hheld] at hto hapart
    exact hturn.kept hx hne hto hapart
  · rintro rfl
    rw [← hheld]
    exact hturn.items_of_set

/-! ## The statement -/

/-- Whenever a computation stops short, the reason and the state satisfy a predicate. -/
def Run.Stops {α : Type} (Q : Stop → State → Prop) (x : Run α) (setup : Setup) (s : State) : Prop :=
  ∀ stop t, x setup s = (.error stop, t) → Q stop t

namespace Run.Stops

variable {α β : Type} {Q : Stop → State → Prop} {setup : Setup} {s t : State}

theorem bind {x : Run α} {f : α → Run β} (hx : Stops Q x setup s)
    (hf : ∀ a t, x setup s = (.ok a, t) → Stops Q (f a) setup t) :
    Stops Q (x >>= f) setup s := by
  intro stop u hfail
  rcases hout : x setup s with ⟨stop' | a, t⟩
  · rw [bind_of_error hout] at hfail
    cases hfail
    exact hx _ _ hout
  · rw [bind_of_ok hout] at hfail
    exact hf a t hout stop u hfail

theorem bindOk {x : Run α} {f : α → Run β} {a : α} (hx : x setup s = (.ok a, t))
    (hf : Stops Q (f a) setup t) : Stops Q (x >>= f) setup s := by
  intro stop u hfail
  rw [bind_of_ok hx] at hfail
  exact hf stop u hfail

/-- A computation that keeps every object, up to its end, stops short with every object kept. -/
theorem ofKept {x : Run α} {h : Heap} (hx : h.Kept (x setup s).2.heap)
    (hQ : ∀ stop t, h.Kept t.heap → Q stop t) : Stops Q x setup s := by
  intro stop t hout
  rw [hout] at hx
  exact hQ stop t hx

end Run.Stops

section

variable {M : Machine} {c : Context} {setup : Setup}

theorem settled_none : Settled M c setup none := nofun

theorem settled_int (mark : Option Mark) (n : Int) : Settled M c setup (some (.int mark n)) := by
  rintro e ⟨⟩ s
  exact Heap.kept_extending.alloc s.heap (.number n)

theorem evalBound_kept {bound : Option Expr} (hbound : Settled M c setup bound) (fallback : Int)
    (s : State) : s.heap.Kept (evalBound M fallback bound c setup s).2.heap := by
  cases bound with
  | none => exact Heap.kept_extending.refl s.heap
  | some e =>
      have hkept := hbound e rfl s
      rcases hout : evalExpr M e c setup s with ⟨stop | v, t⟩
      · rw [hout] at hkept
        rw [evalBound, bind_of_error hout]
        exact hkept
      · rw [hout] at hkept
        rw [evalBound, bind_of_ok hout]
        exact hkept

/-- A List is required, and nothing else happens. -/
theorem requireList_stops {Q : Stop → State → Prop} {β : Type} {x : Ref} {cause : Cause}
    {f : List Ref → Run β} {s : State} (hQ : Q (.ofCause cause) s)
    (hf : ∀ items, s.heap.value x = .list items → Run.Stops Q (f items) setup s) :
    Run.Stops Q (requireList x cause >>= f) setup s := by
  obtain ⟨items, hitems, hlist⟩ | hother := requireList_cases setup s x cause
  · exact .bindOk hlist (hf items hitems)
  · intro stop t hfail
    rw [bind_of_error hother] at hfail
    cases hfail
    exact hQ

/-- What a slice assignment that fails leaves behind, from the state in which the List is known: no
object has changed, or the assignment has come to an item that is refused after others have been
assigned. -/
inductive SliceFailure (M : Machine) (c : Context) (setup : Setup) (first : Option Expr) (s : State)
    (list value : Ref) (op : LetOp) (stop : Stop) (t : State) : Prop
  | untouched : s.heap.Kept t.heap → SliceFailure M c setup first s list value op stop t
  | partly {a : Int} {s₁ : State} {start : Nat} {h : Heap} {done rest : List Ref} {refused : Ref} :
      evalBound M 0 first c setup s = (.ok a, s₁) →
      (start : Int) = fromEnd (s.heap.items list).length a →
      s.heap.items value = done ++ refused :: rest → done ≠ [] → s.heap.Kept h →
      PartlyAssigned h t.heap list op (s.heap.items list) start done refused stop →
      SliceFailure M c setup first s list value op stop t

/-- The run over the items, once the bounds are known. -/
theorem assignRun_stops {list value : Ref} {op : LetOp} {first : Option Expr} {a : Int}
    {items given : List Ref} {s s₁ u : State} (hitems : s.heap.value list = .list items)
    (hgiven : s.heap.value value = .list given)
    (hfirst : evalBound M 0 first c setup s = (.ok a, s₁))
    (hrange : ¬(fromEnd items.length a < 0 ∨ (items.length : Int) < fromEnd items.length a))
    (hkept : s.heap.Kept u.heap) :
    Run.Stops (SliceFailure M c setup first s list value op)
      (liftM (Op.assignRun list op items.length (fromEnd items.length a).toNat given) : Run Unit)
      setup u := by
  intro stop t hfail
  have hheld := Heap.items_of_list hitems
  have hstart : (fromEnd items.length a).toNat ≤ items.length := by omega
  rcases hrun : Op.assignRun list op items.length (fromEnd items.length a).toNat given u.heap with
    ⟨stop' | _, h'⟩
  · rw [op_of_error hrun] at hfail
    cases hfail
    have hitems' := (hkept.value (Heap.index_lt_of_list hitems)).trans hitems
    obtain ⟨done, refused, rest, hsplit, hpartly⟩ := assignRun_partly hitems' hstart hrun
    cases done with
    | nil =>
        cases hpartly.inTurn
        exact .untouched hkept
    | cons item done =>
        have hposition : ((fromEnd items.length a).toNat : Int) = fromEnd items.length a := by omega
        rw [← Heap.items_of_list hgiven] at hsplit
        rw [← hheld] at hposition hpartly
        exact .partly hfirst hposition hsplit (List.cons_ne_nil item done) hkept hpartly
  · rw [op_of_ok hrun] at hfail
    cases hfail

/-- A slice assignment is done item by item. If it fails, no object has changed, or exactly the
items before the one that is refused have been assigned. -/
theorem failed_slice_assigned_in_turn {target : Expr} {first last : Option Expr} {op : LetOp}
    {value list : Ref} {stop : Stop} {s₀ s t : State}
    (htarget : evalExpr M target c setup s₀ = (.ok list, s))
    (hfirst : Settled M c setup first) (hlast : Settled M c setup last)
    (hfail : assignSlice M target first last op value c setup s₀ = (.error stop, t)) :
    SliceFailure M c setup first s list value op stop t := by
  have hrefl := Heap.kept_extending.refl s.heap
  revert stop t
  change Run.Stops (SliceFailure M c setup first s list value op) _ setup s₀
  unfold assignSlice
  refine .bindOk htarget (requireList_stops (.untouched hrefl) fun items hitems => ?_)
  refine requireList_stops (.untouched hrefl) fun given hgiven => ?_
  have hkept := evalBound_kept hfirst 0 s
  refine .bind (.ofKept hkept fun _ _ => .untouched) fun a s₁ ha => ?_
  rw [ha] at hkept
  have hheld : s₁.heap.items value = given :=
    Heap.items_of_list ((hkept.value (Heap.index_lt_of_list hgiven)).trans hgiven)
  dsimp only
  split
  · refine .ofKept ?_ fun _ _ => .untouched
    rcases Number.write (fromEnd items.length a) with fault | text
    · exact hkept
    · exact hkept
  · rename_i hrange
    refine .bindOk (a := s₁) (t := s₁) rfl ?_
    rw [hheld]
    cases last with
    | none => exact assignRun_stops hitems hgiven ha hrange hkept
    | some e =>
        have hkept' := Heap.kept_extending.trans hkept (hlast e rfl s₁)
        refine .bind (.ofKept hkept' fun _ _ => .untouched) fun v t hv => ?_
        rw [hv] at hkept'
        refine .bind (.ofKept hkept' fun _ _ => .untouched) fun n u hn => ?_
        obtain rfl : t = u := congrArg Prod.snd hn
        refine .bind (.ofKept hkept' fun _ _ => .untouched) fun _ u hcount => ?_
        obtain rfl : t = u := congrArg Prod.snd hcount
        exact assignRun_stops hitems hgiven ha hrange hkept'

/-- Without a last bound, nothing is left to check once the first one is in range. -/
theorem assignSlice_open {target : Expr} {first : Option Expr} {op : LetOp} {list value : Ref}
    {items given : List Ref} {a : Int} {s₀ s s₁ : State}
    (htarget : evalExpr M target c setup s₀ = (.ok list, s))
    (hitems : s.heap.value list = .list items) (hgiven : s.heap.value value = .list given)
    (hfirst : evalBound M 0 first c setup s = (.ok a, s₁)) (hheld : s₁.heap.items value = given)
    (hrange : ¬(fromEnd items.length a < 0 ∨ (items.length : Int) < fromEnd items.length a)) :
    assignSlice M target first none op value c setup s₀ =
      (liftM (Op.assignRun list op items.length (fromEnd items.length a).toNat given) : Run Unit)
        setup s₁ := by
  have hlist : ∀ {x : Ref} {xs : List Ref} (cause : Cause), s.heap.value x = .list xs →
      requireList x cause setup s = (.ok xs, s) := by
    intro x xs cause hx
    rw [requireList, bind_of_ok (op_of_ok (Op.value_eq x s.heap)), hx]
    rfl
  unfold assignSlice
  rw [bind_of_ok htarget, bind_of_ok (hlist _ hitems), bind_of_ok (hlist _ hgiven),
    bind_of_ok hfirst]
  dsimp only
  rw [if_neg hrange, bind_of_ok (a := s₁) (t := s₁) rfl, hheld]

end

/-- The inside of a call whose argument `l` is a List of three Numbers, the second of them locked,
and a List of two more. -/
def secondLocked : State where
  heap := { cells := #[
    { value := .dict {} }, { value := .dict { entries := [("l", ⟨2⟩)] } },
    { value := .list [⟨3⟩, ⟨4⟩, ⟨5⟩] }, { value := .number 1 },
    { value := .number 2, isLocked := true }, { value := .number 3 },
    { value := .list [⟨7⟩, ⟨8⟩] }, { value := .number 7 }, { value := .number 8 }] }

/-- `:let` for the slice of the argument from its first item on. -/
def assignFromFirst : Run Unit :=
  assignSlice Machine.halted theArgument (some (.int none 0)) none .set ⟨6⟩ calledContext

theorem assignFromFirst_run :
    ∃ s₁ : State, s₁.heap = (secondLocked.heap.alloc (.number 0)).2 ∧
      assignFromFirst bareSetup secondLocked = (.error (.ofCause (.locked (Op.itemName 1))),
        { s₁ with heap := s₁.heap.setValue ⟨2⟩ (.list [⟨7⟩, ⟨4⟩, ⟨5⟩]) }) := by
  have htarget : evalExpr Machine.halted theArgument calledContext bareSetup secondLocked =
      (.ok ⟨2⟩, secondLocked) := rfl
  have hfirst : ∃ s₁, evalBound Machine.halted 0 (some (.int none 0)) calledContext bareSetup
      secondLocked = (.ok 0, s₁) ∧ s₁.heap = (secondLocked.heap.alloc (.number 0)).2 :=
    ⟨_, rfl, rfl⟩
  obtain ⟨s₁, hfirst, hheap⟩ := hfirst
  have hheld : s₁.heap.items ⟨6⟩ = [⟨7⟩, ⟨8⟩] := by
    rw [hheap]
    rfl
  have hrun : Op.assignRun ⟨2⟩ .set 3 0 [⟨7⟩, ⟨8⟩] s₁.heap =
      (.error (.ofCause (.locked (Op.itemName 1))),
        s₁.heap.setValue ⟨2⟩ (.list [⟨7⟩, ⟨4⟩, ⟨5⟩])) := by
    rw [hheap]
    rfl
  refine ⟨s₁, hheap, ?_⟩
  exact (assignSlice_open htarget rfl rfl hfirst hheld (by decide)).trans (op_of_error hrun)

/-- The first item has been replaced, the second is refused. -/
theorem assignFromFirst_stops :
    ∃ t, assignFromFirst bareSetup secondLocked =
        (.error (.ofCause (.locked (Op.itemName 1))), t) ∧
      SliceFailure Machine.halted calledContext bareSetup (some (.int none 0)) secondLocked ⟨2⟩ ⟨6⟩
        .set (.ofCause (.locked (Op.itemName 1))) t := by
  obtain ⟨s₁, -, hrun⟩ := assignFromFirst_run
  exact ⟨_, hrun, failed_slice_assigned_in_turn rfl (settled_int none 0) settled_none hrun⟩

/-- The List is not as it was before the assignment that failed. -/
theorem assignFromFirst_leaves_part :
    ∃ t, assignFromFirst bareSetup secondLocked =
        (.error (.ofCause (.locked (Op.itemName 1))), t) ∧
      secondLocked.heap.items ⟨2⟩ = [⟨3⟩, ⟨4⟩, ⟨5⟩] ∧ t.heap.items ⟨2⟩ = [⟨7⟩, ⟨4⟩, ⟨5⟩] := by
  obtain ⟨s₁, hheap, hrun⟩ := assignFromFirst_run
  refine ⟨_, hrun, rfl, ?_⟩
  have hin : (⟨2⟩ : Ref).index < s₁.heap.size := by
    rw [hheap]
    decide
  exact Heap.items_of_list (Heap.value_setValue s₁.heap _ hin)

end Vimscript
