import Vimscript.Proofs.Library.Policy
import Vimscript.Proofs.Library.Sorting
import Vimscript.Proofs.Library.Turn
import Vimscript.Proofs.Run.Policy

/-!
# All of a List or nothing

What is called for the items of a List, by `map()`, `filter()` or `sort()`,
can fail at any item, and it can do anything else. The List is written once,
after the last call. So if the calls themselves leave the List alone
(`Spares`), then it is left as it was wherever one of them stops, and it
holds what became of all items in the end (`AllOrNothing`).
-/

namespace Vimscript.Library

open Run

/-! ## What is done for an item -/

/-- Calls a function for an item with its position. -/
def callFor (M : Machine) (f : Funcref) (c : Context) (item : Ref × Nat) : Run Ref := do
  callFuncref M f [← Op.number item.2, item.1] none c

/-- Whether the result for an item is true. -/
def holdsFor (M : Machine) (f : Funcref) (c : Context) (item : Ref × Nat) : Run Bool := do
  Op.toBool (← callFor M f c item)

/-- The items that have been chosen, in order. -/
def chosen (items : List Ref) (choices : List Bool) : List Ref :=
  ((items.zip choices).filter (·.2)).map (·.1)

section

variable (M : Machine) (f : Funcref) (c : Context)

theorem mapItems_funcref (i : Nat) (items : List Ref) :
    mapItems ((Callback.funcref f).act M c) i items = (items.zipIdx i).mapM (callFor M f c) := by
  induction items generalizing i with
  | nil => rfl
  | cons item rest ih =>
    rw [mapItems, ih, List.zipIdx_cons, List.mapM_cons, callFor, bind_assoc]
    rfl

theorem filterItems_funcref (i : Nat) (items : List Ref) :
    filterItems ((Callback.funcref f).act M c) i items =
      (items.zipIdx i).mapM (holdsFor M f c) >>= fun choices => pure (chosen items choices) := by
  induction items generalizing i with
  | nil => rfl
  | cons item rest ih =>
    rw [filterItems, ih, List.zipIdx_cons, List.mapM_cons, holdsFor, callFor]
    simp only [bind_assoc, pure_bind]
    refine bind_congr fun _ => bind_congr fun _ => bind_congr fun choice => bind_congr fun _ => ?_
    cases choice <;> rfl

end

/-! ## A List that is written once -/

section

variable {α β : Type} (f : α → Run β) (setup : Setup) (xs : List α)

/-- An object is a List with these items. -/
def HasItems (r : Ref) (items : List Ref) (s : State) : Prop := s.heap.value r = .list items

/-- Wherever a step is reached, it leaves what an object holds. -/
def Spares (r : Ref) (s : State) : Prop :=
  ∀ x u, Reached f setup xs s x u → (f x setup u).2.heap.value r = u.heap.value r

/-- Either a step has stopped everything and the items of a List are those from before, or all
steps have been taken and they are what the results make them. -/
inductive AllOrNothing (r : Ref) (items : List Ref) (become : List β → List Ref) (s : State) :
    Except Stop Ref → State → Prop
  | nothing {x : α} {u t : State} {stop : Stop} : Reached f setup xs s x u →
      f x setup u = (.error stop, t) → HasItems r items t →
      AllOrNothing r items become s (.error stop) t
  | all {bs : List β} {u : State} : Passed f setup xs s bs u →
      HasItems r (become bs) (rewritten r (become bs) u) →
      AllOrNothing r items become s (.ok r) (rewritten r (become bs) u)

variable {f setup xs} {r : Ref} {items : List Ref} {s t u : State}

theorem Spares.step (hspares : Spares f setup xs r s) {v : Value} :
    ∀ x u, Reached f setup xs s x u → u.heap.value r = v →
      ∀ b t, f x setup u = (.ok b, t) → t.heap.value r = v := by
  intro x u hreached hu b t hstep
  have hsame := hspares x u hreached
  rw [hstep] at hsame
  exact hsame.trans hu

/-- A step that stops leaves the List as it was before all steps. -/
theorem Spares.stopped (hspares : Spares f setup xs r s) (hitems : HasItems r items s)
    {x : α} {stop : Stop} (hreached : Reached f setup xs s x u)
    (hstop : f x setup u = (.error stop, t)) : HasItems r items t := by
  have hsame := hspares x u hreached
  rw [hstop] at hsame
  exact hsame.trans
    (hreached.keep (P := HasItems r items) hspares.step hitems)

/-- A loop that writes the List when it is done. -/
theorem allOrNothing_of_spares {become : List β → List Ref} {result : Except Stop Ref}
    (hspares : Spares f setup xs r s) (hitems : HasItems r items s)
    (h : (xs.mapM f >>= fun bs =>
      liftM (Op.setValue r (.list (become bs))) >>= fun _ => pure r : Run Ref) setup s =
        (result, t)) :
    AllOrNothing f setup xs r items become s result t := by
  obtain ⟨bs, u, hpassed, rfl, rfl⟩ | ⟨x, u, stop, hreached, hstop, rfl⟩ :=
    (mapM_bind_eq_iff (w := fun bs u => rewritten r (become bs) u) fun _ _ => rfl).mp h
  · have hu : HasItems r items u :=
      hpassed.keep (P := HasItems r items) hspares.step hitems
    exact .all hpassed (Heap.value_setValue _ _ (Heap.index_lt_of_list hu))
  · exact .nothing hreached hstop (hspares.stopped hitems hreached hstop)

/-- What the results of all steps are decides what the List holds. -/
theorem AllOrNothing.of_passed {become : List β → List Ref} {result : Except Stop Ref}
    {bs : List β} (h : AllOrNothing f setup xs r items become s result t)
    (hpassed : Passed f setup xs s bs u) : result = .ok r ∧ HasItems r (become bs) t := by
  have hends := mapM_eq_ok_iff.mpr hpassed
  cases h with
  | nothing hreached hstop _ =>
    cases hends.symm.trans (mapM_eq_error_iff.mpr ⟨_, _, hreached, hstop⟩)
  | all hpassed' hitems =>
    cases hends.symm.trans (mapM_eq_ok_iff.mpr hpassed')
    exact ⟨rfl, hitems⟩

end

/-! ## Sorting -/

section

variable {M : Machine} {c : Context} {setup : Setup} {s t : State} {r how : Ref}
  {self : Option Ref} {items : List Ref} {stop : Stop}

theorem reads_hasItems {α : Type} {op : Op α} (hop : op.Reads) :
    Safe setup (HasItems r items) (fun _ => True) (liftM op : Run α) := by
  intro s hs
  have hsame := hop s.heap
  rcases hrun : op s.heap with ⟨stop | a, h⟩
  all_goals
    rw [hrun] at hsame
    subst hsame
  · exact ⟨by rwa [op_of_error hrun], fun _ _ => trivial⟩
  · exact ⟨by rwa [op_of_ok hrun], fun _ _ => trivial⟩

theorem list_hasItems (more : List Ref) :
    Safe setup (HasItems r items) (fun _ => True) (liftM (Op.list more) : Run Ref) := by
  intro s hs
  refine ⟨?_, fun _ _ => trivial⟩
  exact ((Heap.kept_extending.alloc s.heap (.list more)).value (Heap.index_lt_of_list hs)).trans hs

/-- Making a Funcref makes at most the List of its arguments. -/
theorem makeFuncref_hasItems (kind : FuncrefKind) (name : Ref) (arguments self : Option Ref) :
    Safe setup (HasItems r items) (fun _ => True) (makeFuncref kind name arguments self c) := by
  refine .bind (reads_hasItems (funcrefOptions_reads arguments self)) ?_
  rintro ⟨arguments, self⟩ -
  refine .bind (reads_hasItems (listArgument_reads arguments)) fun given _ =>
    .bind (reads_hasItems (dictArgument_reads self)) fun _ _ =>
      .bind (reads_hasItems (Op.value_reads name)) fun v _ => ?_
  have hpure {α : Type} (a : α) : Safe setup (HasItems r items) (fun _ => True) (pure a : Run α) :=
    .pure trivial
  -- whether a Dictionary is given only decides what the Funcref looks like in the end
  cases self with
  | none | some d =>
    cases v with
    | funcref f =>
      cases given with
      | none => exact .bind (hpure _) fun _ _ => hpure _
      | some given =>
        refine .get fun s hs => ?_
        exact Safe.bind (list_hasItems _)
          (fun _ _ => .bind (hpure _) fun _ _ => hpure _) s hs
    | _ =>
      refine .bind (.result _) fun text _ => ?_
      obtain ⟨scope, bare⟩ := splitScope text
      refine .get fun s hs => ?_
      cases s.registry.lookup? scope (.text bare) c.script with
      | none => exact Safe.failBind _ _ s hs
      | some callee =>
        exact Safe.bind (list_hasItems _)
          (fun _ _ => .bind (hpure _) fun _ _ => hpure _) s hs

/-- Neither does finding the function to compare by change the List. -/
theorem comparator_hasItems (how : Ref) (self : Option Ref) :
    Safe setup (HasItems r items) (fun _ => True) (comparator how self c) := by
  have hfinish (f : Funcref) : Safe setup (HasItems r items) (fun _ => True) (do
      dictArgument self
      return { f with self := self <|> f.self } : Run Funcref) :=
    .bind (reads_hasItems (dictArgument_reads self)) fun _ _ => .pure trivial
  refine .bind (reads_hasItems (Op.value_reads how)) fun v _ => ?_
  split
  · exact .bind (U := fun _ => True) (.pure trivial) fun f _ => hfinish f
  · exact .bind (makeFuncref_hasItems _ how none none) fun f _ => hfinish f

/-- A `sort()` that fails leaves the List alone, if comparing does. -/
theorem sort_error_hasItems (hitems : HasItems r items s) (hfree : s.heap.isLocked r = false)
    (hmode : ModeOf s.heap (some how) .comparator)
    (hspares : ∀ f u pairs, comparator how self c setup s = (.ok f, u) →
      (∀ p ∈ pairs, [p.1, p.2].Sublist items) → Spares (asked (compareBy M f c)) setup pairs r u)
    (hsort : sort M r (some how) self c setup s = (.error stop, t)) : HasItems r items t := by
  have hfound : HasItems r items (comparator how self c setup s).2 :=
    (comparator_hasItems how self s hitems).1
  rcases hf : comparator how self c setup s with ⟨stop' | f, u⟩ <;> rw [hf] at hfound
  · rw [sort_by_comparator hitems hfree hmode, bind_of_error hf] at hsort
    cases hsort
    exact hfound
  · obtain ⟨_, _, _, _, -, -, -, hdone⟩ |
      ⟨pairs, answers, v, p, _, _, hpassed, hmay, hstop, hends⟩ :=
        sort_follows M hitems hfree hmode hf
    · cases hdone.symm.trans hsort
    · cases hends.symm.trans hsort
      exact (hspares f u (pairs ++ [p]) hf hmay).stopped hfound ⟨pairs, [], answers, rfl, hpassed⟩
        hstop

end

/-- `map()`, `filter()` and `sort()` never leave a List half-processed by a function that does not
change it: if one of them fails, at whichever item or comparison, the List has the items it had;
if not, the function has been called once for each item, in order and with its position, and
the List has the results, or the items whose results are true. -/
theorem lists_written_once (M : Machine) (c : Context) (setup : Setup) {s : State} {r : Ref}
    {items : List Ref} (hitems : HasItems r items s) (hfree : s.heap.isLocked r = false) :
    (∀ function f, s.heap.value function = .funcref f →
      (Spares (callFor M f c) setup items.zipIdx r s →
        ∀ result t, map M r function c setup s = (result, t) →
          AllOrNothing (callFor M f c) setup items.zipIdx r items (fun results => results) s
            result t) ∧
      (Spares (holdsFor M f c) setup items.zipIdx r s →
        ∀ result t, filter M r function c setup s = (result, t) →
          AllOrNothing (holdsFor M f c) setup items.zipIdx r items (chosen items) s result t)) ∧
    ∀ how self, ModeOf s.heap (some how) .comparator →
      (∀ f u pairs, comparator how self c setup s = (.ok f, u) →
        (∀ p ∈ pairs, [p.1, p.2].Sublist items) →
        Spares (asked (compareBy M f c)) setup pairs r u) →
      ∀ stop t, sort M r (some how) self c setup s = (.error stop, t) → HasItems r items t := by
  constructor
  · intro function f hfunction
    have hB : IsCallback setup s.heap function (.funcref f) := .funcref hfunction
    constructor
    · intro hspares result t hmap
      rw [map, overContainer_list hB hfree hitems, mapItems_funcref] at hmap
      exact allOrNothing_of_spares hspares hitems hmap
    · intro hspares result t hfilter
      rw [filter, overContainer_list hB hfree hitems, filterItems_funcref, bind_assoc] at hfilter
      exact allOrNothing_of_spares hspares hitems hfilter
  · intro how self hmode hspares stop t hsort
    exact sort_error_hasItems hitems hfree hmode hspares hsort

/-- A state with the Lists `[0, 7]` and `[[7, 0], 0]`, and `get()` as a function that looks for a
number in `[7, 0]`. -/
def lookup (more : List Cell) : State where
  heap := { cells := ⟨[{ value := .dict {} }, { value := .list [⟨4⟩, ⟨5⟩] },
    { value := .funcref { callee := .builtin .get, arguments := ⟨3⟩ } }, { value := .list [⟨6⟩] },
    { value := .number 0 }, { value := .number 7 }, { value := .list [⟨5⟩, ⟨4⟩] },
    { value := .list [⟨6⟩, ⟨4⟩] }] ++ more⟩ }

theorem spares_two {α β : Type} {f : α → Run β} {setup : Setup} {a b : α} {r : Ref} {s t : State}
    {x : β} (hfirst : f a setup s = (.ok x, t)) (ha : t.heap.value r = s.heap.value r)
    (hb : (f b setup t).2.heap.value r = t.heap.value r) : Spares f setup [a, b] r s := by
  intro y u hreached
  obtain ⟨rfl, rfl⟩ | ⟨x', t', hx, hreached⟩ := reached_cons_iff.mp hreached
  · rw [hfirst]
    exact ha
  · cases hfirst.symm.trans hx
    obtain ⟨rfl, rfl⟩ | ⟨_, _, -, hreached⟩ := reached_cons_iff.mp hreached
    · exact hb
    · exact absurd hreached not_reached_nil

/-- The function that `lookup` has. -/
def getNumber : Funcref := { callee := .builtin .get, arguments := ⟨3⟩ }

/-- The first item of `[0, 7]` is replaced by 7, which is true, and the second by 0. A List is no
index, so that sorting `[[7, 0], 0]` by the function fails. -/
theorem lookup_written_once :
    (∃ t, map (Machine.ofFuel 1) ⟨1⟩ ⟨2⟩ { script := default } plainSetup (lookup []) =
      (.ok ⟨1⟩, t) ∧ HasItems ⟨1⟩ [⟨5⟩, ⟨4⟩] t) ∧
    (∃ t, filter (Machine.ofFuel 1) ⟨1⟩ ⟨2⟩ { script := default } plainSetup (lookup []) =
      (.ok ⟨1⟩, t) ∧ HasItems ⟨1⟩ [⟨4⟩] t) ∧
    ∃ stop t, sort (Machine.ofFuel 1) ⟨7⟩ (some ⟨2⟩) none { script := default } plainSetup
      (lookup []) = (.error stop, t) ∧ HasItems ⟨7⟩ [⟨6⟩, ⟨4⟩] t := by
  obtain ⟨hmaps, hfilters⟩ := (lists_written_once (Machine.ofFuel 1) { script := default }
    plainSetup (rfl : HasItems ⟨1⟩ [⟨4⟩, ⟨5⟩] (lookup [])) rfl).1 ⟨2⟩ getNumber rfl
  have hfirst : callFor (Machine.ofFuel 1) getNumber { script := default } (⟨4⟩, 0) plainSetup
      (lookup []) = (.ok ⟨5⟩, lookup [{ value := .number 0 }]) := rfl
  have hsecond : callFor (Machine.ofFuel 1) getNumber { script := default } (⟨5⟩, 1) plainSetup
      (lookup [{ value := .number 0 }]) =
        (.ok ⟨4⟩, lookup [{ value := .number 0 }, { value := .number 1 }]) := rfl
  have htrue : holdsFor (Machine.ofFuel 1) getNumber { script := default } (⟨4⟩, 0) plainSetup
      (lookup []) = (.ok true, lookup [{ value := .number 0 }]) := rfl
  have hfalse : holdsFor (Machine.ofFuel 1) getNumber { script := default } (⟨5⟩, 1) plainSetup
      (lookup [{ value := .number 0 }]) =
        (.ok false, lookup [{ value := .number 0 }, { value := .number 1 }]) := rfl
  have hcalls : Spares (callFor (Machine.ofFuel 1) getNumber { script := default }) plainSetup
      [(⟨4⟩, 0), (⟨5⟩, 1)] ⟨1⟩ (lookup []) :=
    spares_two hfirst rfl (by rw [hsecond]; rfl)
  have hchoices : Spares (holdsFor (Machine.ofFuel 1) getNumber { script := default }) plainSetup
      [(⟨4⟩, 0), (⟨5⟩, 1)] ⟨1⟩ (lookup []) :=
    spares_two htrue rfl (by rw [hfalse]; rfl)
  refine ⟨?_, ?_, ?_⟩
  · rcases hmap : map (Machine.ofFuel 1) ⟨1⟩ ⟨2⟩ { script := default } plainSetup (lookup []) with
      ⟨result, t⟩
    obtain ⟨rfl, hitems⟩ := (hmaps hcalls result t hmap).of_passed
      (.cons hfirst (.cons hsecond .nil))
    exact ⟨t, rfl, hitems⟩
  · rcases hfilter : filter (Machine.ofFuel 1) ⟨1⟩ ⟨2⟩ { script := default } plainSetup
      (lookup []) with ⟨result, t⟩
    obtain ⟨rfl, hitems⟩ := (hfilters hchoices result t hfilter).of_passed
      (.cons htrue (.cons hfalse .nil))
    exact ⟨t, rfl, hitems⟩
  · obtain ⟨stop, hask⟩ : ∃ stop, asked (compareBy (Machine.ofFuel 1) getNumber
        { script := default }) (⟨6⟩, ⟨4⟩) plainSetup (lookup []) = (.error stop, lookup []) :=
      ⟨_, rfl⟩
    have hfound : comparator ⟨2⟩ none { script := default } plainSetup (lookup []) =
        (.ok getNumber, lookup []) := rfl
    have hsort : sort (Machine.ofFuel 1) ⟨7⟩ (some ⟨2⟩) none { script := default } plainSetup
        (lookup []) = (.error stop, lookup []) := by
      rw [sort_by_comparator rfl rfl (.function rfl), bind_of_ok hfound, mergeSortM_pair]
      exact bind_of_error (bind_of_error hask)
    refine ⟨stop, _, hsort, (lists_written_once (Machine.ofFuel 1) { script := default } plainSetup
      (rfl : HasItems ⟨7⟩ [⟨6⟩, ⟨4⟩] (lookup [])) rfl).2 ⟨2⟩ none (.function rfl) ?_ stop _ hsort⟩
    -- only the first question is ever reached
    rintro f u pairs hf hmay ⟨a, b⟩ v hreached
    cases hfound.symm.trans hf
    cases (hmay _ hreached.mem).eq_of_length rfl
    have hv : v = lookup [] := hreached.keep (P := (· = lookup [])) (by
      rintro ⟨a, b⟩ w hquestion rfl answer x hx
      cases (hmay _ hquestion.mem).eq_of_length rfl
      cases hask.symm.trans hx) rfl
    rw [hv, hask]

end Vimscript.Library
