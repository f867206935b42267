import Vimscript.Proofs.Heap.Copy
import Vimscript.Proofs.Library.Turn
import Vimscript.Proofs.Variables.Lockvar

/-!
# Callbacks of `map()` and `filter()`

Whatever the code of a callback does, `map()` and `filter()` end in one of
three ways (`Ending`): with their argument, as the code of a turn ended that
gave no result, or with a fault where a turn has lost what it wants to
remove. The last is no error of a script, and it is easily come by: a text
that calls `map()` with a text itself has no `v:key` any more when that
call is over (`nested_map_loses_key`).

The variables `v:key` and `v:val` are removed after each turn of a text, and
not set back, so that they are gone afterwards even if they were there
before. What else becomes of the variables of the editor is up to the code
of the callbacks. `apply_endings` says both.
-/

namespace Vimscript

open Run

namespace Library

/-! ## How `map()` and `filter()` end -/

/-- A turn is about to be taken for an item, after those for the items before it. -/
def Reaches (M : Machine) (setup : Setup) (c : Context) (B : Callback) (purpose : Purpose) (r : Ref)
    (s : State) (item : Item) (u : State) : Prop :=
  Reached (purpose.turn (B.act M c) r) setup (Item.ofValue (s.heap.value r)) s item u

/-- The ways in which `map()` and `filter()` can end. -/
inductive Ending (M : Machine) (setup : Setup) (c : Context) (B : Callback) (purpose : Purpose)
    (r : Ref) (s : State) : Except Stop Ref → State → Prop
  /-- Every turn has given a result, and the argument is the result. -/
  | done {results : List (List Ref)} {u : State} :
      Passed (purpose.turn (B.act M c) r) setup (Item.ofValue (s.heap.value r)) s results u →
      Ending M setup c B purpose r s (.ok r) (stored r results u (s.heap.value r))
  /-- The code of a turn has stopped, or its result was no condition. -/
  | raised {item : Item} {u t : State} {stop : Stop} : Reaches M setup c B purpose r s item u →
      Raises M setup c B purpose item u stop t → Ending M setup c B purpose r s (.error stop) t
  /-- Something was gone at the end of a turn. This fault is not one of the code. -/
  | lost {item : Item} {u t : State} {name : String} : Reaches M setup c B purpose r s item u →
      Loses M setup c B purpose r item u name t →
      Ending M setup c B purpose r s (.error (.fault (.lostEntry name))) t

variable {M : Machine} {setup : Setup} {c : Context} {B : Callback} {purpose : Purpose}
  {r function : Ref} {s t : State}

theorem apply_eq_iff_ending {result : Except Stop Ref}
    (hB : IsCallback setup s.heap function B) (hr : (s.heap.value r).isContainer = true)
    (hfree : s.heap.isLocked r = false) :
    purpose.apply M r function c setup s = (result, t) ↔
      Ending M setup c B purpose r s result t := by
  rw [apply_eq_iff hB hfree hr]
  constructor
  · rintro (⟨results, u, hpassed, rfl, rfl⟩ | ⟨item, u, stop, hreached, hturn, rfl⟩)
    · exact .done hpassed
    · rcases turn_eq_error_iff.mp hturn with hraises | ⟨name, hloses, rfl⟩
      · exact .raised hreached hraises
      · exact .lost hreached hloses
  · rintro (⟨hpassed⟩ | ⟨hreached, hraises⟩ | ⟨hreached, hloses⟩)
    · exact .inl ⟨_, _, hpassed, rfl, rfl⟩
    · exact .inr ⟨_, _, _, hreached, turn_eq_error_iff.mpr (.inl hraises), rfl⟩
    · exact .inr ⟨_, _, _, hreached, turn_eq_error_iff.mpr (.inr ⟨_, hloses, rfl⟩), rfl⟩

/-! ## What becomes of the variables of the editor -/

/-- The variables in which the code of a callback finds the place and the item. -/
def Callback.names : Callback → List String
  | funcref _ => []
  | text _ => ["key", "val"]

section

variable {name : String} {item : Item}

theorem vimBinding_leave (hname : name ∉ B.names) :
    vimBinding setup name (B.leave setup t).2 = vimBinding setup name t := by
  cases B with
  | funcref f => rfl
  | text e =>
    simp only [Callback.names, List.mem_cons, List.not_mem_nil, or_false, not_or] at hname
    have hkey := vimBinding_withoutVim_of_ne setup t (Ne.symm hname.1)
    have hval (s : State) := vimBinding_withoutVim_of_ne setup s (Ne.symm hname.2)
    cases hk : vimBinding setup "key" t with
    | none => simp only [Callback.leave, hk]
    | some k =>
      cases hv : vimBinding setup "val" t with
      | none => simpa only [Callback.leave, hk, hv] using hkey
      | some v => simpa only [Callback.leave, hk, hv] using (hval _).trans hkey

/-- The variables are gone afterwards, but for `v:val` where `v:key` was missing. -/
theorem vimBinding_leave_of_mem (hname : name ∈ B.names) :
    vimBinding setup name (B.leave setup t).2 = none ∨
      name ≠ "key" ∧ (B.leave setup t).1 = some "key" := by
  cases B with
  | funcref f => cases hname
  | text e =>
    cases hk : vimBinding setup "key" t with
    | none =>
      simp only [Callback.leave, hk]
      rcases List.mem_pair.mp hname with rfl | rfl
      · exact .inl hk
      · exact .inr ⟨by decide, trivial⟩
    | some k =>
      have hkey : vimBinding setup "key" (withoutVim setup "key" t) = none :=
        vimBinding_withoutVim_self setup t
      refine .inl ?_
      cases hv : vimBinding setup "val" t with
      | none =>
        have hval := vimBinding_withoutVim_of_ne setup t (show "key" ≠ "val" by decide)
        simp only [Callback.leave, hk, hv]
        rcases List.mem_pair.mp hname with rfl | rfl
        · exact hkey
        · exact hval.trans hv
      | some v =>
        simp only [Callback.leave, hk, hv]
        rcases List.mem_pair.mp hname with rfl | rfl
        · exact (vimBinding_withoutVim_of_ne setup _ (by decide)).trans hkey
        · exact vimBinding_withoutVim_self setup _

/-- A change to one entry of a Dictionary, which is replaced or removed. -/
inductive EntryChange (r : Ref) (k : String) (s : State) : State → Prop
  | replaced (x : Ref) :
      EntryChange r k s { s with heap := s.heap.modifyTable r (·.insert k x) }
  | removed : EntryChange r k s { s with heap := s.heap.modifyTable r (·.erase k) }

theorem EntryChange.vimBinding {k : String} (hchange : EntryChange r k s t)
    (hk : r = setup.spaces.vim → k ≠ name) :
    vimBinding setup name t = vimBinding setup name s := by
  by_cases hr : r = setup.spaces.vim
  · cases hchange with
    | replaced x =>
      rw [hr]
      exact vimBinding_withVim_of_ne setup s (hk hr) x
    | removed =>
      rw [hr]
      exact vimBinding_withoutVim_of_ne setup s (hk hr)
  · have htable (f : Table → Table) :
        (s.heap.modifyTable r f).table setup.spaces.vim = s.heap.table setup.spaces.vim := by
      rw [Heap.table_modifyTable, if_neg fun h => hr h.1.symm]
    cases hchange <;> rw [Vimscript.vimBinding, htable, Vimscript.vimBinding]

theorem keepIf_state {keep : Bool} {result : Except Stop (List Ref)}
    (hkeep : Purpose.keepIf r item keep setup s = (result, t)) :
    t = s ∨ ∃ k, item.place = .key k ∧ EntryChange r k s t := by
  cases keep with
  | true =>
    rw [keepIf_true] at hkeep
    cases hkeep
    exact .inl rfl
  | false =>
    cases hplace : item.place with
    | index i =>
      rw [keepIf_false_index hplace] at hkeep
      cases hkeep
      exact .inl rfl
    | key k =>
      rw [keepIf_false_key hplace] at hkeep
      split at hkeep
      · cases hkeep
        exact .inr ⟨k, rfl, .removed⟩
      · cases hkeep
        exact .inl rfl

/-- Settling a result changes nothing but the entry it is for. -/
theorem settle_state {x : Ref} {result : Except Stop (List Ref)}
    (hsettle : purpose.settle r item x setup s = (result, t)) :
    t = s ∨ ∃ k, item.place = .key k ∧ EntryChange r k s t := by
  cases purpose with
  | mapping =>
    rw [Purpose.settle, Purpose.replace] at hsettle
    cases hplace : item.place with
    | index i =>
      rw [hplace] at hsettle
      cases hsettle
      exact .inl rfl
    | key k =>
      rw [hplace] at hsettle
      cases hsettle
      exact .inr ⟨k, rfl, .replaced x⟩
  | filtering =>
    cases hx : (s.heap.value x).toBool with
    | error stop =>
      rw [settle_of_stop hx] at hsettle
      cases hsettle
      exact .inl rfl
    | ok keep => exact keepIf_state ((settle_of_keep hx).symm.trans hsettle)

/-- The items and a variable of the editor have nothing to do with each other: the container is not
the namespace `v:`, or it is and does not bind the variable. -/
def Apart (setup : Setup) (r : Ref) (name : String) (s : State) : Prop :=
  r = setup.spaces.vim → ∃ table, s.heap.value r = .dict table ∧ name ∉ table.keys

theorem Apart.place_ne (hapart : Apart setup r name s)
    (hitem : item ∈ Item.ofValue (s.heap.value r)) (hr : r = setup.spaces.vim) :
    item.place ≠ .key name := by
  obtain ⟨table, htable, hname⟩ := hapart hr
  rw [htable] at hitem
  obtain ⟨e, he, rfl⟩ := List.mem_map.mp hitem
  rintro ⟨⟩
  exact hname (List.mem_map_of_mem he)

theorem Apart.vimBinding_stored (hapart : Apart setup r name s) (results : List (List Ref))
    (u : State) :
    vimBinding setup name (stored r results u (s.heap.value r)) = vimBinding setup name u := by
  cases hv : s.heap.value r with
  | list items =>
    have hr : r ≠ setup.spaces.vim := by
      intro hr
      obtain ⟨table, htable, -⟩ := hapart hr
      cases hv.symm.trans htable
    have hcell := Heap.cell_setValue_of_ne u.heap (.list results.flatten) (Ne.symm hr)
    rw [vimBinding, stored, Heap.table, Heap.value, hcell]
    rfl
  | _ => rfl

/-- A variable is after a turn what it was when the code had been run and its variables removed. -/
theorem vimBinding_of_turn {result : Except Stop (List Ref)}
    (hplace : r = setup.spaces.vim → item.place ≠ .key name)
    (hturn : purpose.turn (B.act M c) r item setup s = (result, t)) :
    ∃ ended v, B.outcome M setup c item s = (ended, v) ∧
      vimBinding setup name t = vimBinding setup name (B.leave setup v).2 ∧
      ∀ lost, (B.leave setup v).1 = some lost → result = .error (.fault (.lostEntry lost)) := by
  obtain ⟨ended, v, hends⟩ : ∃ ended v, B.outcome M setup c item s = (ended, v) := ⟨_, _, rfl⟩
  refine ⟨ended, v, hends, ?_⟩
  rcases hleave : B.leave setup v with ⟨_ | lost, w⟩
  · refine ⟨?_, nofun⟩
    cases ended with
    | error stop =>
      cases (turn_of_stop hends hleave).symm.trans hturn
      rfl
    | ok x =>
      rcases settle_state ((turn_of_ok hends hleave).symm.trans hturn) with rfl | ⟨k, hk, hchange⟩
      · rfl
      · refine hchange.vimBinding fun hr => ?_
        rintro rfl
        exact hplace hr hk
  · cases (turn_of_lost hends hleave).symm.trans hturn
    refine ⟨rfl, ?_⟩
    rintro lost ⟨⟩
    rfl

theorem unbound_of_turn {result : Except Stop (List Ref)}
    (hplace : r = setup.spaces.vim → item.place ≠ .key name) (hname : name ∈ B.names)
    (hturn : purpose.turn (B.act M c) r item setup s = (result, t)) :
    vimBinding setup name t = none ∨
      name ≠ "key" ∧ result = .error (.fault (.lostEntry "key")) := by
  obtain ⟨ended, v, -, hbinding, hlost⟩ := vimBinding_of_turn hplace hturn
  rw [hbinding]
  exact (vimBinding_leave_of_mem hname).imp_right fun h => ⟨h.1, hlost "key" h.2⟩

end

section

variable {result : Except Stop Ref} {name : String} (hB : IsCallback setup s.heap function B)
  (hr : (s.heap.value r).isContainer = true) (hfree : s.heap.isLocked r = false)
  (hapart : Apart setup r name s) (hrun : purpose.apply M r function c setup s = (result, t))
include hB hr hfree hapart hrun

/-- The last turn of a text has removed the variables. -/
theorem unbound_of_apply (hname : name ∈ B.names) (hitems : Item.ofValue (s.heap.value r) ≠ []) :
    vimBinding setup name t = none ∨
      name ≠ "key" ∧ result = .error (.fault (.lostEntry "key")) := by
  have hturn (item : Item) (u : State) (hitem : item ∈ Item.ofValue (s.heap.value r))
      (results : List Ref) (v : State)
      (h : purpose.turn (B.act M c) r item setup u = (.ok results, v)) :
      vimBinding setup name v = none :=
    (unbound_of_turn (hapart.place_ne hitem) hname h).resolve_right (by rintro ⟨-, ⟨⟩⟩)
  rcases (apply_eq_iff hB hfree hr purpose result).mp hrun with
    ⟨results, u, hpassed, rfl, rfl⟩ | ⟨item, u, stop, hreached, hstop, rfl⟩
  · refine .inl ((hapart.vimBinding_stored results u).trans ?_)
    generalize Item.ofValue (s.heap.value r) = items at hpassed hitems hturn
    cases hpassed with
    | nil => exact absurd rfl hitems
    | @cons first rest _ _ _ _ _ hfirst hrest =>
      exact hrest.keep (P := fun u => vimBinding setup name u = none)
        (fun item u hreached _ results v =>
          hturn item u (List.mem_cons_of_mem first hreached.mem) results v)
        (hturn _ _ List.mem_cons_self _ _ hfirst)
  · refine (unbound_of_turn (hapart.place_ne hreached.mem) hname hstop).imp_right ?_
    rintro ⟨hkey, ⟨⟩⟩
    exact ⟨hkey, rfl⟩

/-- A variable that no code changes is as before, unless turns remove it. -/
theorem vimBinding_of_apply (hname : name ∈ B.names → Item.ofValue (s.heap.value r) = [])
    (hcode : ∀ item u, Reaches M setup c B purpose r s item u → ∀ ended v,
      B.outcome M setup c item u = (ended, v) →
        vimBinding setup name v = vimBinding setup name u) :
    vimBinding setup name t = vimBinding setup name s := by
  have hturn (item : Item) (u : State) (hreached : Reaches M setup c B purpose r s item u)
      (hu : vimBinding setup name u = vimBinding setup name s) (results : Except Stop (List Ref))
      (v : State) (h : purpose.turn (B.act M c) r item setup u = (results, v)) :
      vimBinding setup name v = vimBinding setup name s := by
    have hnot : name ∉ B.names := fun hmem => List.ne_nil_of_mem hreached.mem (hname hmem)
    obtain ⟨ended, w, hends, hbinding, -⟩ := vimBinding_of_turn (hapart.place_ne hreached.mem) h
    rw [hbinding, vimBinding_leave hnot, hcode item u hreached ended w hends, hu]
  rcases (apply_eq_iff hB hfree hr purpose result).mp hrun with
    ⟨results, u, hpassed, rfl, rfl⟩ | ⟨item, u, stop, hreached, hstop, rfl⟩
  · refine (hapart.vimBinding_stored results u).trans ?_
    exact hpassed.keep (P := fun u => vimBinding setup name u = vimBinding setup name s)
      (fun item u hreached hu results v => hturn item u hreached hu (.ok results) v) rfl
  · have hu := hreached.keep (P := fun u => vimBinding setup name u = vimBinding setup name s)
      (fun item u hreached hu results v => hturn item u hreached hu (.ok results) v) rfl
    exact hturn item u hreached hu _ _ hstop

end

/-! ## The main statement -/

/-- `map()` and `filter()` end in the ways of `Ending` and in no other, whatever the code of the
callback does. Afterwards the variables are gone that a text reads its item from, whether or not
they were bound before; only if `v:key` was found missing may `v:val` be left. A variable that the
code leaves alone is otherwise as before. This may fail only for the namespace `v:` itself, if the
variable is one of the items. -/
theorem apply_endings (hB : IsCallback setup s.heap function B)
    (hr : (s.heap.value r).isContainer = true) (hfree : s.heap.isLocked r = false)
    (result : Except Stop Ref) (t : State) :
    (purpose.apply M r function c setup s = (result, t) ↔
      Ending M setup c B purpose r s result t) ∧
    (purpose.apply M r function c setup s = (result, t) → ∀ name, Apart setup r name s →
      (name ∈ B.names → Item.ofValue (s.heap.value r) ≠ [] →
        vimBinding setup name t = none ∨
          name ≠ "key" ∧ result = .error (.fault (.lostEntry "key"))) ∧
      ((name ∈ B.names → Item.ofValue (s.heap.value r) = []) →
        (∀ item u, Reaches M setup c B purpose r s item u → ∀ ended v,
          B.outcome M setup c item u = (ended, v) →
            vimBinding setup name v = vimBinding setup name u) →
        vimBinding setup name t = vimBinding setup name s)) :=
  ⟨apply_eq_iff_ending hB hr hfree, fun hrun _ hapart =>
    ⟨unbound_of_apply hB hr hfree hapart hrun, vimBinding_of_apply hB hr hfree hapart hrun⟩⟩

/-- A tree with a tag and further fields. -/
def tagged (tag : String) (fields : List (String × Data)) : Data :=
  .map ((.text "tag", .text tag) :: fields.map fun f => (.text f.1, f.2))

/-- A parser that knows two texts: `item` is `v:val`, and `items` is `map([2], 'item')`. -/
def itemParser : Parser where
  statements text := .error (.unparsable text)
  expression
    | "item" => .ok (tagged "variable" [("name", .text "val"), ("scope", .text "v")])
    | "items" => .ok (tagged "call" [("name", .text "map"), ("args", .list [
        tagged "list" [("items", .list [tagged "int" [("value", .int 2)]])],
        tagged "string" [("value", .text "item")]])])
    | text => .error (.unparsable text)

/-- A setup with this parser. -/
def itemSetup : Setup :=
  { apartSetup with parser := some itemParser }

/-- The text `item` as a callback. -/
def itemCallback : Callback := .text (.var none (some .vim) [.plain "val"])

/-- The text `items` as a callback. -/
def itemsCallback : Callback :=
  .text (.call none none (.text "map") [.list none [.int none 2], .text none "item"])

/-- Some variables of the editor, the List `[1]`, and the two texts. -/
def itemState (vim : Entries Ref) : State where
  heap :=
    { cells := #[
        { value := .dict {} }, { value := .dict { entries := vim } }, { value := .dict {} },
        { value := .dict {} }, { value := .dict {} }, { value := .dict {} },
        { value := .list [⟨7⟩] }, { value := .number 1 }, { value := .string "item" },
        { value := .string "items" }] }

/-- A text leaves no `v:val` behind, even if it was there before. Another variable is as it was. -/
theorem map_item_unbinds :
    let s := itemState [("key", ⟨7⟩), ("val", ⟨7⟩)]
    IsCallback itemSetup s.heap ⟨8⟩ itemCallback ∧ (s.heap.value ⟨6⟩).isContainer = true ∧
      s.heap.isLocked ⟨6⟩ = false ∧ (⟨6⟩ : Ref) ≠ itemSetup.spaces.vim ∧
      ∃ t, Purpose.mapping.apply (Machine.ofFuel 1) ⟨6⟩ ⟨8⟩ topContext itemSetup s = (.ok ⟨6⟩, t) ∧
        Ending (Machine.ofFuel 1) itemSetup topContext itemCallback .mapping ⟨6⟩ s (.ok ⟨6⟩) t ∧
        (vimBinding itemSetup "val" s = some ⟨7⟩ ∧ vimBinding itemSetup "val" t = none) ∧
        vimBinding itemSetup "errmsg" t = vimBinding itemSetup "errmsg" s := by
  intro s
  have hB : IsCallback itemSetup s.heap ⟨8⟩ itemCallback := .text rfl rfl rfl rfl
  have hvim : (⟨6⟩ : Ref) ≠ itemSetup.spaces.vim := by decide
  have hends : itemCallback.outcome (Machine.ofFuel 1) itemSetup topContext ⟨.index 0, ⟨7⟩⟩ s =
    (.ok ⟨7⟩, (itemCallback.outcome (Machine.ofFuel 1) itemSetup topContext ⟨.index 0, ⟨7⟩⟩ s).2) :=
    rfl
  have hleave : (itemCallback.leave itemSetup (itemCallback.outcome (Machine.ofFuel 1) itemSetup
      topContext ⟨.index 0, ⟨7⟩⟩ s).2).1 = none := by decide +kernel
  have hother : vimBinding itemSetup "errmsg" (itemCallback.outcome (Machine.ofFuel 1) itemSetup
      topContext ⟨.index 0, ⟨7⟩⟩ s).2 = vimBinding itemSetup "errmsg" s := by decide +kernel
  have hcode (item : Item) (u : State) (hreaches : Reaches (Machine.ofFuel 1) itemSetup topContext
      itemCallback .mapping ⟨6⟩ s item u) (ended : Except Stop Ref) (v : State)
      (h : itemCallback.outcome (Machine.ofFuel 1) itemSetup topContext item u = (ended, v)) :
      vimBinding itemSetup "errmsg" v = vimBinding itemSetup "errmsg" u := by
    rcases reached_cons_iff.mp hreaches with ⟨rfl, rfl⟩ | ⟨_, _, _, hnone⟩
    · rw [h] at hother
      exact hother
    · exact absurd hnone not_reached_nil
  have hending : Ending (Machine.ofFuel 1) itemSetup topContext itemCallback .mapping ⟨6⟩ s
      (.ok ⟨6⟩) _ := .done (.cons (turn_of_ok hends (Prod.ext hleave rfl)) .nil)
  have hrun := (apply_endings (r := ⟨6⟩) hB rfl rfl _ _).1.mpr hending
  have hvariables (name : String) := (apply_endings (r := ⟨6⟩) hB rfl rfl _ _).2 hrun name
    fun hr => absurd hr hvim
  have hval := ((hvariables "val").1 (by decide) (by rintro ⟨⟩)).resolve_right (by rintro ⟨-, ⟨⟩⟩)
  have herrmsg := (hvariables "errmsg").2 (fun h => absurd h (by decide)) hcode
  exact ⟨hB, rfl, rfl, hvim, _, hrun, hending, ⟨rfl, hval⟩, herrmsg⟩

/-- The code of the only turn gives a result, but `v:key` is gone then, and `map()` ends with a
fault. -/
theorem nested_map_loses_key :
    IsCallback itemSetup (itemState []).heap ⟨9⟩ itemsCallback ∧
    (itemState []).heap.value ⟨6⟩ = .list [⟨7⟩] ∧ (itemState []).heap.isLocked ⟨6⟩ = false ∧
    (itemsCallback.outcome (Machine.ofFuel 3) itemSetup topContext ⟨.index 0, ⟨7⟩⟩
      (itemState [])).1.isOk = true ∧
    ∃ t, map (Machine.ofFuel 3) ⟨6⟩ ⟨9⟩ topContext itemSetup (itemState []) =
      (.error (.fault (.lostEntry "key")), t) := by
  have hB : IsCallback itemSetup (itemState []).heap ⟨9⟩ itemsCallback := .text rfl rfl rfl rfl
  have hok : (itemsCallback.outcome (Machine.ofFuel 3) itemSetup topContext ⟨.index 0, ⟨7⟩⟩
      (itemState [])).1.isOk = true := by decide +kernel
  have hlost : (itemsCallback.leave itemSetup (itemsCallback.outcome (Machine.ofFuel 3) itemSetup
      topContext ⟨.index 0, ⟨7⟩⟩ (itemState [])).2).1 = some "key" := by decide +kernel
  refine ⟨hB, rfl, rfl, hok, ?_⟩
  rcases hends : itemsCallback.outcome (Machine.ofFuel 3) itemSetup topContext ⟨.index 0, ⟨7⟩⟩
    (itemState []) with ⟨result, t⟩
  rw [hends] at hlost
  rcases hleave : itemsCallback.leave itemSetup t with ⟨lost, u⟩
  rw [hleave] at hlost
  cases hlost
  have hending : Ending (Machine.ofFuel 3) itemSetup topContext itemsCallback .mapping ⟨6⟩
      (itemState []) (.error (.fault (.lostEntry "key"))) u :=
    .lost (reached_cons_iff.mpr (.inl ⟨rfl, rfl⟩)) (.binding hends hleave)
  have hrun := (apply_eq_iff_ending hB rfl rfl).mpr hending
  rw [Purpose.apply] at hrun
  exact ⟨u, hrun⟩

end Library

end Vimscript
