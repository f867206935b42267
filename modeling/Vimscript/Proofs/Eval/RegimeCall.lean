import Vimscript.Eval.Call
import Vimscript.Proofs.Eval.Calling
import Vimscript.Proofs.Eval.Regime
import Vimscript.Proofs.Library.Policy

/-!
# Calls under a regime

The built-in functions that call others, and the calls of declared
functions. A declared function runs in a frame of its own, whose namespaces
have just been made: no code has got hold of them, so that arguments can be
bound whatever the policy protects. By induction on the number of nested
steps, every machine is then safe (`Regime.ofFuel_drives`), and with it
every run of the interpreter.
-/

namespace Vimscript

open Run

/-! ## Sorting rearranges -/

section

variable {α : Type} {lt : α → α → Bool} {x : α}

theorem mem_of_mem_spanRun {goesOn : α → α → Bool} :
    ∀ {items : List α} {last : α},
      x ∈ (spanRun goesOn last items).1 ∨ x ∈ (spanRun goesOn last items).2 → x ∈ items
  | [], _, hx => by simp [spanRun] at hx
  | y :: rest, last, hx => by
      unfold spanRun at hx
      split at hx
      · rcases hx with hx | hx
        · rcases List.mem_cons.mp hx with rfl | hx
          · exact List.mem_cons_self
          · exact List.mem_cons_of_mem _ (mem_of_mem_spanRun (.inl hx))
        · exact List.mem_cons_of_mem _ (mem_of_mem_spanRun (.inr hx))
      · rcases hx with hx | hx
        · cases hx
        · exact hx

theorem mem_of_mem_leadingRun {items : List α}
    (hx : x ∈ (leadingRun lt items).1 ∨ x ∈ (leadingRun lt items).2) : x ∈ items := by
  unfold leadingRun at hx
  split at hx
  · rename_i a b rest
    split at hx
    · rcases hx with hx | hx
      · rcases List.mem_cons.mp (List.mem_reverse.mp hx) with rfl | hx
        · exact List.mem_cons_self
        · exact List.mem_cons_of_mem _ (mem_of_mem_spanRun (.inl hx))
      · exact List.mem_cons_of_mem _ (mem_of_mem_spanRun (.inr hx))
    · rcases hx with hx | hx
      · rcases List.mem_cons.mp hx with rfl | hx
        · exact List.mem_cons_self
        · exact List.mem_cons_of_mem _ (mem_of_mem_spanRun (.inl hx))
      · exact List.mem_cons_of_mem _ (mem_of_mem_spanRun (.inr hx))
  · rcases hx with hx | hx
    · exact hx
    · cases hx

theorem mem_of_mem_extract {items : Array α} {first last : Nat}
    (hx : x ∈ items.extract first last) : x ∈ items := by
  rw [← Array.mem_toList_iff, Array.toList_extract] at hx
  exact Array.mem_toList_iff.mp (List.mem_of_mem_drop (List.mem_of_mem_take hx))

theorem mem_of_mem_insertByHalves {items : Array α} {y : α}
    (hx : x ∈ insertByHalves lt items y) : x = y ∨ x ∈ items := by
  simp only [insertByHalves, Array.mem_append, Array.mem_singleton] at hx
  rcases hx with (hx | rfl) | hx
  · exact .inr (mem_of_mem_extract hx)
  · exact .inl rfl
  · exact .inr (mem_of_mem_extract hx)

theorem mem_of_mem_runSort {items : List α} (hx : x ∈ runSort lt items) : x ∈ items := by
  have hfold : ∀ (rest : List α) (sorted : Array α),
      x ∈ rest.foldl (insertByHalves lt) sorted → x ∈ rest ∨ x ∈ sorted := by
    intro rest
    induction rest with
    | nil => exact fun sorted hx => .inr hx
    | cons y rest ih =>
        intro sorted hx
        rcases ih _ hx with hx | hx
        · exact .inl (List.mem_cons_of_mem y hx)
        · rcases mem_of_mem_insertByHalves hx with rfl | hx
          · exact .inl List.mem_cons_self
          · exact .inr hx
  rcases hfold _ _ (Array.mem_toList_iff.mp hx) with hx | hx
  · exact mem_of_mem_leadingRun (.inr hx)
  · exact mem_of_mem_leadingRun (.inl (List.mem_toArray.mp hx))

end

namespace Library

theorem mem_of_mem_sortByKey {κ : Type} {order : κ → κ → Ordering} {items : List (κ × Ref)}
    {r : Ref}
    (hr : r ∈ sortByKey order items) : r ∈ items.map (·.2) := by
  obtain ⟨e, he, rfl⟩ := List.mem_map.mp hr
  exact List.mem_map_of_mem (List.mem_mergeSort.mp he)

theorem mem_of_mem_sortByPartialKey {κ : Type} {unordered : κ → Bool} {order : κ → κ → Ordering}
    {items : List (κ × Ref)} {r : Ref} (hr : r ∈ sortByPartialKey unordered order items) :
    r ∈ items.map (·.2) := by
  unfold sortByPartialKey at hr
  split at hr
  · obtain ⟨e, he, rfl⟩ := List.mem_map.mp hr
    exact List.mem_map_of_mem (mem_of_mem_runSort he)
  · exact mem_of_mem_sortByKey hr

theorem map_snd_of_keyed {κ : Type} {key : Ref → Result κ} :
    ∀ {items : List Ref} {pairs : List (κ × Ref)}, keyed key items = .ok pairs →
      pairs.map (·.2) = items
  | [], pairs, h => by
      cases h
      rfl
  | r :: rest, pairs, h => by
      rw [keyed, List.mapM_cons] at h
      obtain ⟨pair, hpair, h⟩ := Op.result_bind_eq_ok h
      obtain ⟨pairs', hpairs', h⟩ := Op.result_bind_eq_ok h
      obtain ⟨k, -, hk⟩ := Op.result_bind_eq_ok hpair
      cases h
      cases hk
      rw [List.map_cons, map_snd_of_keyed hpairs']

theorem mem_of_mem_sortItems {h : Heap} {key : SortKey} {items sorted : List Ref} {r : Ref}
    (hsorted : sortItems h key items = .ok sorted) (hr : r ∈ sorted) : r ∈ items := by
  have hkeyed : ∀ {κ : Type} {key : Ref → Result κ} {sort : List (κ × Ref) → List Ref},
      (do return sort (← keyed key items) : Result (List Ref)) = .ok sorted →
      (∀ pairs, r ∈ sort pairs → r ∈ pairs.map (·.2)) → r ∈ items := by
    intro κ key sort hsorted hsort
    obtain ⟨pairs, hpairs, hsorted⟩ := Op.result_bind_eq_ok hsorted
    cases hsorted
    rw [← map_snd_of_keyed hpairs]
    exact hsort pairs hr
  cases key with
  | text | comparator | foldedText | leadingNumber =>
      exact hkeyed hsorted fun pairs hr => mem_of_mem_sortByKey hr
  | float => exact hkeyed hsorted fun pairs hr => mem_of_mem_sortByPartialKey hr
  | number =>
      cases hsorted
      simpa using mem_of_mem_sortByPartialKey hr

end Library

variable {G : Regime} (hG : G.Lawful) {M : Machine} (hM : G.Drives M)

theorem Op.reading_safe {α : Type} {P : Policy} {U : α → Prop} {f : Heap → Result α}
    (hf : ∀ h a, P.Holds h → f h = .ok a → U a) : Op.Safe P U (Op.reading f) := by
  intro h hh
  refine .get ?_
  rcases hout : f h with stop | a
  · exact ⟨hh, by rintro b ⟨⟩⟩
  · exact .pure hh (hf h a hh hout)

include hG

namespace Library

/-! ## Making and calling Funcrefs -/

omit hG in
theorem fixSelf_safe {f : Funcref} {self : Option Ref} (hf : G.policy.Carries (.funcref f)) :
    (∀ r, self = some r → G.policy.Given r) →
    G.Safe (fun f => G.policy.Carries (.funcref f)) (match self with
      | none => return f
      | some d => return { f with self := some d, isSelfFixed := true } : Run Funcref) := by
  intro hself
  cases self with
  | none => exact .pure hf
  | some d =>
      refine .pure (Policy.carries_funcref.mpr ⟨(Policy.carries_funcref.mp hf).1, ?_⟩)
      rintro r ⟨⟩
      exact hself d rfl

theorem makeFuncref_safe (kind : FuncrefKind) (name : Ref) {arguments self : Option Ref}
    (c : Context) (harguments : ∀ r, arguments = some r → G.policy.Given r)
    (hself : ∀ r, self = some r → G.policy.Given r) :
    G.Safe (fun f => G.policy.Carries (.funcref f)) (makeFuncref kind name arguments self c) := by
  refine .bind (.op G.guards (funcrefOptions_safe hG.policy harguments hself)) ?_
  rintro ⟨arguments, self⟩ hself
  refine .bind (.op G.guards (listArgument_safe hG.policy arguments)) fun items hitems =>
    .bind (.reads G.guards (dictArgument_reads self)) fun _ _ => ?_
  have hfinish := fun f (hf : G.policy.Carries (.funcref f)) => fixSelf_safe hf hself
  refine .value G.guards hG.policy fun v hv => ?_
  cases v with
  | funcref f =>
      cases items with
      | none => exact .bind (.pure hv) hfinish
      | some items =>
          refine .get fun s hs => ?_
          have hcaptured := hG.policy.items (G.guards.holds hs) f.arguments
          have hlist := Op.list_safe hG.policy
            (List.forall_mem_append.mpr ⟨hcaptured, hitems items rfl⟩)
          refine Run.Safe.bind (.op G.guards hlist) (fun r hr => ?_) s hs
          refine .bind (.pure (Policy.carries_funcref.mpr ⟨hr, ?_⟩)) hfinish
          exact (Policy.carries_funcref.mp hv).2
  | _ =>
      refine .bind (.result _) fun text _ => ?_
      obtain ⟨scope, bare⟩ := splitScope text
      refine .bind registry_safe fun r _ => ?_
      cases r.lookup? scope (.text bare) c.script with
      | none => exact .failBind _ _
      | some callee =>
          have hlist : ∀ x ∈ items.getD [], G.policy.Given x := by
            cases items with
            | none => simp
            | some items => exact hitems items rfl
          refine .bind (.op G.guards (Op.list_safe hG.policy hlist)) fun r hr => ?_
          refine .bind (.pure ?_) hfinish
          exact Policy.carries_funcref.mpr ⟨hr, by rintro d ⟨⟩⟩

theorem newFuncref_safe (kind : FuncrefKind) (name : Ref) {arguments self : Option Ref}
    (c : Context) (harguments : ∀ r, arguments = some r → G.policy.Given r)
    (hself : ∀ r, self = some r → G.policy.Given r) :
    G.Safe G.policy.Given (newFuncref kind name arguments self c) :=
  .bind (makeFuncref_safe hG kind name c harguments hself) fun _ hf =>
    .op G.guards (Op.alloc_safe hG.policy hf)

omit hG in
/-- A Funcref that is called on a given Dictionary instead of its own. -/
theorem carries_orElse {f : Funcref} (hf : G.policy.Carries (.funcref f)) {self : Option Ref}
    (hself : ∀ d, self = some d → G.policy.Given d) :
    G.policy.Carries (.funcref { f with self := self <|> f.self }) := by
  obtain ⟨harguments, hbound⟩ := Policy.carries_funcref.mp hf
  refine Policy.carries_funcref.mpr ⟨harguments, fun d hd => ?_⟩
  cases self with
  | none => exact hbound d hd
  | some self => exact hself d hd

include hM in
theorem call_safe (function arguments : Ref) {self : Option Ref} {c : Context} (hc : G.Runs c)
    (hself : ∀ d, self = some d → G.policy.Given d) :
    G.Safe G.policy.Given (call M function arguments self c) := by
  refine .value G.guards hG.policy fun v hv => ?_
  split
  · rename_i items
    have hitems : ∀ r ∈ items, G.policy.Given r := Policy.carries_list.mp hv
    refine .bind (.pure (U := fun args => ∀ r ∈ args, G.policy.Given r) hitems) fun args hargs =>
      .bind (.reads G.guards (dictArgument_reads self)) fun _ _ =>
        .value G.guards hG.policy fun v hv => ?_
    split
    · exact callFuncref_safe hG hM none (carries_orElse hv hself) hargs hc
    · exact callByName_safe hG hM _ _ none hargs hself hc
    · exact .fail _
  · exact .failBind _ _

/-! ## Callbacks -/

theorem parseExpression_safe (text : String) : G.Safe G.Evals (parseExpression text) := by
  refine .read ?_
  split
  · exact .fail _
  · rename_i parser hparser
    refine .bind (.orFault _) fun tree htree => (Run.Safe.orFault _).mono fun e he => ?_
    exact hG.expression hparser htree he

theorem dropVim_safe {name : String} (hname : name ∈ incidental) :
    G.Safe (fun _ => True) (dropVim name) := by
  refine .spaces (.get fun s hs => ?_)
  dsimp only
  split
  · exact .op G.guards hs ⟨hG.dropVim hname (G.guards.holds hs), fun _ _ => trivial⟩
  · exact Run.Safe.faulty _ s hs

include hM in
theorem evalWithItem_safe {e : Expr} {c : Context} {key value : Ref} (hc : G.Runs c)
    (he : G.Evals e) (hkey : G.policy.Given key) (hvalue : G.policy.Given value) :
    G.Safe G.policy.Given (evalWithItem M e c key value) :=
  .spaces (.bind (.op G.guards (hG.setVim (by decide) hkey)) fun _ _ =>
    .bind (.op G.guards (hG.setVim (by decide) hvalue)) fun _ _ =>
      .bind (.attempt (hM.evaluate hc he)) fun _ hresult =>
        .bind (dropVim_safe hG (by decide)) fun _ _ =>
          .bind (dropVim_safe hG (by decide)) fun _ _ => .ending hresult)

/-- What a callback does with a given key and value is safe. -/
def ActsSafely (G : Regime) (act : Ref → Ref → Run Ref) : Prop :=
  ∀ key value, G.policy.Given key → G.policy.Given value → G.Safe G.policy.Given (act key value)

include hM in
theorem callback_safe (function : Ref) {c : Context} (hc : G.Runs c) :
    G.Safe (ActsSafely G) (callback M function c) := by
  refine .value G.guards hG.policy fun v hv => ?_
  split
  · refine .pure fun key value hkey hvalue => callFuncref_safe hG hM none hv ?_ hc
    exact List.forall_mem_cons.mpr ⟨hkey, List.forall_mem_singleton.mpr hvalue⟩
  · refine .bind (.result _) fun text _ => .bind (parseExpression_safe hG text) fun e he => ?_
    exact .pure fun key value hkey hvalue => evalWithItem_safe hG hM hc he hkey hvalue

section

variable {act : Ref → Ref → Run Ref} (hact : ActsSafely G act)
include hact

theorem mapItems_safe : ∀ (i : Nat) (items : List Ref), (∀ r ∈ items, G.policy.Given r) →
    G.Safe (fun results => ∀ r ∈ results, G.policy.Given r) (mapItems act i items)
  | _, [], _ => .pure (by simp)
  | i, item :: rest, hitems => by
      obtain ⟨hitem, hrest⟩ := List.forall_mem_cons.mp hitems
      refine .bind (.op G.guards (Op.number_safe hG.policy _)) fun k hk =>
        .bind (hact k item hk hitem) fun result hresult =>
          .bind (mapItems_safe (i + 1) rest hrest) fun results hresults => .pure ?_
      exact List.forall_mem_cons.mpr ⟨hresult, hresults⟩

theorem filterItems_safe : ∀ (i : Nat) (items : List Ref), (∀ r ∈ items, G.policy.Given r) →
    G.Safe (fun results => ∀ r ∈ results, G.policy.Given r) (filterItems act i items)
  | _, [], _ => .pure (by simp)
  | i, item :: rest, hitems => by
      obtain ⟨hitem, hrest⟩ := List.forall_mem_cons.mp hitems
      refine .bind (.op G.guards (Op.number_safe hG.policy _)) fun k hk =>
        .bind (hact k item hk hitem) fun result _ =>
          .bind (.reads G.guards (Op.toBool_reads result)) fun keep _ =>
            .bind (filterItems_safe (i + 1) rest hrest) fun kept hkept => .pure ?_
      cases keep with
      | false => exact hkept
      | true => exact List.forall_mem_cons.mpr ⟨hitem, hkept⟩

theorem mapEntries_safe {r : Ref} (hr : G.policy.Free r) :
    ∀ entries : List (String × Ref), (∀ e ∈ entries, G.policy.Given e.2) →
      G.Safe (fun _ => True) (mapEntries act r entries)
  | [], _ => .pure trivial
  | (key, value) :: rest, hentries => by
      obtain ⟨hvalue, hrest⟩ := List.forall_mem_cons.mp hentries
      refine .bind (.op G.guards (Op.string_safe hG.policy key)) fun k hk =>
        .bind (hact k value hk hvalue) fun result hresult => ?_
      refine .bind (.onHeap G.guards (Op.insertFree_safe hG.policy hr key hresult)) fun _ _ => ?_
      exact mapEntries_safe hr rest hrest

theorem filterEntries_safe {r : Ref} (hr : G.policy.Free r) :
    ∀ entries : List (String × Ref), (∀ e ∈ entries, G.policy.Given e.2) →
      G.Safe (fun _ => True) (filterEntries act r entries)
  | [], _ => .pure trivial
  | (key, value) :: rest, hentries => by
      obtain ⟨hvalue, hrest⟩ := List.forall_mem_cons.mp hentries
      have ih := filterEntries_safe hr rest hrest
      refine .bind (.op G.guards (Op.string_safe hG.policy key)) fun k hk =>
        .bind (hact k value hk hvalue) fun result _ =>
          .bind (.reads G.guards (Op.toBool_reads result)) fun keep _ => .ite ?_ ih
      have herase : Op.Safe G.policy (fun _ => True)
          (modify fun h => h.modifyTable r (·.erase key) : Op Unit) := fun h hh =>
        ⟨hG.policy.replace hh hr ((hG.policy.table hh r).erase key), fun _ _ => trivial⟩
      refine .get fun s hs => ?_
      split
      · exact Run.Safe.bind (.onHeap G.guards herase) (fun _ _ => ih) s hs
      · exact Run.Safe.bind (.faulty (U := fun _ => True) _) (fun _ _ => ih) s hs

end

include hM in
theorem overContainer_safe (fname : String) {r : Ref} (function : Ref) {c : Context}
    (hr : G.policy.Given r) (hc : G.Runs c)
    {onItems : (Ref → Ref → Run Ref) → Nat → List Ref → Run (List Ref)}
    {onEntries : (Ref → Ref → Run Ref) → Ref → List (String × Ref) → Run Unit}
    (hitems : ∀ {act}, ActsSafely G act → ∀ i items, (∀ r ∈ items, G.policy.Given r) →
      G.Safe (fun results => ∀ r ∈ results, G.policy.Given r) (onItems act i items))
    (hentries : ∀ {act}, ActsSafely G act → ∀ {r}, G.policy.Free r → ∀ entries,
      (∀ e ∈ entries, G.policy.Given e.2) → G.Safe (fun _ => True) (onEntries act r entries)) :
    G.Safe G.policy.Given (overContainer M fname r function c onItems onEntries) := by
  refine .valueOf G.guards hG.policy fun v hv hcontainer => ?_
  split
  · refine .unlocked G.guards fun h hh hunlocked => .bind (callback_safe hG hM function hc)
      fun act hact => .bind (hitems hact 0 _ (Policy.carries_list.mp hv)) fun results hresults => ?_
    have hfree := hG.policy.free hh hr (hcontainer rfl) hunlocked
    have hset := Op.setValue_safe hG.policy hfree (Policy.carries_list.mpr hresults)
    exact .bind (.op G.guards hset) fun _ _ => .pure hr
  · refine .unlocked G.guards fun h hh hunlocked => .bind (callback_safe hG hM function hc)
      fun act hact => ?_
    have hfree := hG.policy.free hh hr (hcontainer rfl) hunlocked
    refine .bind (hentries hact hfree _ (Policy.carries_dict.mp hv)) fun _ _ => .pure hr
  · exact .fail _

include hM in
theorem map_safe {r : Ref} (function : Ref) {c : Context} (hr : G.policy.Given r)
    (hc : G.Runs c) : G.Safe G.policy.Given (map M r function c) :=
  overContainer_safe hG hM _ function hr hc (mapItems_safe hG) (mapEntries_safe hG)

include hM in
theorem filter_safe {r : Ref} (function : Ref) {c : Context} (hr : G.policy.Given r)
    (hc : G.Runs c) : G.Safe G.policy.Given (filter M r function c) :=
  overContainer_safe hG hM _ function hr hc (filterItems_safe hG) (filterEntries_safe hG)

/-! ## Sorting -/

section

variable {le : Ref → Ref → Run Bool}
  (hle : ∀ a b, G.policy.Given a → G.policy.Given b → G.Safe (fun _ => True) (le a b))
include hle

omit hG in
theorem mergeM_safe (as bs : List Ref) (has : ∀ r ∈ as, G.policy.Given r)
    (hbs : ∀ r ∈ bs, G.policy.Given r) :
    G.Safe (fun merged => ∀ r ∈ merged, G.policy.Given r) (mergeM le as bs) := by
  fun_induction mergeM le as bs with
  | case1 bs => exact .pure hbs
  | case2 as => exact .pure has
  | case3 a as b bs ih₁ ih₂ =>
      obtain ⟨ha, has'⟩ := List.forall_mem_cons.mp has
      obtain ⟨hb, hbs'⟩ := List.forall_mem_cons.mp hbs
      refine .bind (hle a b ha hb) fun _ _ => .ite ?_ ?_
      · refine .bind (ih₁ has' hbs) fun merged hmerged => .pure ?_
        exact List.forall_mem_cons.mpr ⟨ha, hmerged⟩
      · refine .bind (ih₂ has hbs') fun merged hmerged => .pure ?_
        exact List.forall_mem_cons.mpr ⟨hb, hmerged⟩

omit hG in
theorem mergeSortM_safe (items : List Ref) (hitems : ∀ r ∈ items, G.policy.Given r) :
    G.Safe (fun sorted => ∀ r ∈ sorted, G.policy.Given r) (mergeSortM le items) := by
  fun_induction mergeSortM le items with
  | case1 items => exact .pure hitems
  | case2 items _ ih₁ ih₂ =>
      refine .bind (ih₁ fun r hr => hitems r (List.mem_of_mem_take hr)) fun left hleft =>
        .bind (ih₂ fun r hr => hitems r (List.mem_of_mem_drop hr)) fun right hright => ?_
      exact mergeM_safe hle left right hleft hright

end

omit hG in
theorem sortMode_safe (how : Option Ref) : G.Safe (fun _ => True) (sortMode how) := by
  cases how with
  | none => exact .pure trivial
  | some r =>
      refine .bind (.reads G.guards (Op.value_reads r)) fun v _ => ?_
      split
      · exact .pure trivial
      · exact .pure trivial
      · exact .bind (.result _) fun _ _ => .bind (.orFault _) fun _ _ => .pure trivial

theorem comparator_safe (how : Ref) {self : Option Ref} (c : Context)
    (hself : ∀ d, self = some d → G.policy.Given d) :
    G.Safe (fun f => G.policy.Carries (.funcref f)) (comparator how self c) := by
  have hfinish : ∀ f : Funcref, G.policy.Carries (.funcref f) →
      G.Safe (fun f => G.policy.Carries (.funcref f)) (do
        dictArgument self
        return { f with self := self <|> f.self } : Run Funcref) := fun f hf =>
    .bind (.reads G.guards (dictArgument_reads self)) fun _ _ => .pure (carries_orElse hf hself)
  refine .value G.guards hG.policy fun v hv => ?_
  split
  · exact .bind (.pure hv) hfinish
  · exact .bind (makeFuncref_safe hG _ how c (by rintro r ⟨⟩) (by rintro r ⟨⟩)) hfinish

include hM in
theorem sort_safe {r : Ref} (how : Option Ref) {self : Option Ref} {c : Context}
    (hr : G.policy.Given r) (hself : ∀ d, self = some d → G.policy.Given d) (hc : G.Runs c) :
    G.Safe G.policy.Given (sort M r how self c) := by
  refine .valueOf G.guards hG.policy fun v hv hcontainer => ?_
  split
  · rename_i items
    have hitems := Policy.carries_list.mp hv
    refine .unlocked G.guards fun h hh hunlocked => .bind (sortMode_safe how) fun key _ => ?_
    have hfree := hG.policy.free hh hr (hcontainer rfl) hunlocked
    have hstore : ∀ sorted : List Ref, (∀ x ∈ sorted, G.policy.Given x) →
        G.Safe G.policy.Given (do
          Op.setValue r (.list sorted)
          return r : Run Ref) := fun sorted hsorted =>
      .bind (.op G.guards (Op.setValue_safe hG.policy hfree (Policy.carries_list.mpr hsorted)))
        fun _ _ => .pure hr
    split
    · refine .bind (comparator_safe hG _ c hself) fun f hf =>
        .bind (mergeSortM_safe (fun a b ha hb => ?_) items hitems) hstore
      refine .bind (callFuncref_safe hG hM none hf ?_ hc) fun n _ =>
        .bind (.reads G.guards (Op.toNumber_reads n)) fun _ _ => .pure trivial
      exact List.forall_mem_cons.mpr ⟨ha, List.forall_mem_singleton.mpr hb⟩
    · refine .bind (.op G.guards (Op.reading_safe fun h sorted _ hsorted => ?_)) hstore
      exact fun x hx => hitems x (mem_of_mem_sortItems hsorted hx)
  · exact .fail _

/-! ## Variables and the host -/

theorem islocked_safe (r : Ref) (c : Context) : G.Safe G.policy.Given (islocked r c) := by
  have htruth : ∀ b, G.Safe G.policy.Given (liftM (Op.truth b) : Run Ref) := fun b =>
    .op G.guards (Op.truth_safe hG.policy b)
  refine .bind (.reads G.guards (Op.toText_reads r)) fun text _ => ?_
  cases readPlace? text with
  | none => exact .fail _
  | some place =>
      obtain ⟨written, steps⟩ := place
      refine .spaces ?_
      obtain ⟨scope, name⟩ := splitScope written
      refine .bind (.op G.guards (Op.get?_safe hG.policy _ scope name c)) fun found hfound => ?_
      cases found with
      | none => exact .op G.guards (Op.number_safe hG.policy _)
      | some held =>
          refine .ite ?_ ?_
          · exact .bind (.reads G.guards (Op.isNameLocked_reads _ scope name c)) fun b _ => htruth b
          · refine .bind (.op G.guards (follow_safe hG.policy held steps (hfound held rfl)))
              fun item _ => ?_
            exact .bind (.reads G.guards (Op.isLocked_reads item)) fun b _ => htruth b

theorem existsName_safe (r : Ref) (c : Context) : G.Safe G.policy.Given (existsName r c) := by
  have htruth : ∀ b, G.Safe G.policy.Given (liftM (Op.truth b) : Run Ref) := fun b =>
    .op G.guards (Op.truth_safe hG.policy b)
  refine .bind (.reads G.guards (Op.toText_reads r)) fun text _ => ?_
  split
  · exact .host fun _ => htruth _
  · exact .host fun _ => htruth _
  · exact .bind registry_safe fun _ _ => htruth _
  · exact .spaces (.bind (.reads G.guards (Op.isDefined_reads _ _ _ c)) fun b _ => htruth b)

theorem line_safe (r : Ref) : G.Safe G.policy.Given (line r) :=
  .bind (.reads G.guards (Op.toText_reads r)) fun _ _ => .host fun _ =>
    .op G.guards (Op.number_safe hG.policy _)

theorem col_safe (r : Ref) : G.Safe G.policy.Given (col r) :=
  .bind (.reads G.guards (Op.toText_reads r)) fun _ _ => .host fun _ =>
    .op G.guards (Op.number_safe hG.policy _)

theorem input_safe (prompt fallback : Option Ref) : G.Safe G.policy.Given (input prompt fallback) :=
  .bind (.reads G.guards (Op.toTextD_reads "" prompt)) fun _ _ =>
    .bind (.reads G.guards (Op.toTextD_reads "" fallback)) fun _ _ =>
      .bind (modifyGetHost_safe G.guards _) fun _ _ => .op G.guards (Op.string_safe hG.policy _)

end Library

include hM in
theorem Builtin.apply_safe (b : Builtin) {args : List Ref} {c : Context} (hc : G.Runs c)
    (hargs : ∀ a ∈ args, G.policy.Given a) : G.Safe G.policy.Given (b.apply M args c) := by
  have hfirst : ∀ {x : Ref} {rest : List Ref}, (∀ a ∈ x :: rest, G.policy.Given a) →
      G.policy.Given x := fun hargs => hargs _ List.mem_cons_self
  have hsecond : ∀ {x y : Ref} {rest : List Ref}, (∀ a ∈ x :: y :: rest, G.policy.Given a) →
      G.policy.Given y := fun hargs => hargs _ (List.mem_cons_of_mem _ List.mem_cons_self)
  have hlater : ∀ {x : Ref} {rest : List Ref} {i : Nat}, (∀ a ∈ x :: rest, G.policy.Given a) →
      ∀ r, rest[i]? = some r → G.policy.Given r :=
    fun hargs r hr => hargs r (List.mem_cons_of_mem _ (List.mem_of_getElem? hr))
  have hthird : ∀ {x y : Ref} {rest : List Ref} {i : Nat},
      (∀ a ∈ x :: y :: rest, G.policy.Given a) → ∀ r, rest[i]? = some r → G.policy.Given r :=
    fun hargs => hlater fun a ha => hargs a (List.mem_cons_of_mem _ ha)
  unfold Builtin.apply
  split
  · exact Library.input_safe hG _ _
  · exact .op G.guards (Library.abs_safe hG.policy _)
  · exact .op G.guards (Library.add_safe hG.policy (hfirst hargs) (hsecond hargs))
  · exact Library.call_safe hG hM _ _ hc (hthird hargs)
  · exact Library.col_safe hG _
  · exact .op G.guards (Op.copy_safe hG.policy _ (hfirst hargs))
  · exact .op G.guards (Library.count_safe hG.policy _ _ _ _)
  · exact .op G.guards (Op.copy_safe hG.policy _ (hfirst hargs))
  · exact .op G.guards (Library.empty_safe hG.policy _)
  · exact Library.existsName_safe hG _ c
  · exact .op G.guards (Library.extend_safe hG.policy _ _ (hfirst hargs))
  · exact Library.filter_safe hG hM _ (hfirst hargs) hc
  · exact .op G.guards (Library.float2nr_safe hG.policy (hfirst hargs))
  · exact Library.newFuncref_safe hG _ _ c (hlater hargs) (hlater hargs)
  · exact Library.newFuncref_safe hG _ _ c (hlater hargs) (hlater hargs)
  · exact .op G.guards (Library.getItem_safe hG.policy _ _ _ (hthird hargs))
  · exact .op G.guards (Library.hasKey_safe hG.policy _ _)
  · exact .op G.guards (Library.index_safe hG.policy _ _ _ _)
  · exact .op G.guards (Library.insert_safe hG.policy _ (hfirst hargs) (hsecond hargs))
  · exact Library.islocked_safe hG _ c
  · exact .op G.guards (Library.items_safe hG.policy _)
  · exact .op G.guards (Library.join_safe hG.policy _ _)
  · exact .op G.guards (Library.keys_safe hG.policy _)
  · exact .op G.guards (Library.len_safe hG.policy _)
  · exact Library.line_safe hG _
  · exact Library.map_safe hG hM _ (hfirst hargs) hc
  · exact .op G.guards (Library.maximum_safe hG.policy _)
  · exact .op G.guards (Library.minimum_safe hG.policy _)
  · exact .op G.guards (Library.range_safe hG.policy _ _ _)
  · exact .op G.guards (Library.remove_safe hG.policy _ _ (hfirst hargs))
  · exact .op G.guards (Library.replicate_safe hG.policy _ _)
  · exact .op G.guards (Library.reverse_safe hG.policy (hfirst hargs))
  · exact Library.sort_safe hG hM _ (hfirst hargs) (hlater hargs) hc
  · exact .op G.guards (Library.split_safe hG.policy _ _ _)
  · exact .op G.guards (Library.str2float_safe hG.policy _)
  · exact .op G.guards (Library.str2nr_safe hG.policy _ _)
  · exact .op G.guards (Library.stringOf_safe hG.policy _)
  · exact .op G.guards (Library.tolower_safe hG.policy _)
  · exact .op G.guards (Library.toupper_safe hG.policy _)
  · exact .op G.guards (Library.trim_safe hG.policy _ _ _)
  · exact .op G.guards (Library.typeOf_safe hG.policy _)
  · exact .op G.guards (Library.values_safe hG.policy _)
  · exact .op G.guards (Op.number_safe hG.policy 0)

/-! ## Calling declared functions -/

section

variable {arguments : Ref} (hfree : G.policy.Free arguments)
include hfree

theorem bindArgument_safe (name : String) {value : Ref} (hvalue : G.policy.Given value) :
    Op.Safe G.policy (fun _ => True) (bindArgument arguments name value) :=
  Op.insertFree_safe hG.policy hfree name hvalue

theorem bindEach_safe : ∀ pairs : List (String × Ref), (∀ p ∈ pairs, G.policy.Given p.2) →
    Op.Safe G.policy (fun _ => True) (bindEach arguments pairs)
  | [], _ => .pure trivial
  | (name, value) :: rest, hpairs => by
      obtain ⟨hvalue, hrest⟩ := List.forall_mem_cons.mp hpairs
      exact .bind (bindArgument_safe hG hfree name hvalue) fun _ _ => bindEach_safe rest hrest

theorem bindExtra_safe {extra : List Ref} (hextra : ∀ r ∈ extra, G.policy.Given r) :
    Op.Safe G.policy (fun _ => True) (bindExtra arguments extra) := by
  refine .bind (Op.list_safe hG.policy hextra) fun list hlist =>
    .bind (bindArgument_safe hG hfree _ hlist) fun _ _ =>
      .bind (Op.number_safe hG.policy _) fun count hcount =>
        .bind (bindArgument_safe hG hfree _ hcount) fun _ _ => bindEach_safe hG hfree _ ?_
  intro p hp
  obtain ⟨i, hi, rfl⟩ := List.mem_iff_getElem.mp hp
  rw [List.getElem_mapIdx]
  exact hextra _ (List.getElem_mem _)

include hM

theorem bindDefaults_safe {c : Context} (hc : G.Runs c) :
    ∀ (defaults : List (Vimscript.Name × Expr)) (left : List Ref),
      (∀ p ∈ defaults, G.Evals p.2) → (∀ r ∈ left, G.policy.Given r) →
      G.Safe (fun _ => True) (bindDefaults M arguments c defaults left)
  | [], _, _, _ => by rw [bindDefaults]; exact .pure trivial
  | (name, e) :: rest, value :: left, hdefaults, hleft => by
      rw [bindDefaults]
      obtain ⟨hvalue, hleft'⟩ := List.forall_mem_cons.mp hleft
      refine .bind (.op G.guards (bindArgument_safe hG hfree _ hvalue)) fun _ _ => ?_
      exact bindDefaults_safe hc rest left (List.forall_mem_cons.mp hdefaults).2 hleft'
  | (name, e) :: rest, [], hdefaults, hleft => by
      rw [bindDefaults]
      obtain ⟨he, hrest⟩ := List.forall_mem_cons.mp hdefaults
      refine .bind (evalTop_safe hG hM hc he) fun r hr =>
        .bind (.op G.guards (bindArgument_safe hG hfree _ hr)) fun _ _ => ?_
      exact bindDefaults_safe hc rest [] hrest hleft

theorem bindArguments_safe {d : Declaration} {args : List Ref} (lines : Int × Int) {c : Context}
    (hd : G.Allows d) (hargs : ∀ r ∈ args, G.policy.Given r) (hc : G.Runs c) :
    G.Safe (fun _ => True) (bindArguments M d args arguments lines c) := by
  have hlines : G.Safe (fun _ => True) (do
      bindArgument arguments "firstline" (← Op.number lines.1)
      bindArgument arguments "lastline" (← Op.number lines.2)
      let bound := ((← get).heap.table arguments).keys
      trace ["Bind arguments", d.name.asText,
        "[" ++ ", ".intercalate (bound.map Text.quoted) ++ "]"] : Run Unit) :=
    .bind (.op G.guards (Op.number_safe hG.policy _)) fun _ hr =>
      .bind (.op G.guards (bindArgument_safe hG hfree _ hr)) fun _ _ =>
        .bind (.op G.guards (Op.number_safe hG.policy _)) fun _ hr =>
          .bind (.op G.guards (bindArgument_safe hG hfree _ hr)) fun _ _ =>
            .get fun s hs => trace_safe G.guards _ s hs
  have hleft : ∀ n, ∀ r ∈ args.drop n, G.policy.Given r := fun n r hr =>
    hargs r (List.mem_of_mem_drop hr)
  refine .bind (.op G.guards (bindEach_safe hG hfree _ fun p hp => ?_)) fun _ _ =>
    .bind (bindDefaults_safe hG hM hfree hc _ _ (fun p hp => hG.default hd hp) (hleft _))
      fun _ _ => .ite ?_ hlines
  · exact hargs _ (List.of_mem_zip hp).2
  · refine .bind (.op G.guards (bindExtra_safe hG hfree fun r hr => ?_)) fun _ _ => hlines
    exact hleft _ r (List.mem_of_mem_drop hr)

end

theorem runThrough_safe : ∀ body : List (Run Signal),
    (∀ x ∈ body, G.Safe G.policy.Signals x) → G.Safe G.policy.Given (runThrough body)
  | [], _ => .op G.guards (Op.number_safe hG.policy 0)
  | x :: rest, hbody => by
      obtain ⟨hfirst, hothers⟩ := List.forall_mem_cons.mp hbody
      have hrest := runThrough_safe rest hothers
      refine .bind (.attempt hfirst) fun result hresult => ?_
      split
      · exact hrest
      · exact .pure (hresult _ rfl)
      · exact .bind (report_safe hG _) fun _ _ => hrest
      · exact .bind (report_safe hG _) fun _ _ => hrest
      · exact .bind (report_safe hG _) fun _ _ => hrest
      · exact .bind (report_safe hG _) fun _ _ => hrest
      · exact .throw _

theorem abortValue_safe {signal : Signal} (hsignal : G.policy.Signals signal) :
    G.Safe G.policy.Given (abortValue signal) := by
  cases signal with
  | success => exact .op G.guards (Op.number_safe hG.policy 0)
  | returning value => exact .pure hsignal
  | breaking | continuing => exact .fail _
  | failed e =>
      exact .bind (report_safe hG e) fun _ _ => .op G.guards (Op.number_safe hG.policy 0)

include hM in
theorem runBody_safe {d : Declaration} {c : Context} (hc : G.Runs c)
    (hbody : ∀ s ∈ d.body, G.Does c s) : G.Safe G.policy.Given (runBody M d c) := by
  refine .ite (.bind (execAll_safe hG hM hc d.body hbody) fun _ hs => abortValue_safe hG hs) ?_
  refine runThrough_safe hG _ fun x hx => ?_
  obtain ⟨s, hs, rfl⟩ := List.mem_map.mp hx
  exact exec_safe hG hM hc (hbody s hs)

omit hG in
theorem withCall_safe (name : String) (c : Context) {x : Run Ref}
    (hx : G.Safe G.policy.Given x) : G.Safe G.policy.Given (withCall name c x) := by
  intro s hs
  by_cases hfull : G.setup.maxDepth ≤ s.calls.length
  · rw [SafeAt, withCall_of_full name c x hfull]
    exact ⟨hs, by rintro r ⟨⟩⟩
  · rw [SafeAt, withCall_of_room name c x (Int.not_le.mp hfull)]
    obtain ⟨hgood, hresult⟩ := hx { s with calls := name :: s.calls } (G.guards.same hs rfl rfl)
    rcases hout : x G.setup { s with calls := name :: s.calls } with ⟨stop | r, t⟩ <;>
      rw [hout] at hgood hresult
    · exact ⟨G.guards.same hgood rfl rfl, by rintro r ⟨⟩⟩
    · refine ⟨G.guards.same hgood rfl rfl, ?_⟩
      rintro r' ⟨⟩
      exact hresult r rfl

omit hG in
theorem Frame.own_enter (own : Level) (isClosure : Bool) (parent : Option Frame)
    (self : Option Ref) : (Frame.enter own isClosure parent self).own = own := by
  unfold Frame.enter
  split
  · split <;> rfl
  · rfl

theorem makeFrame_safe {d : Declaration} {self : Option Ref}
    (hself : ∀ r, self = some r → G.policy.Given r) :
    Op.Safe G.policy (fun frame => ∃ own self,
      (∀ r ∈ [own.locals, own.arguments], G.policy.Given r ∧ G.policy.Free r) ∧
        frame = .enter own d.signature.flags.closure d.parent self) (makeFrame d self) := by
  have hlocals : ∀ self : Option Ref, (∀ r, self = some r → G.policy.Given r) →
      G.policy.Carries (.dict { entries := (self.map fun r => ("self", r)).toList }) := by
    intro self hself
    refine Policy.carries_dict.mpr fun e he => ?_
    cases self with
    | none => cases he
    | some r =>
        rw [List.mem_singleton.mp he]
        exact hself r rfl
  refine .bind (Op.alloc_new hG.policy (hlocals _ fun r hr => ?_)) fun locals hown =>
    .bind (Op.alloc_new hG.policy (Policy.carries_dict.mpr (by simp))) fun arguments harguments =>
      .pure ?_
  · split at hr
    · exact hself r hr
    · cases hr
  · refine ⟨⟨locals, arguments⟩, _, ?_, rfl⟩
    exact List.forall_mem_cons.mpr ⟨hown, List.forall_mem_singleton.mpr harguments⟩

include hM in
theorem runDeclared_safe {d : Declaration} {args : List Ref} {self : Option Ref}
    (lines : Int × Int) (hd : G.Allows d) (hargs : ∀ r ∈ args, G.policy.Given r)
    (hself : ∀ r, self = some r → G.policy.Given r) :
    G.Safe G.policy.Given (runDeclared M d args self lines) := by
  refine .bind (.op G.guards (makeFrame_safe hG hself)) ?_
  rintro frame ⟨own, self, hown, rfl⟩
  have hc := hG.enter self hd hown
  have hfree := (hown own.arguments (by simp)).2
  rw [← Frame.own_enter own d.signature.flags.closure d.parent self] at hfree
  refine withCall_safe _ _ (.bind (bindArguments_safe hG hM hfree lines hd hargs hc) fun _ _ => ?_)
  exact runBody_safe hG hM hc fun s hs => hG.body hd hs

omit hG in
theorem forLines_safe {once : Run Ref} (honce : G.Safe G.policy.Given once) :
    ∀ (count : Nat) (line : Int) (last : Ref), G.policy.Given last →
      G.Safe G.policy.Given (forLines once count line last)
  | 0, _, _, hlast => .pure hlast
  | count + 1, line, _, _ =>
      .bind (modifyHost_safe G.guards _) fun _ _ => .bind honce fun r hr =>
        forLines_safe honce count (line + 1) r hr

include hM in
theorem callDeclared_safe {d : Declaration} {call : Call} (hd : G.Allows d)
    (hargs : ∀ r ∈ call.args, G.policy.Given r)
    (hself : ∀ r, call.self = some r → G.policy.Given r) :
    G.Safe G.policy.Given (callDeclared M d call) := by
  refine .failIf ?_
  cases call.range with
  | none => exact .host fun _ => runDeclared_safe hG hM _ hd hargs hself
  | some lines =>
      refine .ite (runDeclared_safe hG hM _ hd hargs hself) ?_
      exact .bind (.op G.guards (Op.number_safe hG.policy 0)) fun r hr =>
        forLines_safe (runDeclared_safe hG hM _ hd hargs hself) _ _ r hr

include hM in
theorem callFunction_safe {call : Call} (hc : G.Runs call.context)
    (hargs : ∀ r ∈ call.args, G.policy.Given r)
    (hself : ∀ r, call.self = some r → G.policy.Given r) :
    G.Safe G.policy.Given (callFunction M call) := by
  refine .bind registry_safe fun r hr => .bind (.orFail _) fun _ _ => ?_
  split
  · exact Builtin.apply_safe hG hM _ hc hargs
  · split
    · rename_i d hd
      exact callDeclared_safe hG hM (hr d (Array.mem_of_getElem? hd)) hargs hself
    · exact .fail _

/-- Every machine is safe, whatever the number of nested steps. -/
theorem Regime.ofFuel_drives (hhandles : ∀ n, G.Handles (Machine.ofFuel n)) (n : Nat) :
    G.Drives (Machine.ofFuel n) := by
  induction n with
  | zero => exact halted_drives (hhandles 0)
  | succ n ih =>
      exact {
        handles := hhandles (n + 1)
        invoke := fun hc hargs hself => callFunction_safe hG ih hc hargs hself
        evaluate := fun hc he => evalTop_safe hG ih hc he
        execute := fun hc hbody => execAll_safe hG ih hc _ hbody }

end Vimscript
