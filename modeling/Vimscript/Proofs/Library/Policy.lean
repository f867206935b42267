import Vimscript.Library.Apply
import Vimscript.Proofs.Heap.Edit

/-!
# The built-in functions under a policy

The built-in functions that call no other function, one lemma each, in the
order of the library. Most of them read their arguments and make a new
object. Those that change a container ask first whether it is locked, and
what they put into it are their arguments or what these contain; so they
need nothing of a policy but its laws.
-/

namespace Vimscript.Library

open Op

/-! ## Functions that only read -/

theorem numbersOf_reads (function : String) (r : Ref) : Reads (numbersOf function r) := by
  refine .bind (value_reads r) fun v => ?_
  split
  · exact .mapM toNumber_reads _
  · exact .mapM toNumber_reads _
  · exact .fail _

theorem requireSize_reads (tooLong : Fault) (length : Nat) (count : Int) :
    Reads (requireSize tooLong length count) := by
  have hmemory : Reads (if maxHeld < length * count then (faulty .noMemory : Op Unit)
      else pure ()) := .ite (.faulty _) (.pure _)
  refine .ite (.bind (.faulty _) fun _ => ?_) ?_
  all_goals exact .ite (.bind (.faulty _) fun _ => hmemory) hmemory

theorem refuseLocked_reads (r : Ref) (cause : Cause) : Reads (refuseLocked r cause) :=
  .bind (isLocked_reads r) fun _ => .ite (.fail cause) (.pure _)

theorem dictArgument_reads (r : Option Ref) : Reads (dictArgument r) := by
  cases r with
  | none => exact .pure _
  | some r =>
      refine .bind (value_reads r) fun v => ?_
      split
      · exact .pure _
      · exact .fail _

theorem listArgument_reads (r : Option Ref) : Reads (listArgument r) := by
  cases r with
  | none => exact .pure _
  | some r =>
      refine .bind (value_reads r) fun v => ?_
      split
      · exact .pure _
      · exact .fail _

theorem funcrefOptions_reads (arguments self : Option Ref) :
    Reads (funcrefOptions arguments self) := by
  unfold funcrefOptions
  split
  · refine .bind (value_reads _) fun v => ?_
    split <;> exact .pure _
  · exact .pure _

/-- What follows a check is performed on an object that is not locked. -/
theorem unlocked_of_refuseLocked {r : Ref} {cause : Cause} {h : Heap} {a : Unit}
    (hok : refuseLocked r cause h = (.ok a, h)) : h.isLocked r = false := by
  unfold refuseLocked at hok
  rw [bind_of_ok (isLocked_eq r h)] at hok
  rcases hlocked : h.isLocked r with _ | _
  · rfl
  · rw [hlocked] at hok
    cases hok

variable {P : Policy} (hP : P.Lawful)
include hP

/-! ## Numbers -/

theorem abs_safe (r : Ref) : Safe P P.Given (abs r) := by
  refine .value hP fun v _ => ?_
  split
  · exact alloc_safe hP (P.carries_float _)
  · exact .after (.result _) fun _ => number_safe hP _

theorem float2nr_safe {r : Ref} (hr : P.Given r) : Safe P P.Given (float2nr r) := by
  refine .value hP fun v _ => ?_
  split
  · exact .pure hr
  · exact number_safe hP _
  · exact .fail _

theorem str2float_safe (r : Ref) : Safe P P.Given (str2float r) := by
  refine .after (toText_reads r) fun s => ?_
  split
  · exact alloc_safe hP (P.carries_float _)
  · split
    · exact alloc_safe hP (P.carries_float _)
    · exact .faulty _

theorem str2nr_safe (r : Ref) (base : Option Ref) : Safe P P.Given (str2nr r base) := by
  refine .after (toNumberD_reads 10 base) fun b => .ite ?_ (.fail _)
  exact .after (toText_reads r) fun _ => number_safe hP _

theorem range_safe (r : Ref) (last stride : Option Ref) : Safe P P.Given (range r last stride) := by
  have hitems : ∀ first last step, Safe P P.Given (do
      Op.list (← (rangeItems first last step).mapM Op.number)) := fun _ _ _ =>
    .bind (.mapM (number_safe hP) _) fun _ hitems => list_safe hP hitems
  refine .after (toNumber_reads r) fun n => ?_
  cases last with
  | none =>
      exact .after (.pure (0, n - 1)) fun _ =>
        .after (toNumberD_reads 1 stride) fun _ => .failIf (.failIf (hitems _ _ _))
  | some e =>
      exact .after (toNumber_reads e) fun last => .after (.pure (n, last)) fun _ =>
        .after (toNumberD_reads 1 stride) fun _ => .failIf (.failIf (hitems _ _ _))

theorem maximum_safe (r : Ref) : Safe P P.Given (maximum r) := by
  refine .after (numbersOf_reads _ r) fun ns => ?_
  split
  · exact number_safe hP _
  · exact number_safe hP _

theorem minimum_safe (r : Ref) : Safe P P.Given (minimum r) := by
  refine .after (numbersOf_reads _ r) fun ns => ?_
  split
  · exact number_safe hP _
  · exact number_safe hP _

/-! ## Texts -/

theorem tolower_safe (r : Ref) : Safe P P.Given (tolower r) :=
  .after (toText_reads r) fun _ => string_safe hP _

theorem toupper_safe (r : Ref) : Safe P P.Given (toupper r) :=
  .after (toText_reads r) fun _ => string_safe hP _

theorem trim_safe (r : Ref) (mask direction : Option Ref) :
    Safe P P.Given (trim r mask direction) := by
  refine .after (toText_reads r) fun _ => .after (toTextD_reads "" mask) fun _ =>
    .after (toNumberD_reads 0 direction) fun _ => ?_
  split
  · exact .after (.orFault _) fun _ => .fail _
  · exact string_safe hP _

omit hP in
theorem mem_of_mem_repeated {α : Type} {n : Nat} {items : List α} {a : α}
    (ha : a ∈ repeated n items) : a ∈ items := by
  unfold repeated at ha
  split at ha
  · cases ha
  · obtain ⟨copy, hcopy, hmem⟩ := List.mem_flatten.mp ha
    rw [List.eq_of_mem_replicate hcopy] at hmem
    exact hmem

theorem replicate_safe (r count : Ref) : Safe P P.Given (replicate r count) := by
  refine .after (toNumber_reads count) fun n => .value hP fun v hv => ?_
  split
  · refine .after (requireSize_reads _ _ n) fun _ => list_safe hP fun x hx => ?_
    exact P.carries_list.mp hv x (mem_of_mem_repeated hx)
  · exact .after (.result _) fun _ => .after (requireSize_reads _ _ n) fun _ => string_safe hP _

theorem split_safe (r : Ref) (pattern keepEmpty : Option Ref) :
    Safe P P.Given (split r pattern keepEmpty) :=
  .after (toText_reads r) fun _ => .after (toTextD_reads "" pattern) fun _ =>
    .after (.result _) fun _ => .after (toBoolD_reads keepEmpty) fun _ =>
      .bind (.mapM (string_safe hP) _) fun _ hitems => list_safe hP hitems

theorem join_safe (r : Ref) (separator : Option Ref) : Safe P P.Given (join r separator) := by
  refine .value hP fun v _ => ?_
  split
  · exact .after (toTextD_reads " " separator) fun _ =>
      .after (.reading _) fun _ => string_safe hP _
  · exact .fail _

theorem stringOf_safe (r : Ref) : Safe P P.Given (stringOf r) :=
  .after (.reading _) fun _ => string_safe hP _

/-! ## Containers -/

theorem withItems_safe {r : Ref} {items : List Ref} (hfree : P.Free r) (hr : P.Given r)
    (hitems : ∀ x ∈ items, P.Given x) : Safe P P.Given (withItems r items) :=
  .bind (setValue_safe hP hfree (P.carries_list.mpr hitems)) fun _ _ => .pure hr

theorem withBytes_safe {r : Ref} (bytes : List UInt8) (hfree : P.Free r) (hr : P.Given r) :
    Safe P P.Given (withBytes r bytes) :=
  .bind (setValue_safe hP hfree (P.carries_blob _)) fun _ _ => .pure hr

omit hP in
/-- An operation behind a check that its object is not locked. -/
theorem refuseLocked_safe {α : Type} {U : α → Prop} {r : Ref} {cause : Cause} {op : Op α} {h : Heap}
    (hh : P.Holds h) (hop : h.isLocked r = false → SafeAt P U op h) :
    SafeAt P U (refuseLocked r cause >>= fun _ => op) h :=
  .after (refuseLocked_reads r cause) hh fun _ hok => hop (unlocked_of_refuseLocked hok)

theorem typeOf_safe (r : Ref) : Safe P P.Given (typeOf r) :=
  .value hP fun _ _ => number_safe hP _

theorem len_safe (r : Ref) : Safe P P.Given (len r) := by
  refine .value hP fun v _ => ?_
  split
  · exact number_safe hP _
  · exact .after (.orFault _) fun _ => number_safe hP _
  · exact number_safe hP _
  · exact number_safe hP _
  · exact number_safe hP _
  · exact .fail _

theorem empty_safe (r : Ref) : Safe P P.Given (empty r) := by
  refine .value hP fun v _ => ?_
  cases v <;> exact truth_safe hP _

theorem add_safe {r item : Ref} (hr : P.Given r) (hitem : P.Given item) :
    Safe P P.Given (add r item) := by
  intro h hh
  have hcarries := hP.carries r hh
  refine .value ?_
  generalize hvalue : h.value r = v at hcarries
  split
  · rename_i items
    refine refuseLocked_safe hh fun hunlocked => ?_
    have hfree := hP.free hh hr (hP.list hh hvalue) hunlocked
    refine withItems_safe hP hfree hr ?_ h hh
    exact List.forall_mem_append.mpr ⟨hcarries, List.forall_mem_singleton.mpr hitem⟩
  · exact .after (toNumber_reads item) hh fun _ _ =>
      withBytes_safe hP _ (hP.freeBlob hh hr hvalue) hr h hh
  · exact .fail _ hh

omit hP in
theorem given_of_mem_insertAt {items : List Ref} (hitems : ∀ x ∈ items, P.Given x) {item : Ref}
    (hitem : P.Given item) (i : Nat) : ∀ x ∈ insertAt i item items, P.Given x := by
  intro x hx
  rcases List.mem_append.mp hx with hx | hx
  · exact hitems x (List.mem_of_mem_take hx)
  · rcases List.mem_cons.mp hx with rfl | hx
    · exact hitem
    · exact hitems x (List.mem_of_mem_drop hx)

theorem insert_safe {r item : Ref} (at_ : Option Ref) (hr : P.Given r) (hitem : P.Given item) :
    Safe P P.Given (insert r item at_) := by
  intro h hh
  have hcarries := hP.carries r hh
  refine .value ?_
  generalize hvalue : h.value r = v at hcarries
  split
  · rename_i items
    refine refuseLocked_safe hh fun hunlocked => .after (toNumberD_reads 0 at_) hh fun i _ => ?_
    have hfree := hP.free hh hr (hP.list hh hvalue) hunlocked
    have hstore : ∀ p, Safe P P.Given (withItems r (insertAt p item items)) := fun p =>
      withItems_safe hP hfree hr (given_of_mem_insertAt hcarries hitem p)
    dsimp only
    split
    · exact .after (.orFault _) hh fun _ _ => Safe.failBind _ _ h hh
    · exact hstore _ h hh
  · have hstore : ∀ bytes, Safe P P.Given (withBytes r bytes) := fun bytes =>
      withBytes_safe hP bytes (hP.freeBlob hh hr hvalue) hr
    refine .after (toNumberD_reads 0 at_) hh fun i _ =>
      .after (toNumber_reads item) hh fun n _ => ?_
    exact Safe.ite (.after (.faulty _) fun _ => hstore _) (hstore _) h hh
  · exact .fail _ hh

theorem extendEntries_safe (mode : ExtendMode) {r : Ref} (hr : P.Given r) (hdict : P.Container r) :
    ∀ entries : List (String × Ref), (∀ e ∈ entries, P.Given e.2) →
      Safe P (fun _ => True) (extendEntries mode r entries)
  | [], _ => .pure trivial
  | (key, value) :: rest, hentries => by
      obtain ⟨hvalue, hothers⟩ := List.forall_mem_cons.mp hentries
      have hrest := extendEntries_safe mode hr hdict rest hothers
      intro h hh
      rw [extendEntries]
      refine .get ?_
      rcases hheld : (h.table r).get? key with _ | held
      · -- a new key needs a Dictionary that is not locked
        refine refuseLocked_safe hh fun hfree => ?_
        exact (insertFree_safe hP (hP.free hh hr hdict hfree) key hvalue h hh).bind
          fun _ h₁ _ hh₁ _ => hrest h₁ hh₁
      · cases mode with
        | error => exact Safe.failBind _ _ h hh
        | keep => exact hrest h hh
        | force =>
            refine refuseLocked_safe hh fun hfree => ?_
            have hadmits : h.Admits r (h.table r) key := by
              rw [Heap.Admits, hheld]
              exact hfree
            exact (insertEntry_safe hP hh hr (Heap.value_of_get? hheld) hadmits hvalue).bind
              fun _ h₁ _ hh₁ _ => hrest h₁ hh₁

theorem extend_safe {r : Ref} (other : Ref) (how : Option Ref) (hr : P.Given r) :
    Safe P P.Given (extend r other how) := by
  intro h hh
  have hcarries := hP.carries r hh
  have hother := hP.carries other hh
  refine .value (.value ?_)
  generalize hvalue : h.value r = v at hcarries
  generalize h.value other = w at hother
  split
  · rename_i items more
    refine refuseLocked_safe hh fun hunlocked => ?_
    have hfree := hP.free hh hr (hP.list hh hvalue) hunlocked
    have hstore : ∀ result : List Ref, (∀ x ∈ result, x ∈ items ∨ x ∈ more) →
        Safe P P.Given (withItems r result) := fun result hresult =>
      withItems_safe hP hfree hr fun x hx =>
        (hresult x hx).elim (hcarries x) (hother x)
    cases how with
    | none => exact hstore _ (fun x hx => List.mem_append.mp hx) h hh
    | some e =>
        refine .after (toNumber_reads e) hh fun i _ => ?_
        dsimp only
        split
        · exact .after (.orFault _) hh fun _ _ => Safe.failBind _ _ h hh
        · refine hstore _ (fun x hx => ?_) h hh
          simp only [List.mem_append] at hx
          rcases hx with (hx | hx) | hx
          · exact .inl (List.mem_of_mem_take hx)
          · exact .inr hx
          · exact .inl (List.mem_of_mem_drop hx)
  · refine .after (toTextD_reads "force" how) hh fun mode _ => ?_
    split
    · exact .fail _ hh
    · have hdict := hP.dict hh hvalue
      refine (extendEntries_safe hP _ hr hdict _ (P.carries_dict.mp hother) h hh).bind ?_
      exact fun _ h₁ _ hh₁ _ => .pure hh₁ hr
  · exact .fail _ hh

theorem remove_safe {r : Ref} (key : Ref) (last : Option Ref) (hr : P.Given r) :
    Safe P P.Given (remove r key last) := by
  intro h hh
  have hcarries := hP.carries r hh
  refine .value ?_
  generalize hvalue : h.value r = v at hcarries
  split
  · rename_i items
    refine refuseLocked_safe hh fun hunlocked => .after (toNumber_reads key) hh fun i _ => ?_
    have hfree := hP.free hh hr (hP.list hh hvalue) hunlocked
    have hstore : ∀ result : List Ref, (∀ x ∈ result, x ∈ items) →
        Safe P (fun _ => True) (setValue r (.list result)) := fun result hresult =>
      setValue_safe hP hfree fun x hx => hcarries x (hresult x hx)
    split
    · exact .after (.orFault _) hh fun _ _ => .fail _ hh
    · rename_i p hp
      refine (hstore _ (fun x hx => List.mem_of_mem_eraseIdx hx) h hh).bind fun _ h₁ _ hh₁ _ => ?_
      refine .pure hh₁ ?_
      have hlt : p < items.length := (position?_eq_some_iff.mp hp).1
      rw [List.getD_eq_getElem?_getD, List.getElem?_eq_getElem hlt, Option.getD_some]
      exact hcarries _ (List.getElem_mem hlt)
    · refine .after (toNumber_reads _) hh fun j _ => ?_
      split
      · exact .after (.orFault _) hh fun _ _ => .fail _ hh
      · rename_i q hq
        dsimp only
        split
        · exact Safe.failBind _ _ h hh
        · refine Safe.bind (hstore _ fun x hx => ?_) (fun _ _ => list_safe hP fun x hx => ?_) h hh
          · rcases List.mem_append.mp hx with hx | hx
            · exact List.mem_of_mem_take hx
            · exact List.mem_of_mem_drop hx
          · simp only [segment] at hx
            split at hx
            · exact hcarries x (List.mem_of_mem_drop (List.mem_of_mem_take hx))
            · cases hx
  · rename_i t
    dsimp only
    split
    · exact Safe.failBind _ _ h hh
    · refine refuseLocked_safe hh fun hunlocked => .after (toText_reads key) hh fun k _ => ?_
      split
      · exact .fail _ hh
      · rename_i held hheld
        have hfree := hP.free hh hr (hP.dict hh hvalue) hunlocked
        have hstore := setValue_safe hP hfree (hcarries.erase k)
        exact (hstore h hh).bind fun _ h₁ _ hh₁ _ => .pure hh₁ (hcarries.get? hheld)
  · have hfree : P.Free r := hP.freeBlob hh hr hvalue
    refine .after (toNumber_reads key) hh fun i _ => ?_
    split
    · exact .after (.orFault _) hh fun _ _ => .fail _ hh
    · exact Safe.bind (setValue_safe hP hfree (P.carries_blob _)) (fun _ _ => number_safe hP _) h hh
  · exact .fail _ hh

theorem reverse_safe {r : Ref} (hr : P.Given r) : Safe P P.Given (reverse r) := by
  intro h hh
  have hcarries := hP.carries r hh
  refine .value ?_
  generalize hvalue : h.value r = v at hcarries
  split
  · rename_i items
    refine refuseLocked_safe hh fun hunlocked => ?_
    have hfree := hP.free hh hr (hP.list hh hvalue) hunlocked
    refine withItems_safe hP hfree hr ?_ h hh
    exact fun x hx => hcarries x (List.mem_reverse.mp hx)
  · exact withBytes_safe hP _ (hP.freeBlob hh hr hvalue) hr h hh
  · exact .fail _ hh

/-! ## Looking into containers -/

theorem funcrefPart_safe {f : Funcref} (hf : P.Carries (.funcref f)) (part : String)
    {fallback : Ref} (hfallback : P.Given fallback) :
    Safe P P.Given (funcrefPart f part fallback) := by
  unfold funcrefPart
  split
  · exact string_safe hP _
  · refine .bind (list_safe hP (by simp)) fun arguments harguments => alloc_safe hP ?_
    exact P.carries_funcref.mpr ⟨harguments, by rintro r ⟨⟩⟩
  · exact fun h hh => .get (list_safe hP (hP.items hh _) h hh)
  · refine .pure ?_
    rcases hself : f.self with _ | self
    · exact hfallback
    · exact (P.carries_funcref.mp hf).2 self hself
  · exact .fail _

omit hP in
theorem given_getD {found : Option Ref} {fallback : Ref} (hfound : ∀ r, found = some r → P.Given r)
    (hfallback : P.Given fallback) : P.Given (found.getD fallback) := by
  cases found with
  | none => exact hfallback
  | some r => exact hfound r rfl

theorem getItem_safe (r key : Ref) (default_ : Option Ref)
    (hdefault : ∀ d, default_ = some d → P.Given d) : Safe P P.Given (getItem r key default_) := by
  cases default_
  case' some d =>
    refine .bind (U := P.Given) (.pure (hdefault d rfl)) fun _ hfallback => .value hP fun v hv => ?_
  case' none =>
    refine .bind (number_safe hP 0) fun _ hfallback => .value hP fun v hv => ?_
  all_goals
    split
    · refine .after (toNumber_reads key) fun i => .pure (given_getD (fun x hx => ?_) hfallback)
      exact given_of_position (P.carries_list.mp hv) hx
    · refine .after (toNumber_reads key) fun i => ?_
      split
      · exact number_safe hP _
      · exact .pure hfallback
    · exact .after (toText_reads key) fun k => .pure (given_getD (fun x hx => hv.get? hx) hfallback)
    · exact .after (toText_reads key) fun _ => funcrefPart_safe hP hv _ hfallback
    · exact .fail _

theorem requireDict_safe (r : Ref) : Safe P (fun t => P.Carries (.dict t)) (requireDict r) := by
  refine .value hP fun v hv => ?_
  split
  · exact .pure hv
  · exact .fail _

theorem hasKey_safe (r key : Ref) : Safe P P.Given (hasKey r key) :=
  .bind (requireDict_safe hP r) fun _ _ => .after (toText_reads key) fun _ => truth_safe hP _

theorem keys_safe (r : Ref) : Safe P P.Given (keys r) :=
  .bind (requireDict_safe hP r) fun _ _ =>
    .bind (.mapM (string_safe hP) _) fun _ hitems => list_safe hP hitems

theorem values_safe (r : Ref) : Safe P P.Given (values r) :=
  .bind (requireDict_safe hP r) fun _ ht => list_safe hP ht

theorem pairs_safe : ∀ entries : List (String × Ref), (∀ e ∈ entries, P.Given e.2) →
    Safe P (fun pairs => ∀ r ∈ pairs, P.Given r)
      (entries.mapM fun (k, v) => do Op.list [← Op.string k, v])
  | [], _ => .pure (by simp)
  | (k, v) :: rest, hentries => by
      obtain ⟨hv, hrest⟩ := List.forall_mem_cons.mp hentries
      rw [List.mapM_cons]
      refine .bind (.bind (string_safe hP k) fun key hkey => list_safe hP ?_) fun pair hpair =>
        .bind (pairs_safe rest hrest) fun pairs hpairs => .pure ?_
      · exact List.forall_mem_cons.mpr ⟨hkey, List.forall_mem_singleton.mpr hv⟩
      · exact List.forall_mem_cons.mpr ⟨hpair, hpairs⟩

theorem items_safe (r : Ref) : Safe P P.Given (items r) :=
  .bind (requireDict_safe hP r) fun _ ht =>
    .bind (pairs_safe hP _ (P.carries_dict.mp ht)) fun _ hpairs => list_safe hP hpairs

theorem index_safe (r item : Ref) (start ignoreCase : Option Ref) :
    Safe P P.Given (index r item start ignoreCase) := by
  refine .after (toBoolD_reads ignoreCase) fun _ => .value hP fun v _ => ?_
  split
  · exact .after (toNumberD_reads 0 start) fun _ => .after (.reading _) fun _ => number_safe hP _
  · exact .after (toNumber_reads item) fun _ => .after (toNumberD_reads 0 start) fun _ =>
      .after (.result _) fun _ => number_safe hP _
  · exact .fail _

theorem count_safe (r item : Ref) (ignoreCase start : Option Ref) :
    Safe P P.Given (count r item ignoreCase start) := by
  have hcounted : ∀ f : Heap → Result Nat, Safe P P.Given (do Op.number (← Op.reading f)) :=
    fun f => .after (.reading f) fun _ => number_safe hP _
  refine .after (toBoolD_reads ignoreCase) fun _ => .value hP fun v _ => ?_
  split
  · refine .after (toNumberD_reads 0 start) fun i => .ite ?_ (hcounted _)
    exact .after (.orFault _) fun _ => .failBind _ _
  · exact hcounted _
  · exact .after (toText_reads item) fun _ => number_safe hP _
  · exact .fail _

/-! ## Places and Funcrefs -/

theorem follow_safe : ∀ (r : Ref) (steps : List Accessor), P.Given r →
    Safe P P.Given (follow r steps)
  | _, [], hr => .pure hr
  | _, .key name :: rest, hr =>
      .bind (string_safe hP name) fun _ _ => .bind (Op.index_safe hP _ hr) fun next hnext =>
        follow_safe next rest hnext
  | _, .index n _ :: rest, hr =>
      .after (.orFault _) fun _ => .bind (number_safe hP n) fun _ _ =>
        .bind (Op.index_safe hP _ hr) fun next hnext => follow_safe next rest hnext

theorem listArgument_safe (r : Option Ref) :
    Safe P (fun found => ∀ items, found = some items → ∀ x ∈ items, P.Given x)
      (listArgument r) := by
  cases r with
  | none => exact .pure (by rintro items ⟨⟩)
  | some r =>
      refine .value hP fun v hv => ?_
      split
      · refine .pure ?_
        rintro items ⟨⟩
        exact P.carries_list.mp hv
      · exact .fail _

theorem funcrefOptions_safe {arguments self : Option Ref}
    (harguments : ∀ r, arguments = some r → P.Given r) (hself : ∀ r, self = some r → P.Given r) :
    Safe P (fun options => ∀ r, options.2 = some r → P.Given r)
      (funcrefOptions arguments self) := by
  unfold funcrefOptions
  split
  · refine .value hP fun v _ => ?_
    split
    · exact .pure (by rintro r ⟨⟩; exact harguments _ rfl)
    · exact .pure (by rintro r ⟨⟩)
  · exact .pure hself

end Vimscript.Library
