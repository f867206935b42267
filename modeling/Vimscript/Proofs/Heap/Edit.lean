import Vimscript.Eval.Unlet
import Vimscript.Heap.Copy
import Vimscript.Proofs.Heap.Policy

/-!
# Changing objects under a policy

Assigning and removing items, and copying. What these operations do to an
object is one of the changes that `Policy.Lawful` lists, but the check that
allows it is sometimes made in an earlier heap than the change: between the
two, the value to be stored may have been computed, and that extends a List
in place or makes new objects. `Heap.Joined` says how little this does to
the objects that were there: locks and Dictionaries are as before, and a
List has at most grown at its end. So an item that was found at a position
is still the item at that position when it is replaced, even if the List
contains itself and is the one that has grown.
-/

namespace Vimscript

/-! ## Lists that have grown at their ends -/

/-- Every object is as it was, but for Lists that have more items at the end. -/
structure Heap.Joined (h h' : Heap) : Prop where
  isLocked (r : Ref) : h'.isLocked r = h.isLocked r
  dict (r : Ref) (t : Table) : h.value r = .dict t → h'.value r = .dict t
  list (r : Ref) (items : List Ref) : h.value r = .list items →
    ∃ more, h'.value r = .list (items ++ more)

namespace Heap

theorem value_of_size_le {h : Heap} {r : Ref} (hr : h.size ≤ r.index) : h.value r = .number 0 := by
  rw [value, cell, Array.getD_eq_getD_getElem?, Array.getElem?_eq_none hr]
  rfl

theorem isLocked_of_size_le {h : Heap} {r : Ref} (hr : h.size ≤ r.index) :
    h.isLocked r = false := by
  rw [isLocked, cell, Array.getD_eq_getD_getElem?, Array.getElem?_eq_none hr]
  rfl

theorem index_lt_of_dict {h : Heap} {r : Ref} {t : Table} (hr : h.value r = .dict t) :
    r.index < h.size := by
  refine Nat.lt_of_not_le fun hout => ?_
  rw [value_of_size_le hout] at hr
  cases hr

theorem index_lt_of_isLocked {h : Heap} {r : Ref} (hr : h.isLocked r = true) :
    r.index < h.size := by
  refine Nat.lt_of_not_le fun hout => ?_
  rw [isLocked_of_size_le hout] at hr
  cases hr

theorem items_of_list {h : Heap} {r : Ref} {items : List Ref} (hr : h.value r = .list items) :
    h.items r = items := by
  rw [Heap.items, hr]

theorem table_of_dict {h : Heap} {r : Ref} {t : Table} (hr : h.value r = .dict t) :
    h.table r = t := by
  rw [table, hr]

/-- Only a Dictionary has entries. -/
theorem value_of_get? {h : Heap} {r value : Ref} {key : String}
    (hget : (h.table r).get? key = some value) : h.value r = .dict (h.table r) := by
  unfold table at hget ⊢
  split at hget
  · rename_i t ht
    rw [ht]
  · cases hget

/-- Only a List has items. -/
theorem value_of_getElem? {h : Heap} {r item : Ref} {i : Nat}
    (hget : (h.items r)[i]? = some item) : h.value r = .list (h.items r) := by
  unfold Heap.items at hget ⊢
  split at hget
  · rename_i items hitems
    rw [hitems]
  · simp at hget

theorem isLocked_alloc (h : Heap) (v : Value) (r : Ref) :
    (h.alloc v).2.isLocked r = h.isLocked r := by
  rw [isLocked, cell_alloc]
  split
  · rename_i hr
    subst hr
    exact (isLocked_of_size_le (Nat.le_refl _)).symm
  · rfl

theorem value_alloc_of_lt (h : Heap) (v : Value) {r : Ref} (hr : r.index < h.size) :
    (h.alloc v).2.value r = h.value r :=
  (kept_extending.alloc h v).value hr

theorem joined_extending : Heap.Extending Heap.Joined where
  refl h := ⟨fun _ => rfl, fun _ _ hr => hr, fun _ items hr => ⟨[], by rw [List.append_nil, hr]⟩⟩
  trans h₁₂ h₂₃ :=
    { isLocked := fun r => (h₂₃.isLocked r).trans (h₁₂.isLocked r)
      dict := fun r t hr => h₂₃.dict r t (h₁₂.dict r t hr)
      list := by
        intro r items hr
        obtain ⟨more, hmore⟩ := h₁₂.list r items hr
        obtain ⟨further, hfurther⟩ := h₂₃.list r _ hmore
        exact ⟨more ++ further, by rw [hfurther, List.append_assoc]⟩ }
  alloc h v :=
    { isLocked := isLocked_alloc h v
      dict := fun r t hr => (value_alloc_of_lt h v (index_lt_of_dict hr)).trans hr
      list := fun r items hr =>
        ⟨[], by rw [List.append_nil, value_alloc_of_lt h v (index_lt_of_list hr), hr]⟩ }

theorem joined_extended {h : Heap} {current : Ref} {items added : List Ref}
    (hcurrent : h.value current = .list items) :
    h.Joined (h.setValue current (.list (items ++ added))) where
  isLocked r := isLocked_setValue h _ current r
  dict r t hr := by
    have hne : r ≠ current := by
      rintro rfl
      rw [hr] at hcurrent
      cases hcurrent
    rw [value, cell_setValue_of_ne h _ hne]
    exact hr
  list r others hr := by
    by_cases hrc : r = current
    · subst hrc
      rw [hr] at hcurrent
      cases hcurrent
      exact ⟨added, value_setValue h _ (index_lt_of_list hr)⟩
    · refine ⟨[], ?_⟩
      rw [value, cell_setValue_of_ne h _ hrc, List.append_nil]
      exact hr

end Heap

namespace Op

theorem combine_joined (op : Arith) (current value : Ref) (what : String) :
    Keeps Heap.Joined (combine op current value what) := by
  intro h
  unfold combine
  rw [bind_of_ok (value_eq current h), bind_of_ok (value_eq value h)]
  generalize hleft : h.value current = left
  generalize h.value value = right
  split
  · rw [bind_of_ok (isLocked_eq current h)]
    rcases h.isLocked current with _ | _
    · rename_i items added
      have hextended : h.Joined (h.setValue current (.list (items ++ added))) :=
        Heap.joined_extended hleft
      rw [← Heap.items_of_list hleft] at hextended
      exact hextended
    · exact Heap.joined_extending.refl h
  · exact arith_keeps Heap.joined_extending op current value h

theorem combined_joined (op : LetOp) (current value : Ref) (what : String) :
    Keeps Heap.Joined (combined op current value what) := by
  cases op with
  | set => exact .pure Heap.joined_extending value
  | update op => exact combine_joined op current value what

theorem adopted_joined (isDict : Callee → Bool) (dict value : Ref) :
    Keeps Heap.Joined (adopted isDict dict value) := by
  have hH := Heap.joined_extending
  refine .bind hH (value_keeps hH value) fun v => ?_
  split
  · split
    · exact alloc_keeps hH _
    · exact .pure hH value
  · exact .pure hH value

/-- How an operation has led from one heap to another. -/
theorem Keeps.of_eq {α : Type} {H : Heap → Heap → Prop} {op : Op α} (hop : Keeps H op)
    {h h' : Heap} {r : Except Stop α} (hout : op h = (r, h')) : H h h' := by
  have hh := hop h
  rw [hout] at hh
  exact hh

variable {P : Policy} (hP : P.Lawful)
include hP

/-! ## Changing one object -/

theorem setValue_safe {r : Ref} {v : Value} (hr : P.Free r) (hv : P.Carries v) :
    Safe P (fun _ => True) (setValue r v) :=
  fun _ hh => ⟨hP.replace hh hr hv, fun _ _ => trivial⟩

theorem extendList_safe {r : Ref} {items : List Ref} (hr : P.Free r)
    (hitems : ∀ x ∈ items, P.Given x) : Safe P (fun _ => True) (extendList r items) := by
  intro _ hh
  refine ⟨hP.replace hh hr ?_, fun _ _ => trivial⟩
  exact P.carries_list.mpr (List.forall_mem_append.mpr ⟨hP.items hh r, hitems⟩)

/-- Puts an entry into a Dictionary that may be replaced altogether. -/
theorem insertFree_safe {dict value : Ref} (hdict : P.Free dict) (key : String)
    (hvalue : P.Given value) :
    Safe P (fun _ => True) (modify fun h => h.modifyTable dict (·.insert key value)) :=
  fun _ hh => ⟨hP.replace hh hdict ((hP.table hh dict).insert key hvalue), fun _ _ => trivial⟩

theorem insertEntry_safe {h : Heap} {dict value : Ref} {t : Table} {key : String}
    (hh : P.Holds h) (hdict : P.Given dict) (ht : h.value dict = .dict t)
    (hadmits : h.Admits dict t key) (hvalue : P.Given value) :
    SafeAt P (fun _ => True) (modify fun h => h.modifyTable dict (·.insert key value)) h := by
  refine ⟨?_, fun _ _ => trivial⟩
  change P.Holds (h.setValue dict (.dict ((h.table dict).insert key value)))
  rw [Heap.table_of_dict ht]
  exact hP.setEntry hh hdict ht hadmits hvalue

theorem setItem_safe {h : Heap} {list item value : Ref} {items : List Ref} {i : Nat}
    (hh : P.Holds h) (hlist : P.Given list) (hitems : h.value list = .list items)
    (hitem : items[i]? = some item) (hfree : h.isLocked item = false) (hvalue : P.Given value) :
    SafeAt P (fun _ => True) (setItem list i value) h := by
  refine ⟨?_, fun _ _ => trivial⟩
  change P.Holds (h.setValue list (.list ((h.items list).set i value)))
  rw [Heap.items_of_list hitems]
  exact hP.setItem hh hlist hitems hitem hfree hvalue

/-! ## Assigning items -/

theorem combine_safe (op : Arith) {current : Ref} (value : Ref) (what : String)
    (hcurrent : P.Given current) : Safe P P.Given (combine op current value what) := by
  intro h hh
  refine .value (.value ?_)
  have hvalue := hP.carries value hh
  generalize hleft : h.value current = left
  generalize h.value value = right at hvalue
  split
  · refine .unlocked hh fun hunlocked => ?_
    have hfree := hP.free hh hcurrent (hP.list hh hleft) hunlocked
    have hextend := extendList_safe hP hfree (P.carries_list.mp hvalue)
    exact (hextend h hh).bind fun _ h' _ hh' _ => .pure hh' hcurrent
  · exact arith_safe hP op current value h hh

theorem combined_safe (op : LetOp) {current value : Ref} (what : String)
    (hcurrent : P.Given current) (hvalue : P.Given value) :
    Safe P P.Given (combined op current value what) := by
  cases op with
  | set => exact .pure hvalue
  | update op => exact combine_safe hP op value what hcurrent

theorem adopted_safe (isDict : Callee → Bool) {dict value : Ref} (hdict : P.Given dict)
    (hvalue : P.Given value) : Safe P P.Given (adopted isDict dict value) := by
  refine .value hP fun v hv => ?_
  split
  · split
    · refine alloc_safe hP (P.carries_funcref.mpr ⟨(P.carries_funcref.mp hv).1, ?_⟩)
      rintro self ⟨⟩
      exact hdict
    · exact .pure hvalue
  · exact .pure hvalue

theorem assignEntry_safe (isDict : Callee → Bool) {dict value : Ref} (key : String) (op : LetOp)
    (hdict : P.Given dict) (hcontainer : P.Container dict) (hvalue : P.Given value) :
    Safe P (fun _ => True) (assignEntry isDict dict key op value) := by
  intro h hh
  refine .get ?_
  rcases hcurrent : (h.table dict).get? key with _ | current
  · cases op with
    | update op => exact .fail _ hh
    | set =>
        refine .unlocked hh fun hfree => ?_
        refine (adopted_safe hP isDict hdict hvalue h hh).bind fun value h₁ _ hh₁ hvalue => ?_
        exact insertFree_safe hP (hP.free hh hdict hcontainer hfree) key hvalue h₁ hh₁
  · have hdictValue := Heap.value_of_get? hcurrent
    have hgiven : P.Given current := (hP.table hh dict).get? hcurrent
    refine (combined_safe hP op key hgiven hvalue h hh).bind fun value h₁ hcombined hh₁ hvalue => ?_
    refine .unlocked hh₁ fun hfree => ?_
    refine (adopted_safe hP isDict hdict hvalue h₁ hh₁).bind fun value h₂ hadopted hh₂ hvalue => ?_
    -- neither combining nor adopting touches the Dictionary or the lock of the entry
    have hjoined := Heap.joined_extending.trans ((combined_joined op current _ key).of_eq hcombined)
      ((adopted_joined isDict dict _).of_eq hadopted)
    refine insertEntry_safe hP hh₂ hdict (hjoined.dict dict _ hdictValue) ?_ hvalue
    rw [Heap.Admits, hcurrent]
    exact ((adopted_joined isDict dict _).of_eq hadopted |>.isLocked current).trans hfree

theorem assignItem_safe (isDict : Callee → Bool) {container value : Ref} (key : Ref) (op : LetOp)
    (hcontainer : P.Given container) (hvalue : P.Given value) :
    Safe P (fun _ => True) (assignItem isDict container key op value) := by
  intro h hh
  refine .value ?_
  split
  · rename_i t ht
    exact .after (toText_reads key) hh fun k _ =>
      assignEntry_safe hP isDict k op hcontainer (hP.dict hh ht) hvalue h hh
  · rename_i items hitems
    refine .after (toNumber_reads key) hh fun i _ => ?_
    split
    · exact .after (.orFault _) hh fun _ _ => .fail _ hh
    · rename_i p hp
      have hlt : p < items.length := (position?_eq_some_iff.mp hp).1
      obtain ⟨current, hcurrent⟩ : ∃ current, items[p]? = some current :=
        ⟨_, List.getElem?_eq_getElem hlt⟩
      have hcarries := hP.carries container hh
      rw [hitems] at hcarries
      have hgiven : P.Given current :=
        P.carries_list.mp hcarries current (List.mem_of_getElem? hcurrent)
      rw [List.getD_eq_getElem?_getD, hcurrent, Option.getD_some]
      refine (combined_safe hP op _ hgiven hvalue h hh).bind fun value h₁ hcombined hh₁ hvalue => ?_
      refine .unlocked hh₁ fun hfree => ?_
      -- the List may contain itself and have grown, but not before its old end
      obtain ⟨more, hmore⟩ := ((combined_joined op current _ _).of_eq hcombined).list _ _ hitems
      refine setItem_safe hP hh₁ hcontainer hmore ?_ hfree hvalue
      rw [List.getElem?_append_left hlt, hcurrent]
  · rename_i bytes hbytes
    have hfree : P.Free container := hP.freeBlob hh hcontainer hbytes
    refine .after (toNumber_reads key) hh fun i _ => ?_
    split
    · exact .after (.orFault _) hh fun _ _ => .fail _ hh
    · have hstore : ∀ (f : Int → List UInt8) (value : Ref), Safe P (fun _ => True)
          (toNumber value >>= fun n => setValue container (.blob (f n))) := fun f value =>
        .after (toNumber_reads value) fun _ => setValue_safe hP hfree (P.carries_blob _)
      split
      · exact hstore _ value h hh
      · refine Safe.bind (number_safe hP _) (fun r hr => ?_) h hh
        exact .bind (combine_safe hP _ value _ hr) fun value _ => hstore _ value
  · exact .fail _ hh

theorem assignRun_safe {container : Ref} (hcontainer : P.Given container)
    (hlist : P.Container container) (op : LetOp) (length : Nat) :
    ∀ (i : Nat) (items : List Ref), (∀ x ∈ items, P.Given x) →
      Safe P (fun _ => True) (assignRun container op length i items)
  | _, [], _ => .pure trivial
  | i, item :: rest, hitems => by
      obtain ⟨hitem, hothers⟩ := List.forall_mem_cons.mp hitems
      have hrest := assignRun_safe hcontainer hlist op length (i + 1) rest hothers
      intro h hh
      rw [assignRun]
      split
      · refine .get ?_
        split
        · exact .after (.faulty _) hh fun _ _ => hrest h hh
        · rename_i current hcurrent
          have hitems := Heap.value_of_getElem? hcurrent
          have hgiven : P.Given current :=
            hP.items hh container current (List.mem_of_getElem? hcurrent)
          refine .unlocked hh fun hfree => ?_
          refine (combined_safe hP op _ hgiven hitem h hh).bind
            fun value h₁ hcombined hh₁ hvalue => ?_
          have hjoined := (combined_joined op current _ _).of_eq hcombined
          obtain ⟨more, hmore⟩ := hjoined.list _ _ hitems
          refine (setItem_safe hP hh₁ hcontainer hmore ?_ ((hjoined.isLocked current).trans hfree)
            hvalue).bind fun _ h₂ _ hh₂ _ => hrest h₂ hh₂
          have hlt := (List.getElem?_eq_some_iff.mp hcurrent).1
          rw [List.getElem?_append_left hlt, hcurrent]
      · refine .unlocked hh fun hfree => ?_
        refine (extendList_safe hP (hP.free hh hcontainer hlist hfree) ?_ h hh).bind
          fun _ h₁ _ hh₁ _ => hrest h₁ hh₁
        exact List.forall_mem_singleton.mpr hitem

/-! ## Removing items -/

theorem unletItem_safe {container : Ref} (key : Ref) (bang : Bool)
    (hcontainer : P.Given container) :
    Safe P (fun _ => True) (unletItem container key bang) := by
  intro h hh
  refine .value ?_
  split
  · rename_i t ht
    refine .after (toText_reads key) hh fun k _ => ?_
    split
    · cases bang
      · exact .fail _ hh
      · exact .pure hh trivial
    · rename_i held hheld
      have hcarries := hP.carries container hh
      rw [ht] at hcarries
      refine .after (isLocked_reads container) hh fun locked hlocked => ?_
      refine .after (isLocked_reads held) hh fun heldLocked _ => ?_
      rcases hcontainerLocked : locked with _ | _
      · cases heldLocked
        · have hfree : h.isLocked container = false := by
            cases hlocked
            exact hcontainerLocked
          have hfree := hP.free hh hcontainer (hP.dict hh ht) hfree
          exact setValue_safe hP hfree (hcarries.erase k) h hh
        · exact ⟨hh, by rintro b ⟨⟩⟩
      · exact ⟨hh, by rintro b ⟨⟩⟩
  · rename_i items hitems
    refine .after (toNumber_reads key) hh fun i _ => ?_
    split
    · exact .after (.orFault _) hh fun _ _ => .fail _ hh
    · rename_i p hp
      have hcarries := hP.carries container hh
      rw [hitems] at hcarries
      refine .unlocked hh fun hunlocked => ?_
      have hfree := hP.free hh hcontainer (hP.list hh hitems) hunlocked
      refine setValue_safe hP hfree ?_ h hh
      exact P.carries_list.mpr fun x hx =>
        P.carries_list.mp hcarries x (List.mem_of_mem_eraseIdx hx)
  · exact .fail _ hh

/-! ## Copies -/

/-- The copies that have been made are given. -/
def CopiesGiven (P : Policy) (c : Copying) : Prop := ∀ p ∈ c.memo, P.Given p.2

omit hP in
theorem known?_given {c : Copying} (hc : CopiesGiven P c) {r copy : Ref}
    (hknown : c.known? r = some copy) : P.Given copy := by
  obtain ⟨p, hp, rfl⟩ := Option.map_eq_some_iff.mp hknown
  exact hc p (List.mem_of_find?_eq_some hp)

theorem copyTo_safe : ∀ (level : Nat) (r : Ref) (c : Copying), P.Holds c.heap → CopiesGiven P c →
    P.Given r → P.Holds (copyTo level r c).2.heap ∧ CopiesGiven P (copyTo level r c).2 ∧
      P.Given (copyTo level r c).1
  | 0, r, c, hh, hc, hr => ⟨hh, hc, hr⟩
  | level + 1, r, c, hh, hc, hr => by
      have hall : ∀ (items : List Ref) (c : Copying), P.Holds c.heap → CopiesGiven P c →
          (∀ x ∈ items, P.Given x) →
          P.Holds (mapThread (copyTo level) items c).2.heap ∧
            CopiesGiven P (mapThread (copyTo level) items c).2 ∧
            ∀ x ∈ (mapThread (copyTo level) items c).1, P.Given x := by
        intro items
        induction items with
        | nil => exact fun c hh hc _ => ⟨hh, hc, by simp [mapThread]⟩
        | cons item rest ih =>
            intro c hh hc hitems
            obtain ⟨hitem, hrest⟩ := List.forall_mem_cons.mp hitems
            obtain ⟨hh₁, hc₁, hcopy⟩ := copyTo_safe level item c hh hc hitem
            obtain ⟨hh₂, hc₂, hcopies⟩ := ih _ hh₁ hc₁ hrest
            exact ⟨hh₂, hc₂, List.forall_mem_cons.mpr ⟨hcopy, hcopies⟩⟩
      have hstart : ∀ v, P.Carries v → P.Holds (c.start r v).2.heap ∧
          CopiesGiven P (c.start r v).2 ∧ P.Given (c.start r v).1 ∧ P.Free (c.start r v).1 := by
        intro v hv
        obtain ⟨hholds, hgiven, hfree⟩ := hP.alloc hh hv
        exact ⟨hholds, List.forall_mem_cons.mpr ⟨hgiven, hc⟩, hgiven, hfree⟩
      have hcarries := hP.carries r hh
      rw [copyTo]
      split
      · rename_i items hvalue
        rw [hvalue] at hcarries
        split
        · rename_i copy hknown
          exact ⟨hh, hc, known?_given hc hknown⟩
        · obtain ⟨hh₁, hc₁, hgiven, hfree⟩ := hstart (.list []) (P.carries_list.mpr (by simp))
          obtain ⟨hh₂, hc₂, hcopies⟩ := hall items _ hh₁ hc₁ (P.carries_list.mp hcarries)
          exact ⟨hP.replace hh₂ hfree (P.carries_list.mpr hcopies), hc₂, hgiven⟩
      · rename_i t hvalue
        rw [hvalue] at hcarries
        split
        · rename_i copy hknown
          exact ⟨hh, hc, known?_given hc hknown⟩
        · obtain ⟨hh₁, hc₁, hgiven, hfree⟩ := hstart (.dict {}) (P.carries_dict.mpr (by simp))
          obtain ⟨hh₂, hc₂, hcopies⟩ := hall t.values _ hh₁ hc₁ hcarries
          refine ⟨hP.replace hh₂ hfree (P.carries_dict.mpr fun e he => ?_), hc₂, hgiven⟩
          exact hcopies e.2 (List.of_mem_zip he).2
      · obtain ⟨hholds, hgiven, -⟩ := hP.alloc hh hcarries
        exact ⟨hholds, hc, hgiven⟩

theorem copy_safe (level : Int) {r : Ref} (hr : P.Given r) : Safe P P.Given (copy level r) := by
  intro h hh
  obtain ⟨hholds, -, hgiven⟩ :=
    copyTo_safe hP level.toNat r { heap := h } hh (by simp [CopiesGiven]) hr
  refine ⟨hholds, ?_⟩
  rintro copy ⟨⟩
  exact hgiven

end Op

end Vimscript
