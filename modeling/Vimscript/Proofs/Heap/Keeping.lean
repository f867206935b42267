import Vimscript.Eval.Unlet
import Vimscript.Heap.Copy

/-!
# What operations on the heap keep

An operation reads objects, makes new ones and changes what is there; it
may stop short at any point, and what it did before that remains. Some
facts about the heap survive all of it. `Op.Keeps H` says that the heap
before an operation and the heap after it, however the operation ended,
stand in the relation `H`.

What `H` must allow is said once, in two steps. `Heap.Extending H`: it is
a preorder that allows a new object. `Heap.Mutating H`: it also allows
that the value or the lock flag of any object is replaced. An operation
that only reads and makes objects keeps every extending relation; all
others keep every mutating one. The lemmas below go through the
operations in the order of the modules that define them.

The mutating relation of use is `Heap.Grows`: the heap never shrinks, so
that an object once made is there from then on. The extending one is
`Heap.Kept`: no object that was there has changed.
-/

namespace Vimscript

/-! ## Relations between heaps -/

/-- A preorder between heaps that allows a new object. -/
structure Heap.Extending (H : Heap → Heap → Prop) : Prop where
  refl (h : Heap) : H h h
  trans {h₁ h₂ h₃ : Heap} : H h₁ h₂ → H h₂ h₃ → H h₁ h₃
  alloc (h : Heap) (v : Value) : H h (h.alloc v).2

/-- A preorder between heaps that also allows any change to an object. -/
structure Heap.Mutating (H : Heap → Heap → Prop) : Prop extends Heap.Extending H where
  setValue (h : Heap) (r : Ref) (v : Value) : H h (h.setValue r v)
  setLocked (h : Heap) (r : Ref) (b : Bool) : H h (h.setLocked r b)

/-- Every object of the first heap is one of the second. -/
def Heap.Grows (h h' : Heap) : Prop := h.size ≤ h'.size

theorem Heap.grows_mutating : Heap.Mutating Heap.Grows where
  refl _ := Nat.le_refl _
  trans := Nat.le_trans
  alloc h v := by rw [Grows, size_alloc]; exact Nat.le_succ _
  setValue h r v := Nat.le_of_eq (h.size_setValue r v).symm
  setLocked h r b := by simp [Grows, size, Heap.setLocked]

theorem Heap.grows_extending : Heap.Extending Heap.Grows := grows_mutating.toExtending

/-- Every object of the first heap is one of the second, and as it was. -/
structure Heap.Kept (h h' : Heap) : Prop where
  size : h.size ≤ h'.size
  cell (r : Ref) : r.index < h.size → h'.cell r = h.cell r

theorem Heap.kept_extending : Heap.Extending Heap.Kept where
  refl h := ⟨Nat.le_refl _, fun _ _ => rfl⟩
  trans h₁₂ h₂₃ :=
    { size := Nat.le_trans h₁₂.size h₂₃.size
      cell := fun r hr =>
        (h₂₃.cell r (Nat.lt_of_lt_of_le hr h₁₂.size)).trans (h₁₂.cell r hr) }
  alloc h v :=
    { size := by rw [size_alloc]; exact Nat.le_succ _
      cell := by
        rintro r hr
        rw [cell_alloc, if_neg]
        rintro rfl
        exact Nat.lt_irrefl _ hr }

theorem Heap.Kept.value {h h' : Heap} (hk : h.Kept h') {r : Ref} (hr : r.index < h.size) :
    h'.value r = h.value r := congrArg Cell.value (hk.cell r hr)

/-- The heap before an operation and the heap after it stand in a relation,
whichever way the operation ends. -/
def Op.Keeps (H : Heap → Heap → Prop) {α : Type} (op : Op α) : Prop :=
  ∀ h, H h (op h).2

namespace Op

variable {H : Heap → Heap → Prop} {α β : Type}

/-! ## Composition -/

section Extending

variable (hH : Heap.Extending H)
include hH

theorem Keeps.pure (a : α) : Keeps H (pure a : Op α) := hH.refl

theorem Keeps.bind {op : Op α} {f : α → Op β} (hop : Keeps H op)
    (hf : ∀ a, Keeps H (f a)) : Keeps H (op >>= f) := by
  intro h
  have h₁ := hop h
  change H h (ExceptT.bindCont f (op h).1 (op h).2).2
  generalize op h = out at h₁ ⊢
  obtain ⟨_ | a, h'⟩ := out
  · exact h₁
  · exact hH.trans h₁ (hf a h')

theorem Keeps.throw (stop : Stop) : Keeps H (throw stop : Op α) := hH.refl

theorem Keeps.fail (c : Cause) : Keeps H (fail c : Op α) := hH.refl

theorem Keeps.faulty (f : Fault) : Keeps H (faulty f : Op α) := hH.refl

theorem Keeps.result (r : Result α) : Keeps H (liftM r : Op α) := hH.refl

theorem Keeps.orFault (r : Except Fault α) : Keeps H (orFault r : Op α) := by
  cases r <;> exact hH.refl

theorem Keeps.get : Keeps H (get : Op Heap) := hH.refl

omit hH in
theorem Keeps.ite {p : Prop} [Decidable p] {op op' : Op α} (hop : Keeps H op)
    (hop' : Keeps H op') : Keeps H (if p then op else op') := by
  split
  · exact hop
  · exact hop'

/-- A check that fails in front of an operation. -/
theorem Keeps.failIf {p : Prop} [Decidable p] {c : Cause} {op : Op α} (hop : Keeps H op) :
    Keeps H (if p then (Vimscript.fail c : Op Unit) >>= fun _ => op else op) :=
  .ite (.bind hH (.fail hH c) fun _ => hop) hop

theorem Keeps.reading (f : Heap → Result α) : Keeps H (reading f) := by
  refine .bind hH (.get hH) fun h => ?_
  cases f h with
  | ok a => exact .pure hH a
  | error stop => exact .throw hH stop

theorem Keeps.mapM {f : α → Op β} (hf : ∀ a, Keeps H (f a)) :
    ∀ items : List α, Keeps H (items.mapM f)
  | [] => .pure hH _
  | a :: rest => by
      rw [List.mapM_cons]
      exact .bind hH (hf a) fun _ => .bind hH (.mapM hf rest) fun _ => .pure hH _

/-! ## Making and reading objects -/

theorem alloc_keeps (v : Value) : Keeps H (alloc v) := fun h => hH.alloc h v

theorem number_keeps (n : Int) : Keeps H (number n) := alloc_keeps hH _

theorem string_keeps (s : String) : Keeps H (string s) := alloc_keeps hH _

theorem list_keeps (items : List Ref) : Keeps H (list items) := alloc_keeps hH _

theorem truth_keeps (b : Bool) : Keeps H (truth b) := alloc_keeps hH _

theorem value_keeps (r : Ref) : Keeps H (value r) := hH.refl

theorem isLocked_keeps (r : Ref) : Keeps H (isLocked r) := hH.refl

theorem toNumber_keeps (r : Ref) : Keeps H (toNumber r) := hH.refl

theorem toText_keeps (r : Ref) : Keeps H (toText r) := hH.refl

theorem toBool_keeps (r : Ref) : Keeps H (toBool r) := hH.refl

theorem toNumberD_keeps (n : Int) : ∀ r : Option Ref, Keeps H (toNumberD n r)
  | some _ | none => hH.refl

theorem toTextD_keeps (s : String) : ∀ r : Option Ref, Keeps H (toTextD s r)
  | some _ | none => hH.refl

theorem toBoolD_keeps : ∀ r : Option Ref, Keeps H (toBoolD r)
  | some _ | none => hH.refl

/-! ## Plain data -/

mutual

theorem ofData_keeps : ∀ d : Data, Keeps H (ofData d)
  | .null | .bool _ | .int _ | .float _ | .text _ | .bytes _ => by
      rw [ofData]; exact alloc_keeps hH _
  | .list items => by
      rw [ofData]
      exact .bind hH (ofItems_keeps items) fun _ => list_keeps hH _
  | .map entries => by
      rw [ofData]
      exact .bind hH (ofEntries_keeps [] entries) fun _ => alloc_keeps hH _
  | .foreign => by rw [ofData]; exact .faulty hH _

theorem ofItems_keeps : ∀ items : List Data, Keeps H (ofItems items)
  | [] => by rw [ofItems]; exact .pure hH _
  | d :: rest => by
      rw [ofItems]
      exact .bind hH (ofData_keeps d) fun _ => .bind hH (ofItems_keeps rest) fun _ => .pure hH _

theorem ofEntries_keeps (made : Entries Ref) :
    ∀ entries : List (Key × Data), Keeps H (ofEntries made entries)
  | [] => by rw [ofEntries]; exact .pure hH _
  | (.text k, d) :: rest => by
      rw [ofEntries]
      exact .bind hH (ofData_keeps d) fun _ => ofEntries_keeps _ rest
  | (.null, _) :: _ | (.bool _, _) :: _ | (.int _, _) :: _ | (.float _, _) :: _ => by
      rw [ofEntries]
      · exact .faulty hH _
      · exact fun _ => nofun

end

theorem toData_keeps (r : Ref) : Keeps H (toData r) := by
  refine .bind hH (.get hH) fun h => ?_
  cases h.toData r with
  | ok d => exact .pure hH d
  | error f => exact .faulty hH f

/-! ## Operators -/

theorem arith_keeps (op : Arith) (a b : Ref) : Keeps H (op.apply a b) :=
  .bind hH (value_keeps hH a) fun _ => .bind hH (value_keeps hH b) fun _ =>
    .bind hH (.result hH _) fun _ => alloc_keeps hH _

theorem binary_keeps (m : Option Matcher) (op : BinaryOp) (a b : Ref) :
    Keeps H (op.apply m a b) := by
  cases op with
  | arith op => exact arith_keeps hH op a b
  | compare relation rule => exact .bind hH (.reading hH _) fun _ => truth_keeps hH _
  | both =>
      refine .bind hH (toBool_keeps hH a) fun holds => ?_
      cases holds with
      | true => exact .bind hH (toBool_keeps hH b) fun _ => truth_keeps hH _
      | false => exact truth_keeps hH _
  | either =>
      refine .bind hH (toBool_keeps hH a) fun holds => ?_
      cases holds with
      | true => exact truth_keeps hH _
      | false => exact .bind hH (toBool_keeps hH b) fun _ => truth_keeps hH _

theorem unary_keeps (op : UnaryOp) (a : Ref) : Keeps H (op.apply a) := by
  refine .bind hH (value_keeps hH a) fun v => ?_
  split
  · exact .bind hH (.result hH _) fun _ => truth_keeps hH _
  · exact alloc_keeps hH _
  · exact .bind hH (.result hH _) fun _ => number_keeps hH _
  · exact .pure hH a
  · exact .pure hH a
  · exact .bind hH (.result hH _) fun _ => number_keeps hH _

/-! ## Items and slices -/

theorem boundTo_keeps (dict r : Ref) : Keeps H (boundTo dict r) := by
  refine .bind hH (value_keeps hH r) fun v => ?_
  split
  · split
    · exact .pure hH r
    · exact alloc_keeps hH _
  · exact .pure hH r

theorem index_keeps (target key : Ref) : Keeps H (index target key) := by
  refine .bind hH (value_keeps hH target) fun v => ?_
  split
  · refine .bind hH (toText_keeps hH key) fun k => ?_
    split
    · exact boundTo_keeps hH _ _
    · exact .fail hH _
  · refine .bind hH (toNumber_keeps hH key) fun i => ?_
    split
    · exact .pure hH _
    · exact .bind hH (.orFault hH _) fun _ => .fail hH _
  · refine .bind hH (toNumber_keeps hH key) fun i => ?_
    split
    · exact number_keeps hH _
    · exact .bind hH (.orFault hH _) fun _ => .fail hH _
  · exact .fail hH _
  · exact .fail hH _
  · refine .bind hH (.result hH _) fun s => .bind hH (toNumber_keeps hH key) fun i => ?_
    split
    · exact string_keeps hH _
    · exact string_keeps hH _

theorem sliceOf_keeps (items : List α) (first last : Option Ref) :
    Keeps H (sliceOf items first last) :=
  .bind hH (toNumberD_keeps hH _ first) fun _ => .bind hH (toNumberD_keeps hH _ last) fun _ =>
    .pure hH _

theorem slice_keeps (target : Ref) (first last : Option Ref) :
    Keeps H (slice target first last) := by
  refine .bind hH (value_keeps hH target) fun v => ?_
  split
  · exact .bind hH (sliceOf_keeps hH _ _ _) fun _ => list_keeps hH _
  · exact .bind hH (sliceOf_keeps hH _ _ _) fun _ => alloc_keeps hH _
  · exact .fail hH _
  · exact .fail hH _
  · exact .fail hH _
  · exact .bind hH (.result hH _) fun _ => .bind hH (sliceOf_keeps hH _ _ _) fun _ =>
      string_keeps hH _

/-! ## Reading variables -/

theorem searched_keeps (sp : Spaces) (scope : Option Scope) (name : String) (c : Context) :
    Keeps H (sp.searched scope name c) := by
  unfold Spaces.searched
  split
  · exact .pure hH _
  · exact .fail hH _

theorem space_keeps (sp : Spaces) (scope : Option Scope) (c : Context) :
    Keeps H (sp.space scope c) := by
  unfold Spaces.space
  split
  · exact .pure hH _
  · exact .fail hH _

theorem get?_keeps (sp : Spaces) (scope : Option Scope) (name : String) (c : Context) :
    Keeps H (sp.get? scope name c) :=
  .bind hH (searched_keeps hH sp scope name c) fun _ => .bind hH (.get hH) fun _ => .pure hH _

theorem getOrFail_keeps (sp : Spaces) (scope : Option Scope) (name : String) (c : Context) :
    Keeps H (sp.getOrFail scope name c) := by
  refine .bind hH (get?_keeps hH sp scope name c) fun found => ?_
  split
  · exact .pure hH _
  · exact .fail hH _

theorem isDefined_keeps (sp : Spaces) (scope : Option Scope) (name : String) (c : Context) :
    Keeps H (sp.isDefined scope name c) := by
  unfold Spaces.isDefined
  split
  · exact .bind hH (.get hH) fun _ => .pure hH _
  · exact .pure hH _

theorem isNameLocked_keeps (sp : Spaces) (scope : Option Scope) (name : String) (c : Context) :
    Keeps H (sp.isLocked scope name c) := by
  refine .bind hH (searched_keeps hH sp scope name c) fun _ => .bind hH (.get hH) fun h => ?_
  split
  · exact .pure hH _
  · exact .pure hH _

theorem requireWritable_keeps (scope : Option Scope) (name : String) (c : Context) :
    Keeps H (Spaces.requireWritable scope name c) := by
  unfold Spaces.requireWritable
  split
  · exact .pure hH _
  · exact .fail hH _

theorem target_keeps (sp : Spaces) (scope : Option Scope) (name : String) (c : Context) :
    Keeps H (sp.target scope name c) := by
  cases scope with
  | some scope => exact space_keeps hH sp _ c
  | none =>
      refine .bind hH (searched_keeps hH sp none name c) fun _ => .bind hH (.get hH) fun h => ?_
      split
      · exact .pure hH _
      · exact space_keeps hH sp none c

end Extending

/-! ## Changing objects -/

section Mutating

variable (hH : Heap.Mutating H)
include hH

theorem setValue_keeps (r : Ref) (v : Value) : Keeps H (setValue r v) :=
  fun h => hH.setValue h r v

theorem setTo_keeps (r : Ref) (v : Heap → Value) :
    Keeps H (modify fun h => h.setValue r (v h)) := fun h => hH.setValue h r (v h)

theorem modifyTable_keeps (r : Ref) (f : Table → Table) :
    Keeps H (modify fun h => h.modifyTable r f) := fun h => hH.setValue h r _

theorem extendList_keeps (r : Ref) (items : List Ref) : Keeps H (extendList r items) :=
  setTo_keeps hH r _

theorem setItem_keeps (list : Ref) (i : Nat) (value : Ref) : Keeps H (setItem list i value) :=
  setTo_keeps hH list _

theorem lockWithin_keeps (b : Bool) :
    ∀ (steps : Nat) (r : Ref) (h : Heap), H h (h.lockWithin b steps r)
  | 0, r, h => hH.setLocked h r b
  | steps + 1, r, h => by
      rw [Heap.lockWithin]
      -- the children are those of the heap before; the fold only needs that each step keeps `H`
      generalize h.children r = children
      have hstart : H h (h.setLocked r b) := hH.setLocked h r b
      generalize h.setLocked r b = now at hstart
      induction children generalizing now with
      | nil => exact hstart
      | cons child rest ih =>
          exact ih _ (hH.trans hstart (lockWithin_keeps b steps child now))

theorem lockTo_keeps (b : Bool) (depth : Int) (r : Ref) :
    Keeps H (modify fun h => h.lockTo b depth r) := fun h => lockWithin_keeps hH b _ r h

/-! ## Copies -/

theorem copyTo_keeps : ∀ (level : Nat) (r : Ref) (c : Copying),
    H c.heap (copyTo level r c).2.heap
  | 0, _, c => hH.refl c.heap
  | level + 1, r, c => by
      have hitems : ∀ (items : List Ref) (c : Copying),
          H c.heap (mapThread (copyTo level) items c).2.heap := by
        intro items
        induction items with
        | nil => exact fun c => hH.refl c.heap
        | cons item rest ih =>
            exact fun c => hH.trans (copyTo_keeps level item c) (ih _)
      rw [copyTo]
      split
      · split
        · exact hH.refl c.heap
        · exact hH.trans (hH.trans (hH.alloc c.heap _) (hitems _ (c.start r _).2)) (hH.setValue ..)
      · split
        · exact hH.refl c.heap
        · exact hH.trans (hH.trans (hH.alloc c.heap _) (hitems _ (c.start r _).2)) (hH.setValue ..)
      · exact hH.alloc c.heap _

theorem copy_keeps (level : Int) (r : Ref) : Keeps H (copy level r) :=
  fun h => copyTo_keeps hH level.toNat r { heap := h }

/-! ## Writing variables -/

theorem set_keeps (sp : Spaces) (scope : Option Scope) (name : String) (value : Ref)
    (c : Context) : Keeps H (sp.set scope name value c) :=
  have hH' := hH.toExtending
  .bind hH' (requireWritable_keeps hH' scope name c) fun _ =>
    .bind hH' (target_keeps hH' sp scope name c) fun ns => .bind hH' (.get hH') fun _ =>
      .failIf hH' (modifyTable_keeps hH ns _)

theorem setVim_keeps (sp : Spaces) (name : String) (value : Ref) :
    Keeps H (sp.setVim name value) := modifyTable_keeps hH sp.vim _

theorem unlet_keeps (sp : Spaces) (scope : Option Scope) (name : String) (bang : Bool)
    (c : Context) : Keeps H (sp.unlet scope name bang c) := by
  have hH' := hH.toExtending
  refine .bind hH' (requireWritable_keeps hH' scope name c) fun _ =>
    .bind hH' (space_keeps hH' sp scope c) fun ns => .bind hH' (.get hH') fun h => ?_
  have herase : Keeps H (modify fun h : Heap => h.modifyTable ns (·.erase name)) :=
    modifyTable_keeps hH ns _
  refine .ite (.ite (.pure hH' _) ?_) (.failIf hH' herase)
  exact .bind hH' (.fail hH' _) fun _ => .failIf hH' herase

theorem setLock_keeps (sp : Spaces) (b : Bool) (scope : Option Scope) (name : String)
    (depth : Int) (c : Context) : Keeps H (sp.setLock b scope name depth c) := by
  have hH' := hH.toExtending
  refine .bind hH' (searched_keeps hH' sp scope name c) fun _ => .bind hH' (.get hH') fun h => ?_
  split
  · exact .fail hH' _
  · refine .bind hH' (modifyTable_keeps hH _ _) fun _ => .bind hH' (.get hH') fun h => ?_
    split
    · exact lockTo_keeps hH b depth _
    · exact .pure hH' _

/-! ## Assigning and removing items -/

theorem combine_keeps (op : Arith) (current value : Ref) (what : String) :
    Keeps H (combine op current value what) := by
  have hH' := hH.toExtending
  refine .bind hH' (value_keeps hH' current) fun _ => .bind hH' (value_keeps hH' value) fun _ => ?_
  split
  · exact .bind hH' (isLocked_keeps hH' current) fun _ =>
      .failIf hH' (.bind hH' (extendList_keeps hH current _) fun _ => .pure hH' current)
  · exact arith_keeps hH' _ current value

theorem combined_keeps (op : LetOp) (current value : Ref) (what : String) :
    Keeps H (combined op current value what) := by
  cases op with
  | set => exact .pure hH.toExtending value
  | update op => exact combine_keeps hH op current value what

theorem adopted_keeps (isDict : Callee → Bool) (dict value : Ref) :
    Keeps H (adopted isDict dict value) := by
  have hH' := hH.toExtending
  refine .bind hH' (value_keeps hH' value) fun v => ?_
  split
  · split
    · exact alloc_keeps hH' _
    · exact .pure hH' value
  · exact .pure hH' value

theorem assignEntry_keeps (isDict : Callee → Bool) (dict : Ref) (key : String) (op : LetOp)
    (value : Ref) : Keeps H (assignEntry isDict dict key op value) := by
  have hH' := hH.toExtending
  have hstore : ∀ value, Keeps H (do
      let value ← adopted isDict dict value
      modify fun h : Heap => h.modifyTable dict (·.insert key value)) := fun value =>
    .bind hH' (adopted_keeps hH isDict dict value) fun _ => modifyTable_keeps hH dict _
  refine .bind hH' (.get hH') fun h => ?_
  split
  · exact .fail hH' _
  · exact .bind hH' (isLocked_keeps hH' dict) fun _ => .failIf hH' (hstore value)
  · exact .bind hH' (combined_keeps hH _ _ value key) fun value =>
      .bind hH' (isLocked_keeps hH' _) fun _ => .failIf hH' (hstore value)

theorem assignItem_keeps (isDict : Callee → Bool) (container key : Ref) (op : LetOp)
    (value : Ref) : Keeps H (assignItem isDict container key op value) := by
  have hH' := hH.toExtending
  refine .bind hH' (value_keeps hH' container) fun v => ?_
  split
  · exact .bind hH' (toText_keeps hH' key) fun k => assignEntry_keeps hH isDict container k op value
  · refine .bind hH' (toNumber_keeps hH' key) fun i => ?_
    split
    · exact .bind hH' (.orFault hH' _) fun _ => .fail hH' _
    · exact .bind hH' (combined_keeps hH op _ value _) fun value =>
        .bind hH' (isLocked_keeps hH' _) fun _ => .failIf hH' (setItem_keeps hH container _ value)
  · refine .bind hH' (toNumber_keeps hH' key) fun i => ?_
    split
    · exact .bind hH' (.orFault hH' _) fun _ => .fail hH' _
    · have hstore : ∀ (f : Int → Value) (value : Ref),
          Keeps H (toNumber value >>= fun n => setValue container (f n)) := fun f value =>
        .bind hH' (toNumber_keeps hH' value) fun _ => setValue_keeps hH container _
      split
      · exact hstore _ value
      · exact .bind hH' (number_keeps hH' _) fun _ =>
          .bind hH' (combine_keeps hH _ _ value _) fun value => hstore _ value
  · exact .fail hH' _

theorem assignRun_keeps (container : Ref) (op : LetOp) (length : Nat) :
    ∀ (i : Nat) (items : List Ref), Keeps H (assignRun container op length i items)
  | _, [] => .pure hH.toExtending _
  | i, item :: rest => by
      have hH' := hH.toExtending
      have hrest := assignRun_keeps container op length (i + 1) rest
      rw [assignRun]
      refine .ite (.bind hH' (.get hH') fun h => ?_) ?_
      · split
        · exact .bind hH' (.faulty hH' _) fun _ => hrest
        · exact .bind hH' (isLocked_keeps hH' _) fun _ => .failIf hH' <|
            .bind hH' (combined_keeps hH op _ item _) fun value =>
              .bind hH' (setItem_keeps hH container i value) fun _ => hrest
      · exact .bind hH' (isLocked_keeps hH' container) fun _ => .failIf hH' <|
          .bind hH' (extendList_keeps hH container _) fun _ => hrest

theorem unletItem_keeps (container key : Ref) (bang : Bool) :
    Keeps H (unletItem container key bang) := by
  have hH' := hH.toExtending
  refine .bind hH' (value_keeps hH' container) fun v => ?_
  split
  · refine .bind hH' (toText_keeps hH' key) fun k => ?_
    split
    · exact .ite (.pure hH' _) (.fail hH' _)
    · exact .bind hH' (isLocked_keeps hH' container) fun _ =>
        .bind hH' (isLocked_keeps hH' _) fun _ => .failIf hH' (setValue_keeps hH container _)
  · refine .bind hH' (toNumber_keeps hH' key) fun i => ?_
    split
    · exact .bind hH' (.orFault hH' _) fun _ => .fail hH' _
    · exact .bind hH' (isLocked_keeps hH' container) fun _ =>
        .failIf hH' (setValue_keeps hH container _)
  · exact .fail hH' _

end Mutating

end Op

end Vimscript
