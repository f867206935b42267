import Vimscript.Proofs.Eval.Compound
import Vimscript.Proofs.Heap.Copy

/-!
# Policies

A fact about the heap that some changes would break survives an operation
only if the operation does not make those changes, and that depends on the
objects it is given. A `Policy` names what holds of the heap, which objects
code can get hold of (`Given`), which it has seen to be a List or a
Dictionary (`Container`), and which may have their value replaced by any
other (`Free`).

`Policy.Lawful` says once what an operation can do to an object, together
with the check it makes first. A new object can be made; a container that is
not locked can be replaced, and so can a Blob, which no lock protects; an
item of a List can be exchanged when the old item is not locked; and an
entry of a Dictionary can be put when the old entry, or for a new key the
Dictionary, is not locked. The last two are the only changes that are made
to a locked container.

An operation is `Safe` when it keeps what holds and its result satisfies a
predicate, as long as the objects it starts from are given. This module has
the rules by which operations are put together, and goes through those that
only read and make objects; the ones that change objects follow in a module
of their own.
-/

namespace Vimscript

/-! ## What objects refer to -/

/-- The objects a value refers to. -/
def Value.refs : Value → List Ref
  | .list items => items
  | .dict t => t.values
  | .funcref f => f.arguments :: f.self.toList
  | .number _ | .float _ | .string _ | .blob _ => []

/-- A Dictionary takes a value for a key: the entry that is there is not locked, or, for a new key,
the Dictionary is not. -/
def Heap.Admits (h : Heap) (dict : Ref) (t : Table) (key : String) : Prop :=
  match t.get? key with
  | some held => h.isLocked held = false
  | none => h.isLocked dict = false

/-- What holds of a heap, and the objects that can be got hold of and changed. -/
structure Policy where
  /-- What is true of the heap all the time. -/
  Holds : Heap → Prop
  /-- The objects code can get hold of. -/
  Given : Ref → Prop
  /-- The objects whose value can be replaced by any other. -/
  Free : Ref → Prop
  /-- The objects that can be Lists and Dictionaries. -/
  Container : Ref → Prop := fun _ => True

/-- Everything a value refers to is given. -/
def Policy.Carries (P : Policy) (v : Value) : Prop := ∀ r ∈ v.refs, P.Given r

/-- The changes that leave what holds of the heap as it is. -/
structure Policy.Lawful (P : Policy) : Prop where
  carries {h : Heap} (r : Ref) : P.Holds h → P.Carries (h.value r)
  alloc {h : Heap} {v : Value} : P.Holds h → P.Carries v →
    P.Holds (h.alloc v).2 ∧ P.Given (h.alloc v).1 ∧ P.Free (h.alloc v).1
  container {h : Heap} {r : Ref} : P.Holds h → (h.value r).isContainer = true → P.Container r
  free {h : Heap} {r : Ref} : P.Holds h → P.Given r → P.Container r → h.isLocked r = false →
    P.Free r
  freeBlob {h : Heap} {r : Ref} {bytes : List UInt8} : P.Holds h → P.Given r →
    h.value r = .blob bytes → P.Free r
  replace {h : Heap} {r : Ref} {v : Value} : P.Holds h → P.Free r → P.Carries v →
    P.Holds (h.setValue r v)
  setItem {h : Heap} {list item value : Ref} {items : List Ref} {i : Nat} : P.Holds h →
    P.Given list → h.value list = .list items → items[i]? = some item →
    h.isLocked item = false → P.Given value →
    P.Holds (h.setValue list (.list (items.set i value)))
  setEntry {h : Heap} {dict value : Ref} {t : Table} {key : String} : P.Holds h → P.Given dict →
    h.value dict = .dict t → h.Admits dict t key → P.Given value →
    P.Holds (h.setValue dict (.dict (t.insert key value)))

namespace Policy

variable {P : Policy}

theorem carries_list {items : List Ref} : P.Carries (.list items) ↔ ∀ r ∈ items, P.Given r :=
  Iff.rfl

theorem carries_funcref {f : Funcref} :
    P.Carries (.funcref f) ↔ P.Given f.arguments ∧ ∀ r, f.self = some r → P.Given r := by
  simp [Carries, Value.refs]

theorem carries_dict {t : Table} : P.Carries (.dict t) ↔ ∀ e ∈ t.entries, P.Given e.2 := by
  simp only [Carries, Value.refs, Table.values, List.mem_map]
  constructor
  · intro h e he
    exact h e.2 ⟨e, he, rfl⟩
  · rintro h r ⟨e, he, rfl⟩
    exact h e he

theorem carries_number (n : Int) : P.Carries (.number n) := by rintro r ⟨⟩

theorem carries_float (x : Float) : P.Carries (.float x) := by rintro r ⟨⟩

theorem carries_string (s : String) : P.Carries (.string s) := by rintro r ⟨⟩

theorem carries_blob (bytes : List UInt8) : P.Carries (.blob bytes) := by rintro r ⟨⟩

end Policy

/-! ## Entries -/

namespace Entries

variable {κ α : Type} [DecidableEq κ]

theorem mem_put {name : κ} {value : α} {entries : EntriesBy κ α} {e : κ × α}
    (he : e ∈ put name value entries) : e = (name, value) ∨ e ∈ entries := by
  induction entries with
  | nil => exact .inl (List.mem_singleton.mp he)
  | cons first rest ih =>
      obtain ⟨k, v⟩ := first
      by_cases hk : k = name
      · subst hk
        simp only [put, if_true, List.mem_cons] at he ⊢
        rcases he with he | he
        · exact .inl he
        · exact .inr (.inr he)
      · simp only [put, hk, if_false, List.mem_cons] at he ⊢
        rcases he with he | he
        · exact .inr (.inl he)
        · exact (ih he).imp_right .inr

end Entries

namespace Policy

variable {P : Policy} {t : Table} {key : String} {value : Ref}

theorem Carries.get? (ht : P.Carries (.dict t)) (hkey : t.get? key = some value) :
    P.Given value :=
  carries_dict.mp ht _ (Entries.mem_of_find? hkey)

theorem Carries.insert (ht : P.Carries (.dict t)) (key : String) (hvalue : P.Given value) :
    P.Carries (.dict (t.insert key value)) := by
  refine carries_dict.mpr fun e he => ?_
  rcases Entries.mem_put he with rfl | he
  · exact hvalue
  · exact carries_dict.mp ht e he

theorem Carries.erase (ht : P.Carries (.dict t)) (key : String) :
    P.Carries (.dict (t.erase key)) :=
  carries_dict.mpr fun e he => carries_dict.mp ht e (List.mem_filter.mp he).1

variable (hP : P.Lawful) {h : Heap}
include hP

theorem Lawful.list {r : Ref} {items : List Ref} (hh : P.Holds h)
    (hr : h.value r = .list items) : P.Container r :=
  hP.container hh (by rw [hr]; rfl)

theorem Lawful.dict {r : Ref} {t : Table} (hh : P.Holds h) (hr : h.value r = .dict t) :
    P.Container r :=
  hP.container hh (by rw [hr]; rfl)

theorem Lawful.items (hh : P.Holds h) (r : Ref) : ∀ x ∈ h.items r, P.Given x := by
  have hcarries := hP.carries r hh
  unfold Heap.items
  split
  · rename_i items hvalue
    rw [hvalue] at hcarries
    exact hcarries
  · simp

theorem Lawful.table (hh : P.Holds h) (r : Ref) : P.Carries (.dict (h.table r)) := by
  have hcarries := hP.carries r hh
  unfold Heap.table
  split
  · rename_i t hvalue
    rw [hvalue] at hcarries
    exact hcarries
  · exact carries_dict.mpr (by simp)

end Policy

namespace Op

variable {P : Policy} {α β : Type} {U : α → Prop} {V : β → Prop} {h : Heap}

/-! ## Operations that only read -/

theorem toNumber_reads (r : Ref) : Reads (toNumber r) := fun _ => rfl

theorem toText_reads (r : Ref) : Reads (toText r) := fun _ => rfl

theorem toBool_reads (r : Ref) : Reads (toBool r) := fun _ => rfl

theorem toNumberD_reads (n : Int) : ∀ r : Option Ref, Reads (toNumberD n r)
  | some _ | none => fun _ => rfl

theorem toTextD_reads (s : String) : ∀ r : Option Ref, Reads (toTextD s r)
  | some _ | none => fun _ => rfl

theorem toBoolD_reads : ∀ r : Option Ref, Reads (toBoolD r)
  | some _ | none => fun _ => rfl

theorem value_reads (r : Ref) : Reads (value r) := fun _ => rfl

theorem isLocked_reads (r : Ref) : Reads (isLocked r) := fun _ => rfl

theorem Reads.faulty (f : Fault) : Reads (faulty f : Op α) := fun _ => rfl

theorem Reads.result (r : Result α) : Reads (liftM r : Op α) := fun _ => rfl

theorem Reads.orFault (r : Except Fault α) : Reads (orFault r : Op α) := by
  cases r <;> exact fun _ => rfl

theorem Reads.ite {p : Prop} [Decidable p] {op op' : Op α} (hop : Reads op) (hop' : Reads op') :
    Reads (if p then op else op') := by
  split
  · exact hop
  · exact hop'

theorem Reads.reading (f : Heap → Result α) : Reads (reading f) := by
  refine .bind .get fun h => ?_
  cases f h <;> exact fun _ => rfl

theorem Reads.mapM {f : α → Op β} (hf : ∀ a, Reads (f a)) :
    ∀ items : List α, Reads (items.mapM f)
  | [] => .pure _
  | a :: rest => by
      rw [List.mapM_cons]
      exact .bind (hf a) fun _ => .bind (.mapM hf rest) fun _ => .pure _

theorem toData_reads (r : Ref) : Reads (toData r) := by
  refine .bind .get fun h => ?_
  cases h.toData r <;> exact fun _ => rfl

theorem result_bind_eq_ok {x : Result α} {f : α → Result β} {b : β} (h : x >>= f = .ok b) :
    ∃ a, x = .ok a ∧ f a = .ok b := by
  rcases x with stop | a
  · cases h
  · exact ⟨a, rfl, h⟩

/-! ## Safe operations -/

/-- From a heap, an operation leads to one in which the policy holds, and a result satisfies a
predicate. -/
def SafeAt (P : Policy) (U : α → Prop) (op : Op α) (h : Heap) : Prop :=
  P.Holds (op h).2 ∧ ∀ a, (op h).1 = .ok a → U a

/-- An operation keeps a policy, and its results satisfy a predicate. -/
def Safe (P : Policy) (U : α → Prop) (op : Op α) : Prop := ∀ h, P.Holds h → SafeAt P U op h

theorem SafeAt.pure {a : α} (hh : P.Holds h) (ha : U a) : SafeAt P U (pure a) h := by
  refine ⟨hh, ?_⟩
  rintro b ⟨⟩
  exact ha

theorem SafeAt.fail (c : Cause) (hh : P.Holds h) : SafeAt P U (fail c) h := by
  refine ⟨hh, ?_⟩
  rintro b ⟨⟩

/-- What follows an operation may rely on what the operation came to. -/
theorem SafeAt.bind {op : Op α} {f : α → Op β} (hop : SafeAt P U op h)
    (hf : ∀ a h', op h = (.ok a, h') → P.Holds h' → U a → SafeAt P V (f a) h') :
    SafeAt P V (op >>= f) h := by
  obtain ⟨hholds, hresult⟩ := hop
  rcases hout : op h with ⟨stop | a, h'⟩ <;> rw [hout] at hholds hresult
  · rw [SafeAt, bind_of_error hout]
    exact ⟨hholds, by rintro b ⟨⟩⟩
  · rw [SafeAt, bind_of_ok hout]
    exact hf a h' hout hholds (hresult a rfl)

/-- The same heap is there after an operation that only reads. -/
theorem SafeAt.after {op : Op α} {f : α → Op β} (hop : Reads op) (hh : P.Holds h)
    (hf : ∀ a, op h = (.ok a, h) → SafeAt P V (f a) h) : SafeAt P V (op >>= f) h := by
  have hread : SafeAt P (fun _ => True) op h := by
    refine ⟨?_, fun _ _ => trivial⟩
    rw [hop h]
    exact hh
  refine hread.bind fun a h' hout _ _ => ?_
  obtain rfl := hop.eq hout
  exact hf a hout

theorem SafeAt.value {r : Ref} {f : Value → Op β} (hf : SafeAt P V (f (h.value r)) h) :
    SafeAt P V (Op.value r >>= f) h := hf

theorem SafeAt.get {f : Heap → Op β} (hf : SafeAt P V (f h) h) :
    SafeAt P V ((MonadState.get : Op Heap) >>= f) h := hf

/-- A check of a lock in front of an operation. -/
theorem SafeAt.unlocked {r : Ref} {c : Cause} {op : Op β} (hh : P.Holds h)
    (hop : h.isLocked r = false → SafeAt P V op h) :
    SafeAt P V (Op.isLocked r >>= fun isLocked =>
      if isLocked = true then (Vimscript.fail c : Op Unit) >>= fun _ => op else op) h := by
  rw [SafeAt, bind_of_ok (isLocked_eq r h)]
  rcases hlocked : h.isLocked r with _ | _
  · exact hop hlocked
  · exact ⟨hh, by rintro b ⟨⟩⟩

theorem Safe.pure {a : α} (ha : U a) : Safe P U (pure a : Op α) := fun _ hh => .pure hh ha

theorem Safe.fail (c : Cause) : Safe P U (fail c : Op α) := fun _ hh => .fail c hh

theorem Safe.faulty (f : Fault) : Safe P U (faulty f : Op α) := fun _ hh =>
  ⟨hh, by rintro b ⟨⟩⟩

theorem Safe.mono {V : α → Prop} {op : Op α} (hop : Safe P U op) (huv : ∀ a, U a → V a) :
    Safe P V op := fun h hh => ⟨(hop h hh).1, fun a ha => huv a ((hop h hh).2 a ha)⟩

theorem Safe.bind {op : Op α} {f : α → Op β} (hop : Safe P U op)
    (hf : ∀ a, U a → Safe P V (f a)) : Safe P V (op >>= f) := fun h hh =>
  (hop h hh).bind fun a h' _ hh' ha => hf a ha h' hh'

theorem Safe.after {op : Op α} {f : α → Op β} (hop : Reads op) (hf : ∀ a, Safe P V (f a)) :
    Safe P V (op >>= f) := fun h hh => .after hop hh fun a _ => hf a h hh

theorem Safe.ite {p : Prop} [Decidable p] {op op' : Op α} (hop : Safe P U op)
    (hop' : Safe P U op') : Safe P U (if p then op else op') := by
  split
  · exact hop
  · exact hop'

theorem Reads.safe {op : Op α} (hop : Reads op) : Safe P (fun _ => True) op := by
  intro h hh
  refine ⟨?_, fun _ _ => trivial⟩
  rw [hop h]
  exact hh

/-- Nothing runs behind a failure. -/
theorem Safe.failBind (c : Cause) (f : α → Op β) :
    Safe P V ((Vimscript.fail c : Op α) >>= f) := fun _ hh => ⟨hh, by rintro b ⟨⟩⟩

theorem Safe.failIf {p : Prop} [Decidable p] {c : Cause} {op : Op α} (hop : Safe P U op) :
    Safe P U (if p then (Vimscript.fail c : Op Unit) >>= fun _ => op else op) :=
  .ite (.failBind c _) hop

section

variable (hP : P.Lawful)
include hP

/-- What is read from a given object refers to given objects only. -/
theorem Safe.value {r : Ref} {f : Value → Op β} (hf : ∀ v, P.Carries v → Safe P V (f v)) :
    Safe P V (Op.value r >>= f) := fun h hh => .value (hf _ (hP.carries r hh) h hh)

/-! ## Making objects -/

/-- Nothing refers to a new object yet, so it can be replaced. -/
theorem alloc_new {v : Value} (hv : P.Carries v) :
    Safe P (fun r => P.Given r ∧ P.Free r) (alloc v) := by
  intro h hh
  obtain ⟨hholds, hnew⟩ := hP.alloc hh hv
  refine ⟨hholds, ?_⟩
  rintro r ⟨⟩
  exact hnew

theorem alloc_safe {v : Value} (hv : P.Carries v) : Safe P P.Given (alloc v) :=
  (alloc_new hP hv).mono fun _ hr => hr.1

theorem number_safe (n : Int) : Safe P P.Given (number n) := alloc_safe hP (P.carries_number n)

theorem string_safe (s : String) : Safe P P.Given (string s) :=
  alloc_safe hP (P.carries_string s)

theorem truth_safe (b : Bool) : Safe P P.Given (truth b) := number_safe hP _

theorem list_safe {items : List Ref} (hitems : ∀ r ∈ items, P.Given r) :
    Safe P P.Given (list items) := alloc_safe hP (P.carries_list.mpr hitems)

omit hP in
theorem Safe.mapM {f : α → Op β} (hf : ∀ a, Safe P V (f a)) :
    ∀ items : List α, Safe P (fun results => ∀ b ∈ results, V b) (items.mapM f)
  | [] => .pure (by simp)
  | a :: rest => by
      rw [List.mapM_cons]
      refine .bind (hf a) fun b hb => .bind (.mapM hf rest) fun results hresults => .pure ?_
      exact List.forall_mem_cons.mpr ⟨hb, hresults⟩

omit hP in
mutual

theorem ofData_safe (hP : P.Lawful) : ∀ d : Data, Safe P P.Given (ofData d)
  | .null => by rw [ofData]; exact number_safe hP 0
  | .bool b => by rw [ofData]; exact truth_safe hP b
  | .int n => by rw [ofData]; exact number_safe hP n
  | .float x => by rw [ofData]; exact alloc_safe hP (P.carries_float x)
  | .text s => by rw [ofData]; exact string_safe hP s
  | .bytes b => by rw [ofData]; exact alloc_safe hP (P.carries_blob b)
  | .list items => by
      rw [ofData]
      exact .bind (ofItems_safe hP items) fun _ hitems => list_safe hP hitems
  | .map entries => by
      rw [ofData]
      refine .bind (ofEntries_safe hP [] entries (by simp)) fun _ hentries => ?_
      exact alloc_safe hP (P.carries_dict.mpr hentries)
  | .foreign => by rw [ofData]; exact .faulty _

theorem ofItems_safe (hP : P.Lawful) : ∀ items : List Data,
    Safe P (fun refs => ∀ r ∈ refs, P.Given r) (ofItems items)
  | [] => by rw [ofItems]; exact .pure (by simp)
  | d :: rest => by
      rw [ofItems]
      refine .bind (ofData_safe hP d) fun r hr => .bind (ofItems_safe hP rest) fun refs hrefs =>
        .pure ?_
      exact List.forall_mem_cons.mpr ⟨hr, hrefs⟩

theorem ofEntries_safe (hP : P.Lawful) (made : Entries Ref) :
    ∀ entries : List (Key × Data), (∀ e ∈ made, P.Given e.2) →
      Safe P (fun result => ∀ e ∈ result, P.Given e.2) (ofEntries made entries)
  | [], hmade => by rw [ofEntries]; exact .pure hmade
  | (.text k, d) :: rest, hmade => by
      rw [ofEntries]
      refine .bind (ofData_safe hP d) fun r hr => ofEntries_safe hP _ rest fun e he => ?_
      rcases Entries.mem_put he with rfl | he
      · exact hr
      · exact hmade e he
  | (.null, _) :: _, _ | (.bool _, _) :: _, _ | (.int _, _) :: _, _ | (.float _, _) :: _, _ => by
      rw [ofEntries]
      · exact .faulty _
      · exact fun _ => nofun

end

/-! ## Operators -/

omit hP in
theorem onValues_carries {op : Arith} {a b v : Value} (ha : P.Carries a) (hb : P.Carries b)
    (hv : op.onValues a b = .ok v) : P.Carries v := by
  have htexts : ∀ {x y : Result String},
      (do return .string ((← x) ++ (← y)) : Result Value) = .ok v → P.Carries v := by
    intro x y hxy
    obtain ⟨s, -, hxy⟩ := result_bind_eq_ok hxy
    obtain ⟨t, -, hxy⟩ := result_bind_eq_ok hxy
    cases hxy
    exact P.carries_string _
  unfold Arith.onValues at hv
  split at hv
  · exact htexts hv
  · exact htexts hv
  · rename_i xs ys
    cases hv
    rw [Policy.carries_list] at ha hb ⊢
    exact List.forall_mem_append.mpr ⟨ha, hb⟩
  · cases hv
    exact P.carries_blob _
  · split at hv
    · split at hv
      · cases hv
      · obtain ⟨x, -, hv⟩ := result_bind_eq_ok hv
        obtain ⟨y, -, hv⟩ := result_bind_eq_ok hv
        obtain ⟨z, -, hv⟩ := result_bind_eq_ok hv
        cases hv
        exact P.carries_float _
    · obtain ⟨x, -, hv⟩ := result_bind_eq_ok hv
      obtain ⟨y, -, hv⟩ := result_bind_eq_ok hv
      cases hv
      exact P.carries_number _

theorem arith_safe (op : Arith) (a b : Ref) : Safe P P.Given (op.apply a b) := by
  refine .value hP fun va ha => .value hP fun vb hb => ?_
  intro h hh
  refine .after (.result _) hh fun v hv => ?_
  have hvalue : op.onValues va vb = .ok v := congrArg Prod.fst hv
  exact alloc_safe hP (onValues_carries ha hb hvalue) h hh

theorem binary_safe (m : Option Matcher) (op : BinaryOp) (a b : Ref) :
    Safe P P.Given (op.apply m a b) := by
  cases op with
  | arith op => exact arith_safe hP op a b
  | compare relation rule => exact .after (.reading _) fun _ => truth_safe hP _
  | both =>
      refine .after (toBool_reads a) fun holds => ?_
      cases holds with
      | true => exact .after (toBool_reads b) fun _ => truth_safe hP _
      | false => exact truth_safe hP _
  | either =>
      refine .after (toBool_reads a) fun holds => ?_
      cases holds with
      | true => exact truth_safe hP _
      | false => exact .after (toBool_reads b) fun _ => truth_safe hP _

theorem unary_safe (op : UnaryOp) {a : Ref} (ha : P.Given a) : Safe P P.Given (op.apply a) := by
  refine .value hP fun v _ => ?_
  split
  · exact .after (.result _) fun _ => truth_safe hP _
  · exact alloc_safe hP (P.carries_float _)
  · exact .after (.result _) fun _ => number_safe hP _
  · exact .pure ha
  · exact .pure ha
  · exact .after (.result _) fun _ => number_safe hP _

/-! ## Items and slices -/

theorem boundTo_safe {dict r : Ref} (hdict : P.Given dict) (hr : P.Given r) :
    Safe P P.Given (boundTo dict r) := by
  refine .value hP fun v hv => ?_
  split
  · split
    · exact .pure hr
    · refine alloc_safe hP (P.carries_funcref.mpr ⟨(P.carries_funcref.mp hv).1, ?_⟩)
      rintro self ⟨⟩
      exact hdict
  · exact .pure hr

omit hP in
theorem given_of_position {items : List Ref} (hitems : ∀ x ∈ items, P.Given x) {i : Int} {r : Ref}
    (hr : (position? items.length i).bind (items[·]?) = some r) : P.Given r := by
  obtain ⟨p, -, hp⟩ := Option.bind_eq_some_iff.mp hr
  exact hitems r (List.mem_of_getElem? hp)

theorem index_safe {target : Ref} (key : Ref) (htarget : P.Given target) :
    Safe P P.Given (index target key) := by
  refine .value hP fun v hv => ?_
  split
  · refine .after (toText_reads key) fun k => ?_
    split
    · rename_i r hr
      exact boundTo_safe hP htarget (hv.get? hr)
    · exact .fail _
  · refine .after (toNumber_reads key) fun i => ?_
    split
    · rename_i r hr
      exact .pure (given_of_position (P.carries_list.mp hv) hr)
    · exact .after (.orFault _) fun _ => .fail _
  · refine .after (toNumber_reads key) fun i => ?_
    split
    · exact number_safe hP _
    · exact .after (.orFault _) fun _ => .fail _
  · exact .fail _
  · exact .fail _
  · refine .after (.result _) fun s => .after (toNumber_reads key) fun i => ?_
    split
    · exact string_safe hP _
    · exact string_safe hP _

omit hP in
theorem sliceOf_reads (items : List α) (first last : Option Ref) :
    Reads (sliceOf items first last) :=
  .bind (toNumberD_reads _ first) fun _ => .bind (toNumberD_reads _ last) fun _ => .pure _

omit hP in
theorem mem_of_mem_sliceItems {items : List α} {first last : Int} {a : α}
    (ha : a ∈ sliceItems items first last) : a ∈ items := by
  simp only [sliceItems, segment] at ha
  split at ha
  · exact List.mem_of_mem_drop (List.mem_of_mem_take ha)
  · cases ha

omit hP in
theorem sliceOf_safe {items : List α} (hitems : ∀ a ∈ items, U a) (first last : Option Ref) :
    Safe P (fun slice => ∀ a ∈ slice, U a) (sliceOf items first last) :=
  .after (toNumberD_reads _ first) fun _ => .after (toNumberD_reads _ last) fun _ =>
    .pure fun a ha => hitems a (mem_of_mem_sliceItems ha)

theorem slice_safe (target : Ref) (first last : Option Ref) :
    Safe P P.Given (slice target first last) := by
  refine .value hP fun v hv => ?_
  split
  · exact .bind (sliceOf_safe (P.carries_list.mp hv) _ _) fun _ hslice => list_safe hP hslice
  · exact .after (sliceOf_reads _ _ _) fun _ => alloc_safe hP (P.carries_blob _)
  · exact .fail _
  · exact .fail _
  · exact .fail _
  · exact .after (.result _) fun _ => .after (sliceOf_reads _ _ _) fun _ => string_safe hP _

/-! ## Reading variables -/

theorem get?_safe (sp : Spaces) (scope : Option Scope) (name : String) (c : Context) :
    Safe P (fun found => ∀ r, found = some r → P.Given r) (sp.get? scope name c) := by
  refine .after (sp.searched_reads scope name c) fun namespaces => ?_
  intro h hh
  refine .get (.pure hh fun r hr => ?_)
  obtain ⟨ns, -, hns⟩ := List.exists_of_findSome?_eq_some hr
  exact (hP.table hh ns).get? hns

theorem getOrFail_safe (sp : Spaces) (scope : Option Scope) (name : String) (c : Context) :
    Safe P P.Given (sp.getOrFail scope name c) := by
  refine .bind (get?_safe hP sp scope name c) fun found hfound => ?_
  cases found with
  | some r => exact .pure (hfound r rfl)
  | none => exact .fail _

omit hP in
theorem isDefined_reads (sp : Spaces) (scope : Option Scope) (name : String) (c : Context) :
    Reads (sp.isDefined scope name c) := by
  unfold Spaces.isDefined
  split
  · exact .bind .get fun _ => .pure _
  · exact .pure _

omit hP in
theorem isNameLocked_reads (sp : Spaces) (scope : Option Scope) (name : String) (c : Context) :
    Reads (sp.isLocked scope name c) := by
  refine .bind (sp.searched_reads scope name c) fun _ => .bind .get fun h => ?_
  split
  · exact .pure _
  · exact .pure _

end

end Op

end Vimscript
