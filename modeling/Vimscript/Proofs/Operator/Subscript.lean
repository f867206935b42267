import Mathlib.Data.List.Nodup
import Mathlib.Data.List.Perm.Basic
import Vimscript.Proofs.Eval.ItemAssignment
import Vimscript.Proofs.Eval.UnletSlice

/-!
# Slices and indexes of values

A List, a Blob and a String are read by slices in the same way. What they
hold differs, so that a value is looked at as a list of its elements
(`Value.elements?`), and a slice is a new value of the same kind with some of
them (`Heap.Slices`). Then all that is to be shown is about lists: a slice up
to a place and the slice from there on are the whole (`sliceItems_append`),
and a slice between two bounds consists of the positions between them
(`positionsRead_eq_filter`).

An index and a slice count a negative number from the end in the same way,
but only the slice stops at the ends. With one number for both bounds it
reads one element or none, and the index fails exactly if it reads none
(`Heap.index_cases`).
-/

namespace Vimscript

/-! ## Slices of lists -/

section

variable {α : Type} {xs : List α} {i : Int}

/-- A slice is what is left of a list that is cut behind the last bound and before the first. -/
theorem sliceItems_eq_drop_take (xs : List α) (first last : Int) :
    sliceItems xs first last =
      (xs.take (fromEnd xs.length last + 1).toNat).drop (fromEnd xs.length first).toNat := by
  have hsegment : sliceItems xs first last = segment xs (max (fromEnd xs.length first) 0)
      (min (fromEnd xs.length last) (xs.length - 1)) := rfl
  have hstart : (max (fromEnd xs.length first) 0).toNat = (fromEnd xs.length first).toNat := by
    omega
  rw [hsegment, segment, List.drop_take, hstart]
  split
  · rw [List.take_eq_take_iff, List.length_drop]
    omega
  · rw [eq_comm, List.take_eq_nil_iff, List.drop_eq_nil_iff]
    omega

theorem sliceItems_to (xs : List α) (last : Int) :
    sliceItems xs 0 last = xs.take (fromEnd xs.length last + 1).toNat := by
  rw [sliceItems_eq_drop_take]
  rfl

theorem sliceItems_from (xs : List α) (first : Int) :
    sliceItems xs first (xs.length - 1) = xs.drop (fromEnd xs.length first).toNat := by
  have hwhole : xs.length ≤ (fromEnd xs.length (xs.length - 1) + 1).toNat := by
    unfold fromEnd
    split <;> omega
  rw [sliceItems_eq_drop_take, List.take_of_length_le hwhole]

/-- A list is what comes before a place and what comes from there on. The end of the first part is
one place before the start of the second, except that there is no place before the first one to
count from the start. -/
theorem sliceItems_append {k : Int} (hk : k ≠ 0) :
    sliceItems xs 0 (k - 1) ++ sliceItems xs k (xs.length - 1) = xs := by
  have hplace : fromEnd xs.length (k - 1) + 1 = fromEnd xs.length k := by
    unfold fromEnd
    split <;> split <;> omega
  rw [sliceItems_to, sliceItems_from, hplace, List.take_append_drop]

/-- A slice reads the positions between its bounds, from the first to the last. -/
theorem positionsRead_eq_filter (length : Nat) (first last : Int) :
    positionsRead length first last = (List.range length).filter fun (i : Nat) =>
      fromEnd length first ≤ i ∧ i ≤ fromEnd length last := by
  have hsorted : (positionsRead length first last).Pairwise (· < ·) := by
    rw [positionsRead, sliceItems_eq_drop_take]
    exact (List.pairwise_lt_range.take).drop
  have hsorted' := (List.pairwise_lt_range (n := length)).filter fun (i : Nat) =>
    fromEnd length first ≤ i ∧ i ≤ fromEnd length last
  refine List.Perm.eq_of_pairwise (fun i j _ _ hij hji => absurd hij hji.asymm) hsorted hsorted' ?_
  rw [List.perm_ext_iff_of_nodup hsorted.nodup hsorted'.nodup]
  intro i
  rw [mem_positionsRead, List.mem_filter, List.mem_range, decide_eq_true_eq]

/-- With one number for both bounds, a slice reads the position that the number selects. -/
theorem sliceItems_single (xs : List α) (i : Int) :
    sliceItems xs i i = ((position? xs.length i).bind (xs[·]?)).toList := by
  rw [sliceItems_eq_drop_take, List.drop_take, position?]
  generalize fromEnd xs.length i = p
  split
  · rename_i hp
    have hone : (p + 1).toNat - p.toNat = 1 := by omega
    have hlt : p.toNat < xs.length := by omega
    rw [hone, Option.bind_some, List.drop_eq_getElem_cons hlt, List.take_succ_cons, List.take_zero,
      List.getElem?_eq_getElem hlt, Option.toList_some]
  · rw [Option.bind_none, Option.toList_none, List.take_eq_nil_iff, List.drop_eq_nil_iff]
    omega

end

/-! ## Slices of values -/

/-- What a List, a Blob or a String holds at a position. -/
inductive Element where
  | item (r : Ref)
  | byte (b : UInt8)
  | char (c : Char)

/-- What a List, a Blob or a String holds, in order; other values are not read by positions. -/
def Value.elements? : Value → Option (List Element)
  | .list items => some (items.map .item)
  | .blob bytes => some (bytes.map .byte)
  | .string s => some (s.toList.map .char)
  | _ => none

/-- An object is what is found at a position: an item itself, and otherwise a value for the byte or
character there. -/
def Element.IsAt (h : Heap) (r : Ref) : Element → Prop
  | .item x => r = x
  | .byte b => h.value r = .number b.toNat
  | .char c => h.value r = .string (String.singleton c)

/-- A slice of a value is a new value of the same kind with some elements. All objects that there
were are as before. -/
def Heap.Slices (h : Heap) (s : Ref) (first last : Option Ref) (elements : List Element) : Prop :=
  ∃ r h', Op.slice s first last h = (.ok r, h') ∧ h.size ≤ r.index ∧ h.Kept h' ∧
    (h'.value r).kind = (h.value s).kind ∧ (h'.value r).elements? = some elements

namespace Op

variable {α : Type} {h : Heap} {first last : Option Ref} {a b : Int}

theorem sliceOf_eq (xs : List α) (hfirst : toNumberD 0 first h = (.ok a, h))
    (hlast : toNumberD (xs.length - 1) last h = (.ok b, h)) :
    sliceOf xs first last h = (.ok (sliceItems xs a b), h) := by
  rw [sliceOf, bind_of_ok hfirst, bind_of_ok hlast]
  rfl

theorem slice_blob {s : Ref} {bytes : List UInt8} (hbytes : h.value s = .blob bytes)
    (hfirst : toNumberD 0 first h = (.ok a, h))
    (hlast : toNumberD (bytes.length - 1) last h = (.ok b, h)) :
    slice s first last h =
      (.ok (h.alloc (.blob (sliceItems bytes a b))).1,
        (h.alloc (.blob (sliceItems bytes a b))).2) := by
  rw [slice, bind_of_ok (value_eq s h), hbytes]
  dsimp only
  rw [bind_of_ok (sliceOf_eq bytes hfirst hlast)]
  rfl

theorem slice_string {s : Ref} {text : String} (htext : h.value s = .string text)
    (hfirst : toNumberD 0 first h = (.ok a, h))
    (hlast : toNumberD (text.toList.length - 1) last h = (.ok b, h)) :
    slice s first last h =
      (.ok (h.alloc (.string (String.ofList (sliceItems text.toList a b)))).1,
        (h.alloc (.string (String.ofList (sliceItems text.toList a b)))).2) := by
  have hread : (liftM (Value.string text).toText : Op String) h = (.ok text, h) := rfl
  rw [slice, bind_of_ok (value_eq s h), htext]
  dsimp only
  rw [bind_of_ok hread, bind_of_ok (sliceOf_eq text.toList hfirst hlast)]
  rfl

end Op

namespace Heap

variable {h : Heap} {s : Ref} {elements : List Element} {first last : Option Ref} {a b : Int}

theorem slices_of_alloc {v : Value}
    (hslice : Op.slice s first last h = (.ok (h.alloc v).1, (h.alloc v).2))
    (hkind : v.kind = (h.value s).kind) (helements : v.elements? = some elements) :
    h.Slices s first last elements := by
  refine ⟨_, _, hslice, Nat.le_refl _, kept_extending.alloc h v, ?_, ?_⟩
  · rw [value_alloc_self, hkind]
  · rw [value_alloc_self, helements]

/-- A slice with two bounds that are numbers is a slice of what the value holds. -/
theorem slices_sliceItems (hs : (h.value s).elements? = some elements)
    (hfirst : Op.toNumberD 0 first h = (.ok a, h))
    (hlast : Op.toNumberD (elements.length - 1) last h = (.ok b, h)) :
    h.Slices s first last (sliceItems elements a b) := by
  cases hv : h.value s with
  | list items =>
      rw [hv] at hs
      cases hs
      rw [List.length_map] at hlast
      rw [sliceItems_map]
      exact slices_of_alloc (Op.slice_list hv hfirst hlast) (by rw [hv]; rfl) rfl
  | blob bytes =>
      rw [hv] at hs
      cases hs
      rw [List.length_map] at hlast
      rw [sliceItems_map]
      exact slices_of_alloc (Op.slice_blob hv hfirst hlast) (by rw [hv]; rfl) rfl
  | string text =>
      rw [hv] at hs
      cases hs
      rw [List.length_map] at hlast
      rw [sliceItems_map]
      refine slices_of_alloc (Op.slice_string hv hfirst hlast) (by rw [hv]; rfl) ?_
      rw [Value.elements?, String.toList_ofList]
  | number _ | float _ | dict _ | funcref _ =>
      rw [hv] at hs
      cases hs

/-! ## Indexes -/

/-- The code of the error for an index that selects nothing. -/
def indexCode? (h : Heap) (s : Ref) : Option String :=
  match h.value s with
  | .list _ => some "E684"
  | .blob _ => some "E979"
  | _ => none

variable {i : Int} {key : Ref} {code : String}

/-- What an index selects, if it selects anything. -/
def selected? {α : Type} (xs : List α) (i : Int) : Option α :=
  (position? xs.length i).bind (xs[·]?)

theorem selected?_map {α β : Type} (f : α → β) (xs : List α) (i : Int) :
    selected? (xs.map f) i = (selected? xs i).map f := by
  rw [selected?, selected?, List.length_map]
  cases position? xs.length i with
  | none => rfl
  | some p => exact List.getElem?_map

/-- An index gives what it selects. Where it selects nothing there is an error with the index in its
text, if it can be written. -/
theorem index_cases (hs : (h.value s).elements? = some elements)
    (hcode : h.indexCode? s = some code) (hkey : (h.value key).toNumber = .ok i) :
    (∃ e x h', selected? elements i = some e ∧ Op.index s key h = (.ok x, h') ∧ e.IsAt h' x ∧
      h.Kept h') ∨
    (selected? elements i = none ∧
      ∃ cause : String → Cause, (∀ text, (cause text).code = some code) ∧
        Op.index s key h =
          ((orFault (Number.write i) : Op String) >>= fun text => fail (cause text)) h) := by
  unfold indexCode? at hcode
  unfold Op.index
  rw [Op.bind_of_ok (Op.value_eq s h)]
  cases hv : h.value s with
  | list items =>
      rw [hv] at hs hcode
      cases hs
      cases hcode
      rw [selected?_map]
      dsimp only
      rw [Op.bind_of_ok (Op.toNumber_eq hkey)]
      rcases hat : selected? items i with _ | r
      · rw [selected?] at hat
        rw [hat]
        exact .inr ⟨rfl, .listIndex, fun _ => rfl, rfl⟩
      · rw [selected?] at hat
        rw [hat]
        exact .inl ⟨.item r, r, h, rfl, rfl, rfl, kept_extending.refl h⟩
  | blob bytes =>
      rw [hv] at hs hcode
      cases hs
      cases hcode
      rw [selected?_map]
      dsimp only
      rw [Op.bind_of_ok (Op.toNumber_eq hkey)]
      rcases hat : selected? bytes i with _ | b
      · rw [selected?] at hat
        rw [hat]
        exact .inr ⟨rfl, .blobIndex, fun _ => rfl, rfl⟩
      · rw [selected?] at hat
        rw [hat]
        exact .inl ⟨.byte b, _, _, rfl, rfl, h.value_alloc_self _, kept_extending.alloc h _⟩
  | string _ | number _ | float _ | dict _ | funcref _ =>
      rw [hv] at hcode
      cases hcode

/-! ## Agreement -/

/-- For every place but the start, the slice that ends before the place and the slice that begins
there make up the value. -/
def SplitsAnywhere (h : Heap) (s : Ref) (elements : List Element) : Prop :=
  ∀ {k : Int} {before place : Ref}, k ≠ 0 → (h.value before).toNumber = .ok (k - 1) →
    (h.value place).toNumber = .ok k → ∃ front back, h.Slices s none (some before) front ∧
      h.Slices s (some place) none back ∧ front ++ back = elements

/-- A slice between two bounds has the positions between them, in order. -/
def SlicesBetween (h : Heap) (s : Ref) (elements : List Element) : Prop :=
  ∀ {a b : Int} {first last : Ref}, (h.value first).toNumber = .ok a →
    (h.value last).toNumber = .ok b → ∃ between, h.Slices s (some first) (some last) between ∧
      between.map some =
        ((List.range elements.length).filter fun (i : Nat) =>
          (if a < 0 then a + elements.length else a) ≤ i ∧
            i ≤ (if b < 0 then b + elements.length else b)).map (elements[·]?)

/-- An index gives the one element of the slice with this number for both bounds. Where the slice is
empty, the index fails with an error of a code, unless the index has too many digits for its
text. -/
def IndexesAsSlices (h : Heap) (s : Ref) (code : String) : Prop :=
  ∀ {i : Int} {key : Ref}, (h.value key).toNumber = .ok i →
    (∃ e x h', h.Slices s (some key) (some key) [e] ∧ Op.index s key h = (.ok x, h') ∧
      e.IsAt h' x ∧ h.Kept h') ∨
    (h.Slices s (some key) (some key) [] ∧
      ((Op.index s key).FailsWith code h ↔ Number.isLong i = false) ∧
      (Number.isLong i = true → Op.index s key h = (.error (.fault (.tooManyDigits none)), h)))

theorem slices_selected (hs : (h.value s).elements? = some elements)
    (hkey : (h.value key).toNumber = .ok i) :
    h.Slices s (some key) (some key) (selected? elements i).toList := by
  rw [selected?, ← sliceItems_single]
  exact slices_sliceItems hs (Op.toNumber_eq hkey) (Op.toNumber_eq hkey)

/-- An index that selects nothing fails with an error of the code, unless it has too many digits. -/
theorem index_unselected (hs : (h.value s).elements? = some elements)
    (hcode : h.indexCode? s = some code) (hkey : (h.value key).toNumber = .ok i)
    (hnone : selected? elements i = none) :
    ((Op.index s key).FailsWith code h ↔ Number.isLong i = false) ∧
      (Number.isLong i = true → Op.index s key h = (.error (.fault (.tooManyDigits none)), h)) := by
  rcases index_cases hs hcode hkey with ⟨e, -, -, he, -⟩ | ⟨-, cause, hcause, hindex⟩
  · rw [hnone] at he
    cases he
  · cases hlong : Number.isLong i with
    | false =>
        rw [Op.bind_of_ok (write_short hlong h)] at hindex
        exact ⟨⟨fun _ => rfl, fun _ => ⟨_, _, hindex, hcause _⟩⟩,
          fun hlong => absurd hlong Bool.false_ne_true⟩
    | true =>
        rw [Op.bind_of_error (write_long hlong h)] at hindex
        refine ⟨⟨?_, fun hshort => absurd hshort.symm Bool.false_ne_true⟩, fun _ => hindex⟩
        rintro ⟨c, h', hfails, -⟩
        rw [hindex] at hfails
        cases hfails

theorem indexesAsSlices (hs : (h.value s).elements? = some elements)
    (hcode : h.indexCode? s = some code) : h.IndexesAsSlices s code := by
  intro i key hkey
  have hslices := slices_selected hs hkey
  rcases index_cases hs hcode hkey with ⟨e, x, h', he, hindex, hat, hkept⟩ | ⟨hnone, -⟩
  · rw [he] at hslices
    exact .inl ⟨e, x, h', hslices, hindex, hat, hkept⟩
  · rw [hnone] at hslices
    exact .inr ⟨hslices, index_unselected hs hcode hkey hnone⟩

theorem splitsAnywhere (hs : (h.value s).elements? = some elements) :
    h.SplitsAnywhere s elements := by
  intro k before place hk hbefore hplace
  exact ⟨_, _, slices_sliceItems hs rfl (Op.toNumber_eq hbefore),
    slices_sliceItems hs (Op.toNumber_eq hplace) rfl, sliceItems_append hk⟩

theorem slicesBetween (hs : (h.value s).elements? = some elements) :
    h.SlicesBetween s elements := by
  intro a b first last ha hb
  refine ⟨_, slices_sliceItems hs (Op.toNumber_eq ha) (Op.toNumber_eq hb), ?_⟩
  rw [map_some_sliceItems, positionsRead_eq_filter]
  rfl

end Heap

/-- Slices cut a List, Blob or String into parts, and read the positions between their bounds. An
index of a List or Blob reads what a slice with this one position reads. -/
theorem slices_and_indexes_agree {h : Heap} {s : Ref} {elements : List Element}
    (hs : (h.value s).elements? = some elements) :
    h.SplitsAnywhere s elements ∧ h.SlicesBetween s elements ∧
      ∀ code, h.indexCode? s = some code → h.IndexesAsSlices s code :=
  ⟨Heap.splitsAnywhere hs, Heap.slicesBetween hs, fun _ hcode => Heap.indexesAsSlices hs hcode⟩

/-- A List of two Numbers, which are its last and its first index, and a Number with too many digits
to be written. -/
def twoItems : Heap where
  cells := #[{ value := .list [⟨1⟩, ⟨2⟩] }, { value := .number (-1) }, { value := .number 0 },
    { value := .number (Nat.pow 10 Number.maxDigits : Nat) }]

/-- The last item is what comes from the last position on, and after all that is before it. -/
theorem twoItems_sliced :
    (twoItems.value ⟨0⟩).elements? = some [.item ⟨1⟩, .item ⟨2⟩] ∧
      twoItems.SplitsAnywhere ⟨0⟩ [.item ⟨1⟩, .item ⟨2⟩] ∧
      twoItems.SlicesBetween ⟨0⟩ [.item ⟨1⟩, .item ⟨2⟩] ∧
      twoItems.IndexesAsSlices ⟨0⟩ "E684" := by
  have hs : (twoItems.value ⟨0⟩).elements? = some [.item ⟨1⟩, .item ⟨2⟩] := rfl
  obtain ⟨hsplits, hbetween, hindexes⟩ := slices_and_indexes_agree hs
  exact ⟨hs, hsplits, hbetween, hindexes "E684" rfl⟩

/-- An index behind the List reads nothing, and with too many digits it is no list index error. -/
theorem longIndex_unread :
    twoItems.Slices ⟨0⟩ (some ⟨3⟩) (some ⟨3⟩) [] ∧
      Op.index ⟨0⟩ ⟨3⟩ twoItems = (.error (.fault (.tooManyDigits none)), twoItems) ∧
      ¬(Op.index ⟨0⟩ ⟨3⟩).FailsWith "E684" twoItems := by
  have hs : (twoItems.value ⟨0⟩).elements? = some [.item ⟨1⟩, .item ⟨2⟩] := rfl
  have hkey : (twoItems.value ⟨3⟩).toNumber = .ok ((Nat.pow 10 Number.maxDigits : Nat) : Int) :=
    rfl
  have hlong : Number.isLong ((Nat.pow 10 Number.maxDigits : Nat) : Int) = true := by
    rw [Number.isLong, Int.natAbs_natCast]
    exact decide_eq_true (Nat.le_refl _)
  have hpow : ∀ n, n < Nat.pow 10 n := fun n => Nat.lt_pow_self (by decide)
  have hbehind : ((2 : Nat) : Int) ≤ (Nat.pow 10 Number.maxDigits : Nat) :=
    Int.ofNat_le.mpr ((by decide : 2 ≤ Number.maxDigits).trans (hpow Number.maxDigits).le)
  generalize ((Nat.pow 10 Number.maxDigits : Nat) : Int) = i at hkey hlong hbehind
  have hnone : Heap.selected? [Element.item ⟨1⟩, .item ⟨2⟩] i = none := by
    rw [Heap.selected?, List.length_cons, List.length_singleton,
      position?_eq_none_iff.mpr (by omega), Option.bind_none]
  have hslices := Heap.slices_selected hs hkey
  rw [hnone] at hslices
  obtain ⟨hfails, hlarge⟩ := Heap.index_unselected hs rfl hkey hnone
  refine ⟨hslices, hlarge hlong, fun hcode => ?_⟩
  rw [hfails.mp hcode] at hlong
  cases hlong

end Vimscript
