import Vimscript.Data.Document
import Vimscript.Proofs.Data.Json
import Vimscript.Proofs.Heap.Conversion

/-!
# Documents that keep their data

Data that is written as JSON and read again is what it was, on one line or
indented, and whether or not the reader is told the format: `RoundTrips`.
The one exception are integers of more digits than may be written or read,
and data that holds one is refused by the writer.

An acyclic value without Floats, Blobs and Funcrefs becomes such data, so
it is kept as well.
-/

namespace Vimscript

/-- Whether data is a list or a map. -/
def Data.isContainer : Data → Bool
  | .list _ | .map _ => true
  | _ => false

namespace Document

/-- Data survives being written as JSON and read again. -/
structure RoundTrips (d : Data) : Prop where
  /-- Without too many digits it is written and read back; a list or map also by a reader that is
  not told the format. -/
  kept (pretty : Bool) : d.mostDigits ≤ Number.maxDigits →
    ∃ text, write "json" pretty d = .ok text ∧ read (some "json") text = .ok d ∧
      (d.isContainer = true → read none text = .ok d)
  refused (pretty : Bool) : Number.maxDigits < d.mostDigits →
    write "json" pretty d = .error (.tooManyDigits none)

theorem ofName?_json : Format.ofName? "json" = some .json := by
  decide +kernel

theorem write_json (pretty : Bool) (d : Data) : write "json" pretty d = Json.render pretty d := by
  rw [write, if_pos ofName?_json]

variable {pretty : Bool} {d : Data} {text : String}

theorem readAs_render (hd : d.isJson = true) (hdigits : d.mostDigits ≤ Number.maxDigits)
    (h : Json.render pretty d = .ok text) : readAs .json text = .ok d := by
  rw [readAs, Json.parse?_render hd h]
  dsimp only
  rw [accept, Number.checkDigits, if_neg (Nat.not_lt.mpr hdigits)]
  rfl

theorem read_json (text : String) : read (some "json") text = readAs .json text := by
  unfold read
  split
  · rename_i heq
    cases heq
  · rename_i heq
    exact absurd (Option.some.inj heq) (by decide)
  · rename_i name _ heq
    obtain rfl := Option.some.inj heq
    rw [ofName?_json]

/-- A list or map is written with a bracket or brace first, which gives the format away. -/
theorem detect_render (hd : d.isContainer = true) (h : Json.render pretty d = .ok text) :
    detect text = .json := by
  have hbracket : Text.isBlank '[' = false := by decide +kernel
  have hbrace : Text.isBlank '\x7b' = false := by decide +kernel
  have hdetect : ∀ {c : Char} {cs : List Char}, c = '[' ∨ c = '\x7b' → text.toList = c :: cs →
      detect text = .json := by
    rintro c cs (rfl | rfl) htext
    · rw [detect, htext, Text.trimLeft, List.dropWhile_cons, hbracket]
      rfl
    · rw [detect, htext, Text.trimLeft, List.dropWhile_cons, hbrace]
      rfl
  cases d with
  | list items =>
      cases items with
      | nil => cases h; exact hdetect (.inl rfl) rfl
      | cons d items =>
          obtain ⟨parts, -, htext⟩ := Json.renderAt_list h
          exact hdetect (.inl rfl) htext
  | map entries =>
      cases entries with
      | nil => cases h; exact hdetect (.inr rfl) rfl
      | cons e entries =>
          obtain ⟨parts, -, htext⟩ := Json.renderAt_map h
          exact hdetect (.inr rfl) htext
  | null | bool _ | int _ | float _ | text _ | bytes _ | foreign => cases hd

theorem roundTrips (hd : d.isJson = true) : RoundTrips d where
  kept pretty hdigits := by
    rcases Json.renderAt_cases d pretty 0 hd with ⟨-, text, htext⟩ | ⟨hlong, -⟩
    · refine ⟨text, (write_json pretty d).trans htext, ?_, fun hcontainer => ?_⟩
      · rw [read_json, readAs_render hd hdigits htext]
      · rw [read, detect_render hcontainer htext, readAs_render hd hdigits htext]
    · exact absurd hdigits (Nat.not_le.mpr hlong)
  refused pretty hlong := by
    rcases Json.renderAt_cases d pretty 0 hd with ⟨hdigits, -⟩ | ⟨-, hfault⟩
    · exact absurd hdigits (Nat.not_le.mpr hlong)
    · exact (write_json pretty d).trans hfault

end Document

/-! ## Values as documents -/

/-- Whether a value is a Number, String, List or Dictionary. -/
def Value.isDocument : Value → Bool
  | .number _ | .string _ | .list _ | .dict _ => true
  | _ => false

namespace Heap

/-- An acyclic value of Numbers, Strings, Lists and Dictionaries. -/
structure Documentable (h : Heap) (v : Ref) : Prop where
  acyclic : h.Acyclic v
  kinds {r : Ref} : h.Reaches v r → (h.value r).isDocument = true
  /-- A Dictionary has each key once. -/
  keys {r : Ref} : h.Reaches v r → (h.table r).keys.Nodup

/-- All values of a heap can be written where every object is of such a kind, has each key once and
holds only later objects. -/
theorem Documentable.of_forward {h : Heap} (hforward : ∀ i < h.size,
    (h.value ⟨i⟩).isDocument = true ∧ (h.table ⟨i⟩).keys.Nodup ∧ ∀ s ∈ h.children ⟨i⟩, i < s.index)
    (v : Ref) : h.Documentable v where
  acyclic := acyclic_of_forward (fun i hi => (hforward i hi).2.2) v
  kinds {r} _ := by
    by_cases hr : r.index < h.size
    · exact (hforward r.index hr).1
    · rw [value_of_size_le (Nat.not_lt.mp hr)]
      rfl
  keys {r} _ := by
    by_cases hr : r.index < h.size
    · exact (hforward r.index hr).2.1
    · rw [table, value_of_size_le (Nat.not_lt.mp hr)]
      exact .nil

variable {h : Heap}

theorem isJsonAll_of_unfolds {rs : List Ref} {ds : List Data} (hds : List.Forall₂ h.Unfolds rs ds)
    (hrs : ∀ r ∈ rs, ∀ d, h.Unfolds r d → d.isJson = true) : Data.isJsonAll ds = true := by
  induction hds with
  | nil => rfl
  | cons hd _ ih =>
      rw [List.forall_mem_cons] at hrs
      rw [Data.isJsonAll, hrs.1 _ hd, ih hrs.2]
      rfl

theorem isJsonEntries_zip : ∀ {keys : List String} {ds : List Data} {seen : List String},
    keys.Nodup → (∀ k ∈ keys, k ∉ seen) → Data.isJsonAll ds = true →
    Data.isJsonEntries seen ((keys.map Key.text).zip ds) = true
  | [], _, _, _, _, _ => by rw [List.map_nil, List.zip_nil_left, Data.isJsonEntries]
  | _ :: _, [], _, _, _, _ => by rw [List.zip_nil_right, Data.isJsonEntries]
  | k :: keys, d :: ds, seen, hnodup, hseen, hds => by
      rw [List.nodup_cons] at hnodup
      rw [Data.isJsonAll, Bool.and_eq_true] at hds
      have hnew : k ∉ seen := hseen k List.mem_cons_self
      have hlater : ∀ k' ∈ keys, k' ∉ k :: seen := by
        intro k' hk' hmem
        rcases List.mem_cons.mp hmem with rfl | hmem
        · exact hnodup.1 hk'
        · exact hseen k' (List.mem_cons_of_mem _ hk') hmem
      have hrest := isJsonEntries_zip hnodup.2 hlater hds.2
      rw [List.map_cons, List.zip_cons_cons, Data.isJsonEntries, hds.1, hrest]
      simp [hnew]

/-- What a value unfolds to is kept by a document if what it holds is. -/
theorem Documentable.isJson_step {v r : Ref} (hv : h.Documentable v) (hr : h.Reaches v r)
    (hchildren : ∀ s ∈ h.children r, ∀ d, h.Unfolds s d → d.isJson = true) {d : Data}
    (hd : h.Unfolds r d) : d.isJson = true := by
  have hkind := hv.kinds hr
  unfold children at hchildren
  cases hd with
  | number _ | string _ => rfl
  | list hvalue hds =>
      rw [hvalue] at hchildren
      exact isJsonAll_of_unfolds hds hchildren
  | dict hvalue hds =>
      rw [hvalue] at hchildren
      have hkeys := hv.keys hr
      rw [table, hvalue] at hkeys
      exact isJsonEntries_zip hkeys (fun _ _ => List.not_mem_nil)
        (isJsonAll_of_unfolds hds hchildren)
  | float hvalue | blob hvalue | funcref hvalue =>
      rw [hvalue] at hkind
      cases hkind

/-- A value without cycles becomes data that a document keeps. -/
theorem Documentable.toData_isJson {v : Ref} (hv : h.Documentable v) :
    ∃ d, h.toData v = .ok d ∧ d.isJson = true := by
  obtain ⟨d, hd, hunfolding⟩ := toData_of_not_recursive (acyclic_iff_not_recurs.mp hv.acyclic)
  have hjson := hv.acyclic.descend (motive := fun _ _ r => ∀ d, h.Unfolds r d → d.isJson = true)
    (fun _ _ r hr _ hchildren _ => hv.isJson_step hr hchildren) (.start h v)
    (Nat.lt_succ_self h.size)
  exact ⟨d, hd, hjson d hunfolding.unfolds⟩

end Heap

/-- Nothing, truth values, integers, texts, lists and maps with distinct texts as keys are read back
from what is written of them, unless an integer has too many digits; and so is the data of an
acyclic value without Floats, Blobs and Funcrefs. -/
theorem json_round_trip :
    (∀ d : Data, d.isJson = true → Document.RoundTrips d) ∧
    ∀ (h : Heap) (v : Ref), h.Documentable v →
      ∃ d, h.toData v = .ok d ∧ Document.RoundTrips d := by
  refine ⟨fun d hd => Document.roundTrips hd, fun h v hv => ?_⟩
  obtain ⟨d, hd, hjson⟩ := hv.toData_isJson
  exact ⟨d, hd, Document.roundTrips hjson⟩

/-- A Dictionary whose List holds another Dictionary twice. -/
def nested : Heap where
  cells := #[{ value := .dict { entries := [("a\"b", ⟨1⟩), ("", ⟨2⟩)] } },
    { value := .list [⟨3⟩, ⟨2⟩, ⟨3⟩] }, { value := .number (-12) },
    { value := .dict { entries := [("line\n", ⟨4⟩)] } }, { value := .string "\t\x01" }]

theorem nested_round_trip :
    (Data.map [(.text "\\", .list [.null, .bool true, .int 1]),
        (.text "", .map [])]).isJson = true ∧
      Document.RoundTrips (.map [(.text "\\", .list [.null, .bool true, .int 1]),
        (.text "", .map [])]) ∧
      nested.Documentable ⟨0⟩ ∧ ∃ d, nested.toData ⟨0⟩ = .ok d ∧ Document.RoundTrips d := by
  have hnested : nested.Documentable ⟨0⟩ := .of_forward (by decide) ⟨0⟩
  exact ⟨by decide, json_round_trip.1 _ (by decide), hnested, json_round_trip.2 nested ⟨0⟩ hnested⟩

/-- A list with the least integer that has too many digits. -/
def tooLong : Data := .list [.int (10 ^ Number.maxDigits)]

theorem tooLong_not_kept :
    tooLong.isJson = true ∧ ∀ pretty : Bool, ¬ ∃ text,
      Document.write "json" pretty tooLong = .ok text ∧
        Document.read (some "json") text = .ok tooLong := by
  have hjson : tooLong.isJson = true := rfl
  have hlong : Number.isLong (10 ^ Number.maxDigits) = true := by
    have hten : (10 : Int).natAbs = 10 := rfl
    rw [Number.isLong, Int.natAbs_pow, hten, Nat.pow_eq, decide_eq_true_eq]
  have hdigits : Number.maxDigits < tooLong.mostDigits := by
    rw [← Nat.not_le, tooLong, Data.mostDigits, Data.mostDigitsAll, Data.mostDigitsAll,
      Nat.max_zero, Data.mostDigits, Number.length_toDigits_le, hlong]
    decide
  refine ⟨hjson, ?_⟩
  rintro pretty ⟨text, hwrite, -⟩
  rw [(Document.roundTrips hjson).refused pretty hdigits] at hwrite
  cases hwrite

end Vimscript
