import Mathlib.Data.List.Basic
import Vimscript.Heap.Print
import Vimscript.Proofs.Heap.Acyclic
import Vimscript.Proofs.Number.Written
import Vimscript.Proofs.Text.Piece

/-!
# The unambiguous form of values

An acyclic value of Numbers, Strings, Blobs, Lists and Dictionaries is told
apart from any other such value by its printed form. What the form can
tell is the value's shape: a tree in which sharing no longer shows. So the
proof has two halves. Printing a value prints its shape
(`Plain.printed_eq`), because on an acyclic value nothing is found on the
path and the steps suffice; and the text of a shape determines the shape
(`Shape.text_injective`).

The second half is an induction that needs more than equal texts, since a
text within a List has others after it. What can follow the text of a value
is nothing, a comma or a closing bracket (`Closed`); none of these can
continue a number, a Blob or a doubled quote. Two texts that are continued
in this way to the same whole are the same, and so are the continuations
(`Shape.text_append`).
-/

namespace Vimscript

open Text (StopsAt run_append joined joined_cons toList_intercalate_cons)

/-- Whether a value is a Number, String, Blob, List or Dictionary. -/
def Value.isPlain : Value → Bool
  | .float _ | .funcref _ => false
  | _ => true

/-! ## Shapes -/

/-- A value as far as its printed form can tell. -/
inductive Shape where
  | number (n : Int)
  | string (s : String)
  | blob (bytes : List UInt8)
  | list (items : List Shape)
  | dict (entries : List (String × Shape))

namespace Shape

mutual

/-- The printed form of a shape. -/
def text : Shape → String
  | .number n => toString n
  | .string s => quoteString s
  | .blob bytes => blobText bytes
  | .list items => "[" ++ ", ".intercalate (textAll items) ++ "]"
  | .dict entries => "\x7b" ++ ", ".intercalate (textEntries entries) ++ "\x7d"

def textAll : List Shape → List String
  | [] => []
  | s :: rest => text s :: textAll rest

def textEntries : List (String × Shape) → List String
  | [] => []
  | (k, s) :: rest => (quoteString k ++ ": " ++ text s) :: textEntries rest

end

mutual

/-- Whether a shape holds a Number with too many digits. -/
def isLong : Shape → Bool
  | .number n => Number.isLong n
  | .list items => isLongAny items
  | .dict entries => isLongEntry entries
  | .string _ | .blob _ => false

def isLongAny : List Shape → Bool
  | [] => false
  | s :: rest => isLong s || isLongAny rest

def isLongEntry : List (String × Shape) → Bool
  | [] => false
  | (_, s) :: rest => isLong s || isLongEntry rest

end

end Shape

namespace Heap

mutual

/-- An object has a shape: the same kind, the same content, and of its items or entries each has
the shape in its place. -/
def HasShape (h : Heap) : Ref → Shape → Prop
  | r, .number n => h.value r = .number n
  | r, .string s => h.value r = .string s
  | r, .blob bytes => h.value r = .blob bytes
  | r, .list shapes => ∃ items, h.value r = .list items ∧ h.HaveShapes items shapes
  | r, .dict shapes => ∃ t, h.value r = .dict t ∧ h.EntriesHaveShapes t.entries shapes

def HaveShapes (h : Heap) : List Ref → List Shape → Prop
  | [], [] => True
  | r :: items, s :: shapes => h.HasShape r s ∧ h.HaveShapes items shapes
  | _, _ => False

def EntriesHaveShapes (h : Heap) : Entries Ref → List (String × Shape) → Prop
  | [], [] => True
  | (k, r) :: entries, (k', s) :: shapes =>
    k = k' ∧ h.HasShape r s ∧ h.EntriesHaveShapes entries shapes
  | _, _ => False

end

/-- An acyclic value of Numbers, Strings, Blobs, Lists and Dictionaries. -/
structure Plain (h : Heap) (v : Ref) : Prop where
  acyclic : h.Acyclic v
  kinds {r : Ref} : h.Reaches v r → (h.value r).isPlain = true

/-- All values of a heap are plain where every object is of such a kind and holds only later
ones. -/
theorem Plain.of_forward {h : Heap}
    (hforward : ∀ i < h.size, (h.value ⟨i⟩).isPlain = true ∧ ∀ s ∈ h.children ⟨i⟩, i < s.index)
    (v : Ref) : h.Plain v where
  acyclic := acyclic_of_forward (fun i hi => (hforward i hi).2) v
  kinds {r} _ := by
    by_cases hr : r.index < h.size
    · exact (hforward r.index hr).1
    · rw [value_of_size_le (Nat.not_lt.mp hr)]
      rfl

mutual

theorem HasShape.unique {h : Heap} : ∀ {r : Ref} {s t : Shape}, h.HasShape r s → h.HasShape r t →
    s = t
  | r, .number n, t, hs, ht => by
      cases t <;> simp_all [HasShape]
  | r, .string s, t, hs, ht => by
      cases t <;> simp_all [HasShape]
  | r, .blob bytes, t, hs, ht => by
      cases t <;> simp_all [HasShape]
  | r, .list shapes, t, hs, ht => by
      obtain ⟨items, hv, hitems⟩ := hs
      cases t with
      | list shapes' =>
          obtain ⟨items', hv', hitems'⟩ := ht
          cases hv.symm.trans hv'
          rw [HaveShapes.unique hitems hitems']
      | _ => simp_all [HasShape]
  | r, .dict shapes, t, hs, ht => by
      obtain ⟨table, hv, hentries⟩ := hs
      cases t with
      | dict shapes' =>
          obtain ⟨table', hv', hentries'⟩ := ht
          cases hv.symm.trans hv'
          rw [EntriesHaveShapes.unique hentries hentries']
      | _ => simp_all [HasShape]

theorem HaveShapes.unique {h : Heap} : ∀ {items : List Ref} {shapes shapes' : List Shape},
    h.HaveShapes items shapes → h.HaveShapes items shapes' → shapes = shapes'
  | [], [], [], _, _ => rfl
  | _ :: _, _ :: _, _ :: _, hs, hs' => by
      rw [HasShape.unique hs.1 hs'.1, HaveShapes.unique hs.2 hs'.2]

theorem EntriesHaveShapes.unique {h : Heap} : ∀ {entries : Entries Ref}
    {shapes shapes' : List (String × Shape)}, h.EntriesHaveShapes entries shapes →
    h.EntriesHaveShapes entries shapes' → shapes = shapes'
  | [], [], [], _, _ => rfl
  | (_, _) :: _, (_, _) :: _, (_, _) :: _, hs, hs' => by
      obtain ⟨rfl, hs, hrest⟩ := hs
      obtain ⟨rfl, hs', hrest'⟩ := hs'
      rw [HasShape.unique hs hs', EntriesHaveShapes.unique hrest hrest']

end

end Heap

/-! ## What ends a text -/

/-- What can follow the text of a value: nothing, a comma or a closing bracket. -/
def Closed (rest : List Char) : Prop := ∀ c ∈ rest.head?, c = ',' ∨ c = ']' ∨ c = '\x7d'

theorem Closed.stopsAt {rest : List Char} (hrest : Closed rest) {p : Char → Bool}
    (hcomma : p ',' = false) (hbracket : p ']' = false) (hbrace : p '\x7d' = false) :
    StopsAt p rest := by
  intro c hc
  rcases hrest c hc with rfl | rfl | rfl <;> assumption

/-! ## Strings -/

/-- A character between quotes, where a quote is doubled. -/
def doubled (c : Char) : List Char := if c == '\'' then ['\'', '\''] else [c]

theorem toList_quoteString (s : String) :
    (quoteString s).toList = '\'' :: (s.toList.flatMap doubled ++ ['\'']) := by
  rw [quoteString, String.toList_ofList]
  rfl

/-- A closing quote is one that no other quote follows. -/
theorem doubled_append {s t rest rest' : List Char} (hrest : StopsAt (· == '\'') rest)
    (hrest' : StopsAt (· == '\'') rest')
    (h : s.flatMap doubled ++ '\'' :: rest = t.flatMap doubled ++ '\'' :: rest') :
    s = t ∧ rest = rest' := by
  have hquote : ∀ {rest more : List Char}, StopsAt (· == '\'') rest → rest ≠ '\'' :: more := by
    rintro rest more hstop rfl
    exact absurd (hstop '\'' rfl) (by decide)
  induction s generalizing t with
  | nil =>
      cases t with
      | nil => exact ⟨rfl, (List.cons.inj h).2⟩
      | cons d t =>
          by_cases hd : d = '\'' <;> simp [doubled, hd] at h
          · exact absurd h (hquote hrest)
          · exact absurd h.1.symm hd
  | cons c s ih =>
      cases t with
      | nil =>
          by_cases hc : c = '\'' <;> simp [doubled, hc] at h
          exact absurd h.symm (hquote hrest')
      | cons d t =>
          by_cases hc : c = '\'' <;> by_cases hd : d = '\'' <;> simp [doubled, hc, hd] at h
          · obtain ⟨rfl, rfl⟩ := ih h
            exact ⟨by rw [hc, hd], rfl⟩
          · exact absurd h.1.symm hd
          · obtain ⟨rfl, rfl⟩ := ih h.2
            exact ⟨by rw [h.1], rfl⟩

theorem quoteString_append {s t : String} {rest rest' : List Char}
    (hrest : StopsAt (· == '\'') rest) (hrest' : StopsAt (· == '\'') rest')
    (h : (quoteString s).toList ++ rest = (quoteString t).toList ++ rest') :
    s = t ∧ rest = rest' := by
  simp only [toList_quoteString, List.cons_append, List.append_assoc, List.nil_append] at h
  obtain ⟨hchars, hrests⟩ := doubled_append hrest hrest' (List.cons.inj h).2
  exact ⟨String.toList_inj.mp hchars, hrests⟩

/-- A key ends before the colon. -/
theorem key_append {k k' : String} {rest rest' : List Char}
    (h : (quoteString k).toList ++ (": ".toList ++ rest) =
      (quoteString k').toList ++ (": ".toList ++ rest')) : k = k' ∧ rest = rest' := by
  have hcolon : ∀ rest, StopsAt (· == '\'') (": ".toList ++ rest) := by
    rintro rest c ⟨⟩
    rfl
  obtain ⟨hkeys, hrests⟩ := quoteString_append (hcolon rest) (hcolon rest') h
  exact ⟨hkeys, List.append_cancel_left hrests⟩

/-! ## Blobs -/

/-- A digit of a Blob literal. -/
def isBlobDigit (c : Char) : Bool := c.isDigit || ('A' ≤ c && c ≤ 'F')

/-- The two digits of a byte. -/
def byteDigits (b : UInt8) : List Char := (Text.hex 2 b.toNat).map Char.toUpper

theorem toList_blobText (bytes : List UInt8) :
    (blobText bytes).toList = '0' :: 'z' :: bytes.flatMap byteDigits := by
  rw [blobText, String.toList_ofList]
  rfl

/-- A byte is written as two digits, and read back from them. -/
theorem byteDigits_eq (b : UInt8) : ∃ c d, byteDigits b = [c, d] ∧ isBlobDigit c = true ∧
    isBlobDigit d = true ∧ Number.ofDigits 16 [c, d] = b.toNat := by
  have hall : ∀ n < 256, ((Text.hex 2 n).map Char.toUpper).length = 2 ∧
      ((Text.hex 2 n).map Char.toUpper).all isBlobDigit = true ∧
      Number.ofDigits 16 ((Text.hex 2 n).map Char.toUpper) = n := by
    decide +kernel
  obtain ⟨hlength, hdigits, hvalue⟩ := hall b.toNat b.toNat_lt
  unfold byteDigits
  obtain ⟨c, d, hcd⟩ := List.length_eq_two.mp hlength
  rw [hcd] at hdigits hvalue
  simp only [List.all_cons, List.all_nil, Bool.and_true, Bool.and_eq_true] at hdigits
  exact ⟨c, d, hcd, hdigits.1, hdigits.2, hvalue⟩

theorem byteDigits_flatMap_injective {bytes bytes' : List UInt8}
    (h : bytes.flatMap byteDigits = bytes'.flatMap byteDigits) : bytes = bytes' := by
  induction bytes generalizing bytes' with
  | nil =>
      cases bytes' with
      | nil => rfl
      | cons b rest =>
          obtain ⟨c, d, hb, -⟩ := byteDigits_eq b
          rw [List.flatMap_cons, hb] at h
          cases h
  | cons b rest ih =>
      obtain ⟨c, d, hb, -, -, hvalue⟩ := byteDigits_eq b
      cases bytes' with
      | nil =>
          rw [List.flatMap_cons, hb] at h
          cases h
      | cons b' rest' =>
          obtain ⟨c', d', hb', -, -, hvalue'⟩ := byteDigits_eq b'
          rw [List.flatMap_cons, List.flatMap_cons, hb, hb'] at h
          simp only [List.cons_append, List.nil_append, List.cons.injEq] at h
          obtain ⟨rfl, rfl, hrest⟩ := h
          have hbyte : b = b' := UInt8.toNat_inj.mp (hvalue.symm.trans hvalue')
          rw [hbyte, ih hrest]

theorem mem_blobDigits {bytes : List UInt8} {c : Char} (hc : c ∈ bytes.flatMap byteDigits) :
    isBlobDigit c = true := by
  obtain ⟨b, -, hb⟩ := List.mem_flatMap.mp hc
  obtain ⟨d, e, hdigits, hd, he, -⟩ := byteDigits_eq b
  rw [hdigits] at hb
  simp only [List.mem_cons, List.not_mem_nil, or_false] at hb
  rcases hb with rfl | rfl <;> assumption

theorem blobText_append {bytes bytes' : List UInt8} {rest rest' : List Char} (hrest : Closed rest)
    (hrest' : Closed rest')
    (h : (blobText bytes).toList ++ rest = (blobText bytes').toList ++ rest') :
    bytes = bytes' ∧ rest = rest' := by
  simp only [toList_blobText, List.cons_append, List.cons.injEq, true_and] at h
  obtain ⟨hdigits, hrests⟩ := run_append (fun c hc => mem_blobDigits hc)
    (fun c hc => mem_blobDigits hc) (hrest.stopsAt rfl rfl rfl) (hrest'.stopsAt rfl rfl rfl) h
  exact ⟨byteDigits_flatMap_injective hdigits, hrests⟩

/-! ## Numbers -/

/-- A character of a written number. -/
def isNumeric (c : Char) : Bool := c.isDigit || c == '-'

theorem isNumeric_of_mem {n : Int} {c : Char} (hc : c ∈ (toString n).toList) :
    isNumeric c = true := by
  rcases Number.mem_toString hc with hdigit | rfl
  · rw [isNumeric, hdigit, Bool.true_or]
  · rfl

theorem number_append {m n : Int} {rest rest' : List Char} (hrest : Closed rest)
    (hrest' : Closed rest') (h : (toString m).toList ++ rest = (toString n).toList ++ rest') :
    m = n ∧ rest = rest' := by
  obtain ⟨htext, hrests⟩ := run_append (fun c hc => isNumeric_of_mem hc)
    (fun c hc => isNumeric_of_mem hc) (hrest.stopsAt rfl rfl rfl) (hrest'.stopsAt rfl rfl rfl) h
  exact ⟨Number.toString_injective (String.toList_inj.mp htext), hrests⟩

/-- A number ends before the second character of a Blob. -/
theorem number_append_ne_blob {n : Int} {bytes : List UInt8} {rest rest' : List Char}
    (hrest : Closed rest) :
    (toString n).toList ++ rest ≠ (blobText bytes).toList ++ rest' := by
  intro h
  have hblob : (blobText bytes).toList ++ rest' =
      ['0'] ++ 'z' :: (bytes.flatMap byteDigits ++ rest') := by
    rw [toList_blobText]
    rfl
  have hzero : ∀ c ∈ ['0'], isNumeric c = true := List.forall_mem_singleton.mpr rfl
  have hz : StopsAt isNumeric ('z' :: (bytes.flatMap byteDigits ++ rest')) := by
    rintro c ⟨⟩
    rfl
  obtain ⟨-, rfl⟩ := run_append (fun c hc => isNumeric_of_mem hc) hzero
    (hrest.stopsAt rfl rfl rfl) hz (h.trans hblob)
  rcases hrest 'z' rfl with h | h | h <;> cases h

/-! ## Texts of shapes -/

namespace Shape

/-- How a text can start. Blobs start like numbers. -/
inductive Opening where
  | numeric
  | quote
  | bracket
  | brace

/-- What starts with a character. -/
def opening? (c : Char) : Option Opening :=
  if isNumeric c then some .numeric
  else if c = '\'' then some .quote
  else if c = '[' then some .bracket
  else if c = '\x7b' then some .brace
  else none

def opening : Shape → Opening
  | .number _ | .blob _ => .numeric
  | .string _ => .quote
  | .list _ => .bracket
  | .dict _ => .brace

theorem exists_opening (s : Shape) :
    ∃ c rest, s.text.toList = c :: rest ∧ opening? c = some s.opening := by
  cases s with
  | number n =>
      obtain ⟨c, rest, hcs⟩ := List.exists_cons_of_ne_nil (Number.toList_toString_ne_nil n)
      have hc : isNumeric c = true := isNumeric_of_mem (n := n) (hcs ▸ List.mem_cons_self)
      exact ⟨c, rest, hcs, by rw [opening?, if_pos hc]; rfl⟩
  | string s => exact ⟨_, _, toList_quoteString s, rfl⟩
  | blob bytes => exact ⟨_, _, toList_blobText bytes, rfl⟩
  | list items => exact ⟨'[', _, by rw [text, String.toList_append, String.toList_append]; rfl, rfl⟩
  | dict entries =>
      exact ⟨'\x7b', _, by rw [text, String.toList_append, String.toList_append]; rfl, rfl⟩

theorem opening_of_append {s t : Shape} {rest rest' : List Char}
    (h : s.text.toList ++ rest = t.text.toList ++ rest') : s.opening = t.opening := by
  obtain ⟨c, cs, hcs, hc⟩ := s.exists_opening
  obtain ⟨d, ds, hds, hd⟩ := t.exists_opening
  rw [hcs, hds] at h
  obtain rfl := (List.cons.inj h).1
  exact Option.some.inj (hc.symm.trans hd)

theorem text_append_ne {s : Shape} {rest rest' : List Char} {c : Char}
    (hc : opening? c = none) : s.text.toList ++ rest ≠ c :: rest' := by
  intro h
  obtain ⟨d, ds, hds, hd⟩ := s.exists_opening
  rw [hds] at h
  obtain rfl := (List.cons.inj h).1
  cases hc.symm.trans hd

theorem closed_joined (texts : List String) {c : Char} (hc : c = ']' ∨ c = '\x7d')
    (rest : List Char) : Closed (joined ", " texts ++ c :: rest) := by
  cases texts with
  | nil => rintro _ ⟨⟩; exact .inr hc
  | cons s texts => rw [joined_cons]; rintro _ ⟨⟩; exact .inl rfl

theorem joined_append_ne {s : String} {texts : List String} {rest rest' : List Char}
    {close : String} (hclose : close = "]" ∨ close = "\x7d") :
    joined ", " (s :: texts) ++ rest ≠ joined ", " [] ++ (close.toList ++ rest') := by
  rw [joined_cons]
  rintro h
  rcases hclose with rfl | rfl <;> cases h

mutual

theorem text_append : ∀ (s t : Shape) {rest rest' : List Char}, Closed rest → Closed rest' →
    s.text.toList ++ rest = t.text.toList ++ rest' → s = t ∧ rest = rest'
  | .number m, t => by
      intro hrest hrest' h
      have hkind := opening_of_append h
      cases t with
      | number n =>
          obtain ⟨rfl, rfl⟩ := number_append hrest hrest' h
          exact ⟨rfl, rfl⟩
      | blob bytes => exact absurd h (number_append_ne_blob hrest)
      | string _ | list _ | dict _ => cases hkind
  | .blob bytes, t => by
      intro hrest hrest' h
      have hkind := opening_of_append h
      cases t with
      | number n => exact absurd h.symm (number_append_ne_blob hrest')
      | blob bytes' =>
          obtain ⟨rfl, rfl⟩ := blobText_append hrest hrest' h
          exact ⟨rfl, rfl⟩
      | string _ | list _ | dict _ => cases hkind
  | .string s, t => by
      intro hrest hrest' h
      have hkind := opening_of_append h
      cases t with
      | string s' =>
          obtain ⟨rfl, rfl⟩ := quoteString_append (hrest.stopsAt rfl rfl rfl)
            (hrest'.stopsAt rfl rfl rfl) h
          exact ⟨rfl, rfl⟩
      | number _ | blob _ | list _ | dict _ => cases hkind
  | .list items, t => by
      intro hrest hrest' h
      have hkind := opening_of_append h
      cases t with
      | list items' =>
          simp only [text, String.toList_append, List.append_assoc] at h
          obtain ⟨rfl, rfl⟩ := textAll_append _ _ (List.append_cancel_left h)
          exact ⟨rfl, rfl⟩
      | number _ | blob _ | string _ | dict _ => cases hkind
  | .dict entries, t => by
      intro hrest hrest' h
      have hkind := opening_of_append h
      cases t with
      | dict entries' =>
          simp only [text, String.toList_append, List.append_assoc] at h
          obtain ⟨rfl, rfl⟩ := textEntries_append _ _ (List.append_cancel_left h)
          exact ⟨rfl, rfl⟩
      | number _ | blob _ | string _ | list _ => cases hkind

theorem textAll_append : ∀ (items items' : List Shape) {rest rest' : List Char},
    (", ".intercalate (textAll items)).toList ++ ("]".toList ++ rest) =
      (", ".intercalate (textAll items')).toList ++ ("]".toList ++ rest') →
    items = items' ∧ rest = rest'
  | [], [] => by
      intro h
      exact ⟨rfl, List.append_cancel_left (List.append_cancel_left h)⟩
  | [], t :: items' => by
      intro h
      rw [textAll, textAll, toList_intercalate_cons, List.append_assoc] at h
      exact absurd h.symm (text_append_ne rfl)
  | s :: items, [] => by
      intro h
      rw [textAll, textAll, toList_intercalate_cons, List.append_assoc] at h
      exact absurd h (text_append_ne rfl)
  | s :: items, t :: items' => by
      intro h
      rw [textAll, textAll, toList_intercalate_cons, toList_intercalate_cons, List.append_assoc,
        List.append_assoc] at h
      obtain ⟨rfl, hrests⟩ := text_append s t (closed_joined _ (.inl rfl) _)
        (closed_joined _ (.inl rfl) _) h
      obtain ⟨rfl, rfl⟩ := joinedAll_append _ _ hrests
      exact ⟨rfl, rfl⟩

theorem joinedAll_append : ∀ (items items' : List Shape) {rest rest' : List Char},
    joined ", " (textAll items) ++ ("]".toList ++ rest) =
      joined ", " (textAll items') ++ ("]".toList ++ rest') →
    items = items' ∧ rest = rest'
  | [], [] => by
      intro h
      exact ⟨rfl, List.append_cancel_left (List.append_cancel_left h)⟩
  | [], t :: items' => by
      intro h
      rw [textAll, textAll] at h
      exact absurd h.symm (joined_append_ne (.inl rfl))
  | s :: items, [] => by
      intro h
      rw [textAll, textAll] at h
      exact absurd h (joined_append_ne (.inl rfl))
  | s :: items, t :: items' => by
      intro h
      rw [textAll, textAll, joined_cons, joined_cons] at h
      simp only [List.append_assoc] at h
      obtain ⟨rfl, hrests⟩ := text_append s t (closed_joined _ (.inl rfl) _)
        (closed_joined _ (.inl rfl) _) (List.append_cancel_left h)
      obtain ⟨rfl, rfl⟩ := joinedAll_append _ _ hrests
      exact ⟨rfl, rfl⟩

theorem textEntries_append : ∀ (entries entries' : List (String × Shape))
    {rest rest' : List Char},
    (", ".intercalate (textEntries entries)).toList ++ ("\x7d".toList ++ rest) =
      (", ".intercalate (textEntries entries')).toList ++ ("\x7d".toList ++ rest') →
    entries = entries' ∧ rest = rest'
  | [], [] => by
      intro h
      exact ⟨rfl, List.append_cancel_left (List.append_cancel_left h)⟩
  | [], (k', t) :: entries' => by
      intro h
      simp only [textEntries, toList_intercalate_cons, String.toList_append, toList_quoteString,
        List.cons_append] at h
      cases h
  | (k, s) :: entries, [] => by
      intro h
      simp only [textEntries, toList_intercalate_cons, String.toList_append, toList_quoteString,
        List.cons_append] at h
      cases h
  | (k, s) :: entries, (k', t) :: entries' => by
      intro h
      simp only [textEntries, toList_intercalate_cons, String.toList_append,
        List.append_assoc] at h
      obtain ⟨rfl, hvalues⟩ := key_append h
      obtain ⟨rfl, hrests⟩ := text_append s t (closed_joined _ (.inr rfl) _)
        (closed_joined _ (.inr rfl) _) hvalues
      obtain ⟨rfl, rfl⟩ := joinedEntries_append _ _ hrests
      exact ⟨rfl, rfl⟩

theorem joinedEntries_append : ∀ (entries entries' : List (String × Shape))
    {rest rest' : List Char},
    joined ", " (textEntries entries) ++ ("\x7d".toList ++ rest) =
      joined ", " (textEntries entries') ++ ("\x7d".toList ++ rest') →
    entries = entries' ∧ rest = rest'
  | [], [] => by
      intro h
      exact ⟨rfl, List.append_cancel_left (List.append_cancel_left h)⟩
  | [], (k', t) :: entries' => by
      intro h
      rw [textEntries, textEntries] at h
      exact absurd h.symm (joined_append_ne (.inr rfl))
  | (k, s) :: entries, [] => by
      intro h
      rw [textEntries, textEntries] at h
      exact absurd h (joined_append_ne (.inr rfl))
  | (k, s) :: entries, (k', t) :: entries' => by
      intro h
      simp only [textEntries, joined_cons, String.toList_append, List.append_assoc] at h
      obtain ⟨rfl, hvalues⟩ := key_append (List.append_cancel_left h)
      obtain ⟨rfl, hrests⟩ := text_append s t (closed_joined _ (.inr rfl) _)
        (closed_joined _ (.inr rfl) _) hvalues
      obtain ⟨rfl, rfl⟩ := joinedEntries_append _ _ hrests
      exact ⟨rfl, rfl⟩

end

theorem text_injective {s t : Shape} (h : s.text = t.text) : s = t := by
  have hnil : Closed [] := nofun
  have happend : s.text.toList ++ [] = t.text.toList ++ [] := by rw [h]
  exact (text_append s t hnil hnil happend).1

end Shape

/-! ## Printing a value prints its shape -/

/-- What printing gives for a value of a shape. -/
def Shape.printed (s : Shape) : Result String :=
  if s.isLong then faulty (.tooManyDigits none) else .ok s.text

namespace Heap

/-- Printing with a number of steps gives the text of a shape that the object has. -/
def PrintsShape (h : Heap) (fuel : Nat) (path : List Ref) (r : Ref) : Prop :=
  ∃ s, h.HasShape r s ∧ h.printWithin fuel path r = s.text ∧ h.meetsLong fuel path r = s.isLong

theorem printsShapes {h : Heap} {fuel : Nat} {path : List Ref} : ∀ {items : List Ref},
    (∀ r ∈ items, h.PrintsShape fuel path r) → ∃ shapes, h.HaveShapes items shapes ∧
      items.map (h.printWithin fuel path) = Shape.textAll shapes ∧
      items.any (h.meetsLong fuel path) = Shape.isLongAny shapes
  | [], _ => ⟨[], trivial, rfl, rfl⟩
  | r :: items, hitems => by
      obtain ⟨s, hs, htext, hlong⟩ := hitems r List.mem_cons_self
      obtain ⟨shapes, hshapes, htexts, hlongs⟩ :=
        printsShapes fun r hr => hitems r (List.mem_cons_of_mem _ hr)
      refine ⟨s :: shapes, ⟨hs, hshapes⟩, ?_, ?_⟩
      · rw [List.map_cons, htext, htexts]
        rfl
      · rw [List.any_cons, hlong, hlongs]
        rfl

theorem entriesPrintShapes {h : Heap} {fuel : Nat} {path : List Ref} : ∀ {entries : Entries Ref},
    (∀ r ∈ entries.map (·.2), h.PrintsShape fuel path r) →
    ∃ shapes, h.EntriesHaveShapes entries shapes ∧
      entries.map (fun e => quoteString e.1 ++ ": " ++ h.printWithin fuel path e.2) =
        Shape.textEntries shapes ∧
      entries.any (fun e => h.meetsLong fuel path e.2) = Shape.isLongEntry shapes
  | [], _ => ⟨[], trivial, rfl, rfl⟩
  | (k, r) :: entries, hentries => by
      obtain ⟨s, hs, htext, hlong⟩ := hentries r List.mem_cons_self
      obtain ⟨shapes, hshapes, htexts, hlongs⟩ :=
        entriesPrintShapes fun r hr => hentries r (List.mem_cons_of_mem _ hr)
      refine ⟨(k, s) :: shapes, ⟨rfl, hs, hshapes⟩, ?_, ?_⟩
      · rw [List.map_cons, htext, htexts]
        rfl
      · rw [List.any_cons, hlong, hlongs]
        rfl

/-- One step of printing: an object prints its shape when all it holds do. -/
theorem Plain.printsShape_step {h : Heap} {v : Ref} (hv : h.Plain v) (fuel : Nat)
    (path : List Ref) (r : Ref) (hr : h.Reaches v r) (hpath : r ∉ path)
    (hchildren : ∀ s ∈ h.children r, h.PrintsShape fuel (r :: path) s) :
    h.PrintsShape (fuel + 1) path r := by
  have hnew : path.contains r = false := by
    rw [Bool.eq_false_iff, ne_eq, List.contains_iff_mem]
    exact hpath
  unfold PrintsShape
  unfold children at hchildren
  cases hvalue : h.value r with
  | number n => exact ⟨.number n, hvalue, by rw [printWithin, hvalue]; rfl,
      by rw [meetsLong, hvalue]; rfl⟩
  | string s => exact ⟨.string s, hvalue, by rw [printWithin, hvalue]; rfl,
      by rw [meetsLong, hvalue]; rfl⟩
  | blob bytes => exact ⟨.blob bytes, hvalue, by rw [printWithin, hvalue]; rfl,
      by rw [meetsLong, hvalue]; rfl⟩
  | float _ | funcref _ =>
      have hkind := hv.kinds hr
      rw [hvalue] at hkind
      cases hkind
  | list items =>
      rw [hvalue] at hchildren
      obtain ⟨shapes, hshapes, htexts, hlongs⟩ := printsShapes hchildren
      refine ⟨.list shapes, ⟨items, hvalue, hshapes⟩, ?_, ?_⟩
      · simp only [printWithin, hvalue, hnew, htexts, Bool.false_eq_true, if_false]
        rfl
      · simp only [meetsLong, hvalue, hnew, hlongs]
        rfl
  | dict table =>
      rw [hvalue] at hchildren
      obtain ⟨shapes, hshapes, htexts, hlongs⟩ := entriesPrintShapes hchildren
      refine ⟨.dict shapes, ⟨table, hvalue, hshapes⟩, ?_, ?_⟩
      · simp only [printWithin, hvalue, hnew, htexts, Bool.false_eq_true, if_false]
        rfl
      · simp only [meetsLong, hvalue, hnew, hlongs]
        rfl

theorem Plain.printed_eq {h : Heap} {v : Ref} (hv : h.Plain v) :
    ∃ s, h.HasShape v s ∧ h.printed v = s.printed := by
  have hfuel : h.size < h.printFuel + ([] : List Ref).length := by
    unfold printFuel
    simp only [List.length_nil]
    omega
  obtain ⟨s, hs, htext, hlong⟩ :=
    hv.acyclic.descend hv.printsShape_step (.start h v) hfuel
  refine ⟨s, hs, ?_⟩
  rw [printed, string, htext, hlong]
  rfl

end Heap

/-- Where one value is printed as a text, another one is printed as that text exactly when the two
have the same shape: the same kind, the same number, characters or bytes, and the same items
or keys in the same order with values of the same shape. -/
theorem printed_eq_iff_same_shape {h g : Heap} {v w : Ref} {text : String} (hv : h.Plain v)
    (hw : g.Plain w) (htext : h.printed v = .ok text) :
    g.printed w = .ok text ↔ ∃ s, h.HasShape v s ∧ g.HasShape w s := by
  obtain ⟨s, hs, hprinted⟩ := hv.printed_eq
  obtain ⟨t, ht, hprinted'⟩ := hw.printed_eq
  constructor
  · intro htext'
    have hsame : s = t := by
      rw [hprinted, Shape.printed] at htext
      rw [hprinted', Shape.printed] at htext'
      split at htext
      · cases htext
      · split at htext'
        · cases htext'
        · exact Shape.text_injective (Except.ok.inj (htext.trans htext'.symm))
    exact ⟨s, hs, hsame ▸ ht⟩
  · rintro ⟨shape, hshape, hshape'⟩
    rw [hprinted', ht.unique hshape', ← hs.unique hshape, ← hprinted, htext]

/-- A List that holds a String twice, and a Dictionary with a Blob. -/
def shared : Heap where
  cells := #[{ value := .list [⟨1⟩, ⟨1⟩, ⟨2⟩] }, { value := .string "it's], " },
    { value := .dict { entries := [("a'b", ⟨3⟩)] } }, { value := .blob [0, 255] }]

/-- The same without sharing, in another order. -/
def unshared : Heap where
  cells := #[{ value := .number 7 }, { value := .list [⟨2⟩, ⟨3⟩, ⟨4⟩] },
    { value := .string "it's], " }, { value := .string "it's], " },
    { value := .dict { entries := [("a'b", ⟨5⟩)] } }, { value := .blob [0, 255] }]

theorem shared_printed :
    shared.Plain ⟨0⟩ ∧ unshared.Plain ⟨1⟩ ∧
      shared.printed ⟨0⟩ = .ok "['it''s], ', 'it''s], ', \x7b'a''b': 0z00FF\x7d]" ∧
      ∃ s, shared.HasShape ⟨0⟩ s ∧ unshared.HasShape ⟨1⟩ s := by
  have hshared : shared.Plain ⟨0⟩ := .of_forward (by decide) ⟨0⟩
  have hunshared : unshared.Plain ⟨1⟩ := .of_forward (by decide) ⟨1⟩
  have hprinted : shared.printed ⟨0⟩ =
      .ok "['it''s], ', 'it''s], ', \x7b'a''b': 0z00FF\x7d]" := by rfl
  exact ⟨hshared, hunshared, hprinted,
    (printed_eq_iff_same_shape hshared hunshared hprinted).mp (by rfl)⟩

end Vimscript
