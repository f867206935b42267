import Mathlib.Data.List.TakeWhile
import Vimscript.Proofs.Number.Written
import Vimscript.Proofs.Text.Piece

/-!
# The literal a text starts with

A text is a literal as a whole (`parse?`), or is used as the literal that it
starts with (`leading`). The two readers tell hexadecimal, octal and decimal
literals apart in different ways, and no text is read by both in the same
order. What they share is the part of a text that is its literal
(`literalPart`): a whole literal is its own part (`parseUnsigned?_eq_some_iff`),
and the leading one has the value of this part (`leadingUnsigned_eq`). The part
grows with the text (`literalPart_mono`), so that a literal among the
beginnings of a text is never longer than the part of the text itself.

Both readers refuse the same literals, those with too many decimal digits.
-/

namespace Vimscript.Number

/-! ## Unsigned literals -/

/-- Whether a text starts with a hexadecimal literal. -/
def startsHex : List Char → Bool
  | '0' :: x :: d :: _ => (x == 'x' || x == 'X') && isHex d
  | _ => false

/-- The unsigned literal a text starts with: a mark and hexadecimal digits, or decimal digits. -/
def literalPart (cs : List Char) : List Char :=
  if startsHex cs then cs.take 2 ++ (cs.drop 2).takeWhile isHex else cs.takeWhile Char.isDigit

/-- What an unsigned literal stands for. -/
def literalValue (cs : List Char) : Nat :=
  if startsHex cs then ofDigits 16 (cs.drop 2)
  else if cs.head? = some '0' then zeroLed cs
  else ofDigits 10 cs

variable {cs p : List Char}

theorem startsHex_iff : startsHex cs = true ↔
    ∃ x d rest, cs = '0' :: x :: d :: rest ∧ (x = 'x' ∨ x = 'X') ∧ isHex d = true := by
  constructor
  · intro h
    unfold startsHex at h
    split at h
    · rename_i x d rest
      simp only [Bool.and_eq_true, Bool.or_eq_true, beq_iff_eq] at h
      exact ⟨x, d, rest, rfl, h⟩
    · cases h
  · rintro ⟨x, d, rest, rfl, hx, hd⟩
    simp [startsHex, hx, hd]

/-- The mark of a hexadecimal literal is no digit. -/
theorem not_isDigit_of_mark {x : Char} (hx : x = 'x' ∨ x = 'X') : x.isDigit = false := by
  rcases hx with rfl | rfl <;> decide

/-- Digits alone are no hexadecimal literal. -/
theorem startsHex_of_digits (hcs : ∀ c ∈ cs, c.isDigit = true) : startsHex cs = false := by
  by_contra h
  obtain ⟨x, d, rest, rfl, hx, -⟩ := startsHex_iff.mp (Bool.not_eq_false _ ▸ h)
  have hdigit := hcs x (by simp)
  rw [not_isDigit_of_mark hx] at hdigit
  cases hdigit

theorem zeroLed_zero (cs : List Char) : zeroLed ('0' :: cs) = zeroLed cs := by
  have hzero : isOctal '0' = true := by decide
  rw [zeroLed, zeroLed, List.all_cons, hzero, Bool.true_and, ofDigits_zero_cons,
    ofDigits_zero_cons]

theorem literalPart_of_hex {x d : Char} {rest : List Char} (hx : x = 'x' ∨ x = 'X')
    (hd : isHex d = true) :
    literalPart ('0' :: x :: d :: rest) = '0' :: x :: (d :: rest).takeWhile isHex := by
  rw [literalPart, if_pos (startsHex_iff.mpr ⟨x, d, rest, rfl, hx, hd⟩)]
  rfl

theorem literalPart_of_digits (hcs : startsHex cs = false) :
    literalPart cs = cs.takeWhile Char.isDigit := by
  rw [literalPart, hcs, if_neg Bool.false_ne_true]

theorem head?_ne_zero (hcs : ∀ rest, cs = '0' :: rest → False) : cs.head? ≠ some '0' := by
  intro h
  obtain ⟨rest, rfl⟩ := List.head?_eq_some_iff.mp h
  exact hcs rest rfl

theorem parseUnsigned?_of_hex {x d : Char} {rest : List Char} (hx : x = 'x' ∨ x = 'X') :
    parseUnsigned? ('0' :: x :: d :: rest) =
      if (d :: rest).all isHex then some (ofDigits 16 (d :: rest)) else none := by
  have hmark : (x == 'x' || x == 'X') = true := by simpa using hx
  have hdigits : (x :: d :: rest).all Char.isDigit = false := by
    rw [List.all_cons, not_isDigit_of_mark hx, Bool.false_and]
  rw [parseUnsigned?, hmark, hdigits, Bool.true_and]
  rfl

theorem parseUnsigned?_of_digits (hcs : startsHex cs = false) :
    parseUnsigned? cs =
      if cs ≠ [] ∧ cs.all Char.isDigit = true then some (literalValue cs) else none := by
  have hzero : Char.isDigit '0' = true := by decide
  unfold parseUnsigned?
  split
  · rfl
  · rename_i x d rest
    have hmark : ((x == 'x' || x == 'X') && (d :: rest).all isHex) = false := by
      rw [List.all_cons, ← Bool.and_assoc]
      rw [startsHex] at hcs
      rw [hcs, Bool.false_and]
    rw [hmark, literalValue, hcs, zeroLed_zero]
    simp [hzero]
  · rename_i rest _
    rw [literalValue, hcs, zeroLed_zero]
    simp [hzero]
  · rename_i hne _ hother
    have hne : cs ≠ [] := hne
    rw [literalValue, hcs, if_neg Bool.false_ne_true, if_neg (head?_ne_zero hother)]
    simp [hne]

/-- A text is a literal as a whole if it is the literal it starts with. -/
theorem parseUnsigned?_eq_some_iff {n : Nat} :
    parseUnsigned? cs = some n ↔ cs ≠ [] ∧ literalPart cs = cs ∧ literalValue cs = n := by
  by_cases hcs : startsHex cs = true
  · obtain ⟨x, d, rest, rfl, hx, hd⟩ := startsHex_iff.mp hcs
    have hwhole : literalPart ('0' :: x :: d :: rest) = '0' :: x :: d :: rest ↔
        (d :: rest).all isHex = true := by
      rw [literalPart_of_hex hx hd, List.cons.injEq, List.cons.injEq, List.takeWhile_eq_self_iff,
        List.all_eq_true]
      simp
    rw [parseUnsigned?_of_hex hx, hwhole, literalValue, if_pos hcs]
    simp
  · have hcs := Bool.eq_false_iff.mpr hcs
    have hwhole : literalPart cs = cs ↔ cs.all Char.isDigit = true := by
      rw [literalPart_of_digits hcs, List.takeWhile_eq_self_iff, List.all_eq_true]
    rw [parseUnsigned?_of_digits hcs, hwhole, Option.ite_none_right_eq_some, and_assoc,
      Option.some.injEq]

/-- A text that starts with a literal is used as this literal. -/
theorem leadingUnsigned_eq (cs : List Char) :
    leadingUnsigned cs = literalValue (literalPart cs) := by
  by_cases hcs : startsHex cs = true
  · obtain ⟨x, d, rest, rfl, hx, hd⟩ := startsHex_iff.mp hcs
    have hmark : ((x == 'x' || x == 'X') && isHex d) = true := by simpa [hd] using hx
    have hpart : startsHex ('0' :: x :: (d :: rest).takeWhile isHex) = true := by
      rw [List.takeWhile_cons_of_pos hd]
      exact hcs
    rw [literalPart_of_hex hx hd, literalValue, if_pos hpart, leadingUnsigned, if_pos hmark]
    rfl
  · have hcs := Bool.eq_false_iff.mpr hcs
    have hpart : startsHex (cs.takeWhile Char.isDigit) = false :=
      startsHex_of_digits fun _ => List.mem_takeWhile_imp
    rw [literalPart_of_digits hcs, literalValue, hpart, if_neg Bool.false_ne_true]
    unfold leadingUnsigned
    split
    · rename_i rest
      have hzero : Char.isDigit '0' = true := by decide
      rw [List.takeWhile_cons_of_pos hzero, List.head?_cons, if_pos rfl, zeroLed_zero]
      split
      · rename_i x d more
        rw [startsHex] at hcs
        rw [hcs, if_neg Bool.false_ne_true]
      · rfl
    · rename_i hother
      have hhead : (cs.takeWhile Char.isDigit).head? ≠ some '0' := by
        rw [List.head?_takeWhile, ne_eq, Option.filter_eq_some_iff]
        exact fun h => head?_ne_zero hother h.1
      rw [if_neg hhead]

/-! ## The longest literal -/

theorem literalPart_isPrefix (cs : List Char) : literalPart cs <+: cs := by
  unfold literalPart
  split
  · obtain ⟨rest, hrest⟩ := List.takeWhile_prefix isHex (l := cs.drop 2)
    exact ⟨rest, by rw [List.append_assoc, hrest, List.take_append_drop]⟩
  · exact List.takeWhile_prefix _

/-- What a text starts with is a literal by itself. -/
theorem literalPart_idem (cs : List Char) : literalPart (literalPart cs) = literalPart cs := by
  by_cases hcs : startsHex cs = true
  · obtain ⟨x, d, rest, rfl, hx, hd⟩ := startsHex_iff.mp hcs
    rw [literalPart_of_hex hx hd, List.takeWhile_cons_of_pos hd, literalPart_of_hex hx hd,
      ← List.takeWhile_cons_of_pos hd, List.takeWhile_idem]
  · have hcs := Bool.eq_false_iff.mpr hcs
    have hpart : startsHex (cs.takeWhile Char.isDigit) = false :=
      startsHex_of_digits fun _ => List.mem_takeWhile_imp
    rw [literalPart_of_digits hcs, literalPart_of_digits hpart, List.takeWhile_idem]

theorem takeWhile_mono {q : Char → Bool} (hp : p <+: cs) : p.takeWhile q <+: cs.takeWhile q := by
  obtain ⟨rest, rfl⟩ := hp
  rw [List.takeWhile_append]
  split
  · exact (List.takeWhile_prefix q).trans (List.prefix_append p _)
  · exact List.prefix_rfl

/-- A literal contains the digits that a text starts with. -/
theorem takeWhile_prefix_literalPart (cs : List Char) :
    cs.takeWhile Char.isDigit <+: literalPart cs := by
  by_cases hcs : startsHex cs = true
  · obtain ⟨x, d, rest, rfl, hx, hd⟩ := startsHex_iff.mp hcs
    have hzero : ('0' :: x :: d :: rest).takeWhile Char.isDigit = ['0'] := by
      simp [not_isDigit_of_mark hx]
    rw [hzero, literalPart_of_hex hx hd]
    exact List.prefix_append ['0'] _
  · have hdigits := literalPart_of_digits (Bool.eq_false_iff.mpr hcs)
    exact hdigits ▸ List.prefix_rfl

theorem takeWhile_literalPart (cs : List Char) :
    (literalPart cs).takeWhile Char.isDigit = cs.takeWhile Char.isDigit := by
  refine (takeWhile_mono (literalPart_isPrefix cs)).eq_of_length_le ?_
  have hmono := takeWhile_mono (q := Char.isDigit) (takeWhile_prefix_literalPart cs)
  rw [List.takeWhile_idem] at hmono
  exact hmono.length_le

/-- A longer text does not start with a shorter literal. -/
theorem literalPart_mono (hp : p <+: cs) : literalPart p <+: literalPart cs := by
  by_cases hhex : startsHex p = true
  · obtain ⟨x, d, more, rfl, hx, hd⟩ := startsHex_iff.mp hhex
    obtain ⟨rest, rfl⟩ := hp
    have hdigits : (d :: more).takeWhile isHex <+: (d :: (more ++ rest)).takeWhile isHex :=
      takeWhile_mono (List.prefix_append (d :: more) rest)
    rw [List.cons_append, List.cons_append, List.cons_append, literalPart_of_hex hx hd,
      literalPart_of_hex hx hd, List.cons_prefix_cons, List.cons_prefix_cons]
    exact ⟨rfl, rfl, hdigits⟩
  · rw [literalPart_of_digits (Bool.eq_false_iff.mpr hhex)]
    exact (takeWhile_mono hp).trans (takeWhile_prefix_literalPart cs)

theorem isDigit_of_head?_literalPart {c : Char} (hc : (literalPart cs).head? = some c) :
    c.isDigit = true := by
  by_cases hcs : startsHex cs = true
  · obtain ⟨x, d, rest, rfl, hx, hd⟩ := startsHex_iff.mp hcs
    rw [literalPart_of_hex hx hd] at hc
    cases hc
    decide
  · rw [literalPart_of_digits (Bool.eq_false_iff.mpr hcs), List.head?_takeWhile,
      Option.filter_eq_some_iff] at hc
    exact hc.2

/-! ## Signs -/

/-- The sign of a literal as it is written. -/
def signText (negative : Bool) : List Char := if negative then ['-'] else []

theorem signText_append (cs : List Char) : signText (splitSign cs).1 ++ (splitSign cs).2 = cs := by
  unfold splitSign
  split <;> rfl

theorem splitSign_signText (negative : Bool) {digits : List Char}
    (hdigits : digits.head? ≠ some '-') :
    splitSign (signText negative ++ digits) = (negative, digits) := by
  cases negative with
  | true => rfl
  | false =>
      unfold splitSign
      split
      · rename_i rest heq
        rw [show signText false ++ digits = digits from rfl] at heq
        rw [heq] at hdigits
        exact absurd rfl hdigits
      · rfl

/-- What a text starts with has the same sign, if it is long enough to have one. -/
theorem splitSign_isPrefix (hp : p <+: cs) (hne : p ≠ []) :
    (splitSign p).1 = (splitSign cs).1 ∧ (splitSign p).2 <+: (splitSign cs).2 := by
  obtain ⟨rest, rfl⟩ := hp
  obtain ⟨c, p, rfl⟩ := List.exists_cons_of_ne_nil hne
  by_cases hc : c = '-'
  · subst hc
    exact ⟨rfl, List.prefix_append p rest⟩
  · have hsplit : ∀ cs, splitSign (c :: cs) = (false, c :: cs) := fun cs => by
      unfold splitSign
      split
      · rename_i heq
        exact absurd (List.cons.inj heq).1 hc
      · rfl
    rw [List.cons_append, hsplit, hsplit]
    exact ⟨rfl, List.prefix_append (c :: p) rest⟩

/-! ## Texts -/

variable {s t : String} {n : Int}

/-- The literal that a text starts with, with its sign. -/
def longestLiteral (t : String) : String :=
  String.ofList (signText (splitSign t.toList).1 ++ literalPart (splitSign t.toList).2)

/-- Whether a text starts with a literal. -/
def startsLiteral (t : String) : Bool := !(literalPart (splitSign t.toList).2).isEmpty

theorem toList_longestLiteral (t : String) : (longestLiteral t).toList =
    signText (splitSign t.toList).1 ++ literalPart (splitSign t.toList).2 := String.toList_ofList

theorem splitSign_longestLiteral (t : String) : splitSign (longestLiteral t).toList =
    ((splitSign t.toList).1, literalPart (splitSign t.toList).2) := by
  rw [toList_longestLiteral, splitSign_signText]
  intro hminus
  have hdigit := isDigit_of_head?_literalPart hminus
  revert hdigit
  decide

theorem parse?_eq (s : String) :
    parse? s = (parseUnsigned? (splitSign s.toList).2).map (signed (splitSign s.toList).1) := rfl

theorem leading_eq (s : String) :
    leading s = signed (splitSign s.toList).1 (leadingUnsigned (splitSign s.toList).2) := rfl

theorem longestLiteral_isPrefix (t : String) : (longestLiteral t).toList <+: t.toList := by
  obtain ⟨rest, hrest⟩ := literalPart_isPrefix (splitSign t.toList).2
  exact ⟨rest, by rw [toList_longestLiteral, List.append_assoc, hrest, signText_append]⟩

theorem parse?_longestLiteral (ht : startsLiteral t = true) :
    parse? (longestLiteral t) = some (leading t) := by
  have hne : literalPart (splitSign t.toList).2 ≠ [] := by simpa [startsLiteral] using ht
  rw [parse?_eq, splitSign_longestLiteral, leading_eq,
    parseUnsigned?_eq_some_iff.mpr ⟨hne, literalPart_idem _, rfl⟩, leadingUnsigned_eq]
  rfl

/-- Every literal among the beginnings of a text is a beginning of the longest one. -/
theorem prefix_longestLiteral (hs : s.toList <+: t.toList) (hparse : parse? s = some n) :
    startsLiteral t = true ∧ s.toList <+: (longestLiteral t).toList := by
  rw [parse?_eq, Option.map_eq_some_iff] at hparse
  obtain ⟨m, hm, -⟩ := hparse
  obtain ⟨hne, hwhole, -⟩ := parseUnsigned?_eq_some_iff.mp hm
  have hnonempty : s.toList ≠ [] := by
    rintro hnil
    rw [hnil] at hne
    exact hne rfl
  obtain ⟨hsign, hdigits⟩ := splitSign_isPrefix hs hnonempty
  have hpart : (splitSign s.toList).2 <+: literalPart (splitSign t.toList).2 := by
    have hmono := literalPart_mono hdigits
    rwa [hwhole] at hmono
  constructor
  · rw [startsLiteral, Bool.not_eq_true', List.isEmpty_eq_false_iff]
    rintro hnil
    rw [hnil, List.prefix_nil] at hpart
    exact hne hpart
  · rw [← signText_append s.toList, hsign, toList_longestLiteral]
    exact (List.prefix_append_right_inj _).mpr hpart

theorem leading_of_no_literal (ht : startsLiteral t = false) : leading t = 0 := by
  have hnil : literalPart (splitSign t.toList).2 = [] := by simpa [startsLiteral] using ht
  rw [leading_eq, leadingUnsigned_eq, hnil]
  unfold signed
  split <;> rfl

theorem decimalDigits_longestLiteral (t : String) :
    decimalDigits (longestLiteral t) = decimalDigits t := by
  rw [decimalDigits, splitSign_longestLiteral, takeWhile_literalPart]
  rfl

theorem decimalDigits_of_no_literal (ht : startsLiteral t = false) : decimalDigits t = [] := by
  have hnil : literalPart (splitSign t.toList).2 = [] := by simpa [startsLiteral] using ht
  have hdigits : (splitSign t.toList).2.takeWhile Char.isDigit = [] := by
    rw [← takeWhile_literalPart, hnil]
    rfl
  rw [decimalDigits, hdigits]
  rfl

/-! ## Reading -/

theorem readLeading_eq (t : String) :
    readLeading t = if maxDigits < (decimalDigits t).length
      then .error (.tooManyDigits (some (decimalDigits t).length)) else .ok (leading t) := by
  rw [readLeading, checkDigits]
  split <;> rfl

theorem readWhole?_of_parse (hs : parse? s = some n) :
    readWhole? s = if maxDigits < (decimalDigits s).length
      then .error (.tooManyDigits (some (decimalDigits s).length)) else .ok (some n) := by
  rw [readWhole?, hs]
  dsimp only
  rw [checkDigits]
  split <;> rfl

theorem parse?_of_readWhole? (hs : readWhole? s = .ok (some n)) : parse? s = some n := by
  cases hparse : parse? s with
  | none =>
      rw [readWhole?, hparse] at hs
      cases hs
  | some m =>
      rw [readWhole?_of_parse hparse] at hs
      split at hs
      · cases hs
      · cases hs
        rfl

/-- Used as a Number, a text is the longest literal among its beginnings that can be read, and zero
if there is none. -/
def ReadsLongest (t : String) : Prop :=
  (∃ p n, p.toList <+: t.toList ∧ readWhole? p = .ok (some n) ∧ readLeading t = .ok n ∧
    ∀ q m, q.toList <+: t.toList → readWhole? q = .ok (some m) → q.length ≤ p.length) ∨
  ((∀ p n, p.toList <+: t.toList → readWhole? p ≠ .ok (some n)) ∧ readLeading t = .ok 0)

theorem readsLongest_of_short (ht : (decimalDigits t).length ≤ maxDigits) : ReadsLongest t := by
  have hlead : readLeading t = .ok (leading t) := by
    rw [readLeading_eq, if_neg (Nat.not_lt.mpr ht)]
  cases hstarts : startsLiteral t with
  | true =>
      have hwhole : readWhole? (longestLiteral t) = .ok (some (leading t)) := by
        rw [readWhole?_of_parse (parse?_longestLiteral hstarts), decimalDigits_longestLiteral,
          if_neg (Nat.not_lt.mpr ht)]
      refine .inl ⟨_, _, longestLiteral_isPrefix t, hwhole, hlead, fun q m hq hread => ?_⟩
      have hprefix := (prefix_longestLiteral hq (parse?_of_readWhole? hread)).2
      rw [← String.length_toList, ← String.length_toList]
      exact hprefix.length_le
  | false =>
      refine .inr ⟨fun p n hp hread => ?_, ?_⟩
      · rw [(prefix_longestLiteral hp (parse?_of_readWhole? hread)).1] at hstarts
        cases hstarts
      · rw [hlead, leading_of_no_literal hstarts]

/-- A text with too many digits has a literal that cannot be read, and neither can the text. -/
theorem unread_of_long (ht : maxDigits < (decimalDigits t).length) :
    ∃ p fault, p.toList <+: t.toList ∧ readWhole? p = .error fault ∧
      readLeading t = .error fault := by
  have hstarts : startsLiteral t = true := by
    by_contra hno
    rw [decimalDigits_of_no_literal (Bool.eq_false_iff.mpr hno)] at ht
    cases ht
  refine ⟨longestLiteral t, _, longestLiteral_isPrefix t, ?_, by rw [readLeading_eq, if_pos ht]⟩
  rw [readWhole?_of_parse (parse?_longestLiteral hstarts), decimalDigits_longestLiteral, if_pos ht]

theorem readsLongest_iff : ReadsLongest t ↔ (decimalDigits t).length ≤ maxDigits := by
  refine ⟨fun hreads => ?_, readsLongest_of_short⟩
  by_contra hlong
  have hfault := readLeading_eq t
  rw [if_pos (Nat.not_le.mp hlong)] at hfault
  obtain ⟨-, n, -, -, hlead, -⟩ | ⟨-, hlead⟩ := hreads
  · rw [hfault] at hlead
    cases hlead
  · rw [hfault] at hlead
    cases hlead

/-- A text that is a literal as a whole is the longest one among its beginnings. -/
theorem readLeading_of_whole (ht : readWhole? t = .ok (some n)) : readLeading t = .ok n := by
  have hparse := parse?_of_readWhole? ht
  obtain ⟨hstarts, hwhole⟩ := prefix_longestLiteral List.prefix_rfl hparse
  have hself : longestLiteral t = t :=
    String.toList_inj.mp ((longestLiteral_isPrefix t).eq_of_length_le hwhole.length_le)
  have hlead := parse?_longestLiteral hstarts
  rw [hself, hparse] at hlead
  rw [readWhole?_of_parse hparse] at ht
  rw [readLeading_eq]
  split at ht
  · cases ht
  · rename_i hshort
    rw [if_neg hshort, Option.some.inj hlead]

/-! ## Written numbers -/

/-- What follows a written number without changing how it is read: no digit and, after a zero, not
the letter of a hexadecimal mark. -/
def Separate (n : Int) (rest : List Char) : Prop :=
  Text.StopsAt Char.isDigit rest ∧ (n = 0 → ∀ c ∈ rest.head?, c ≠ 'x' ∧ c ≠ 'X')

/-- A number is read back from its decimal text, by itself and before any other text. -/
def ReadsBack (n : Int) : Prop :=
  readWhole? (toString n) = .ok (some n) ∧
    ∀ rest : String, Separate n rest.toList → readLeading (toString n ++ rest) = .ok n

theorem startsHex_toDigits {n : Nat} {rest : List Char} (hrest : Separate n rest) :
    startsHex (Nat.toDigits 10 n ++ rest) = false := by
  by_contra hhex
  obtain ⟨x, d, more, htext, hx, -⟩ := startsHex_iff.mp (Bool.not_eq_false _ ▸ hhex)
  have hhead : (Nat.toDigits 10 n).head? = some '0' := by
    have happend := congrArg List.head? htext
    rwa [List.head?_append, Option.or_of_isSome (List.isSome_head?.mpr Nat.toDigits_ne_nil)]
      at happend
  have hzero : n = 0 := by
    by_contra hne
    exact head?_toDigits (Nat.pos_of_ne_zero hne) hhead
  subst hzero
  rw [Nat.toDigits_zero] at htext
  cases htext
  have hmark := hrest.2 rfl x rfl
  rcases hx with rfl | rfl
  · exact hmark.1 rfl
  · exact hmark.2 rfl

theorem literalPart_toDigits {n : Nat} {rest : List Char} (hrest : Separate n rest) :
    literalPart (Nat.toDigits 10 n ++ rest) = Nat.toDigits 10 n := by
  rw [literalPart_of_digits (startsHex_toDigits hrest),
    Text.takeWhile_append_rest (fun _ => isDigit_of_mem) hrest.1]

theorem literalValue_toDigits (n : Nat) : literalValue (Nat.toDigits 10 n) = n := by
  rw [literalValue, startsHex_of_digits fun _ => isDigit_of_mem, if_neg Bool.false_ne_true]
  split
  · rename_i hhead
    have hzero : n = 0 := by
      by_contra hne
      exact head?_toDigits (Nat.pos_of_ne_zero hne) hhead
    rw [hzero]
    rfl
  · exact ofDigits_ten_toDigits n

theorem Separate.natAbs {rest : List Char} (hrest : Separate n rest) : Separate n.natAbs rest :=
  ⟨hrest.1, fun hzero => hrest.2 (by omega)⟩

theorem separate_nil (n : Int) : Separate n [] := ⟨nofun, nofun⟩

/-- The longest literal of a written number and what follows it is the number. -/
theorem longestLiteral_toString {rest : String} (hrest : Separate n rest.toList) :
    startsLiteral (toString n ++ rest) = true ∧ longestLiteral (toString n ++ rest) = toString n ∧
      leading (toString n ++ rest) = n := by
  have hsplit : splitSign (toString n ++ rest).toList =
      (decide (n < 0), Nat.toDigits 10 n.natAbs ++ rest.toList) := by
    rw [String.toList_append, splitSign_toString]
  have hpart := literalPart_toDigits hrest.natAbs
  refine ⟨?_, ?_, ?_⟩
  · rw [startsLiteral, hsplit, hpart, Bool.not_eq_true', List.isEmpty_eq_false_iff]
    exact Nat.toDigits_ne_nil
  · rw [← String.toList_inj, toList_longestLiteral, hsplit, hpart, toList_toString, signText]
    simp only [decide_eq_true_eq]
  · rw [leading_eq, hsplit, leadingUnsigned_eq, hpart, literalValue_toDigits, signed_natAbs]

theorem decimalDigits_toString {rest : String} (hrest : Separate n rest.toList) :
    maxDigits < (decimalDigits (toString n ++ rest)).length ↔ isLong n = true := by
  rw [← Bool.not_eq_false, ← length_toDigits_le, Nat.not_le, decimalDigits, String.toList_append,
    splitSign_toString]
  dsimp only
  rw [Text.takeWhile_append_rest (fun _ => isDigit_of_mem) hrest.1]
  split
  · rename_i hoctal
    have hzero : n.natAbs = 0 := by
      by_contra hne
      simp only [Bool.and_eq_true, beq_iff_eq] at hoctal
      exact head?_toDigits (Nat.pos_of_ne_zero hne) hoctal.1
    rw [hzero, Nat.toDigits_zero]
    decide
  · rfl

/-- A number is read back from its decimal text unless it has too many digits. -/
theorem readsBack_iff : ReadsBack n ↔ isLong n = false := by
  have hself : toString n ++ "" = toString n := String.append_empty
  have hend : Separate n "".toList := separate_nil n
  obtain ⟨hstarts, hliteral, hlead⟩ := longestLiteral_toString hend
  have hparse := parse?_longestLiteral hstarts
  have hdigits := decimalDigits_toString hend
  rw [hliteral, hlead] at hparse
  rw [hself] at hdigits
  constructor
  · rintro ⟨hread, -⟩
    rw [readWhole?_of_parse hparse] at hread
    split at hread
    · cases hread
    · rename_i hshort
      rw [hdigits] at hshort
      exact Bool.eq_false_iff.mpr hshort
  · intro hshort
    have hfalse : ¬isLong n = true := Bool.eq_false_iff.mp hshort
    refine ⟨?_, fun rest hrest => ?_⟩
    · rw [readWhole?_of_parse hparse, if_neg (hdigits.not.mpr hfalse)]
    · rw [readLeading_eq, if_neg ((decimalDigits_toString hrest).not.mpr hfalse),
        (longestLiteral_toString hrest).2.2]

/-- A text is used as the longest literal it starts with, and a number is read back from its decimal
text, unless there are too many digits. Then nothing is read, neither from the literal nor from
the text. -/
theorem leading_reads_longest_iff (t : String) (n : Int) :
    (ReadsLongest t ↔ (decimalDigits t).length ≤ maxDigits) ∧
    (maxDigits < (decimalDigits t).length → ∃ p fault, p.toList <+: t.toList ∧
      readWhole? p = .error fault ∧ readLeading t = .error fault) ∧
    (∀ m, readWhole? t = .ok (some m) → readLeading t = .ok m) ∧
    (ReadsBack n ↔ isLong n = false) :=
  ⟨readsLongest_iff, unread_of_long, fun _ hwhole => readLeading_of_whole hwhole, readsBack_iff⟩

/-- A decimal with a zero first is a literal as a whole, and minus nineteen is read back. -/
theorem zeroNineteen_read :
    ReadsLongest "019" ∧ readWhole? "019" = .ok (some 19) ∧ readLeading "019" = .ok 19 ∧
      ReadsBack (-19) := by
  have hread : readWhole? "019" = .ok (some 19) := by decide
  obtain ⟨hlongest, -, hwhole, hback⟩ := leading_reads_longest_iff "019" (-19)
  exact ⟨hlongest.mpr (by decide), hread, hwhole 19 hread,
    hback.mpr (length_toDigits_le.mp (by decide))⟩

theorem decimalDigits_nines (count : Nat) :
    decimalDigits (String.ofList (List.replicate count '9')) = List.replicate count '9' := by
  have hdigits : (List.replicate count '9').takeWhile Char.isDigit = List.replicate count '9' := by
    rw [List.takeWhile_eq_self_iff]
    intro c hc
    rw [List.eq_of_mem_replicate hc]
    decide
  rw [decimalDigits, String.toList_ofList]
  cases count with
  | zero => rfl
  | succ count =>
      have hsplit : splitSign (List.replicate (count + 1) '9') =
          (false, List.replicate (count + 1) '9') := rfl
      have hhead : (List.replicate (count + 1) '9').head? = some '9' := rfl
      rw [hsplit, hdigits, hhead]
      rfl

/-- With one digit more than is ever read, a text is not used as the literal that it is, and a
number is not read back. -/
theorem nines_not_read : ¬ReadsLongest (String.ofList (List.replicate (maxDigits + 1) '9')) ∧
    ¬ReadsBack (Nat.pow 10 maxDigits : Nat) := by
  have hlong : isLong ((Nat.pow 10 maxDigits : Nat) : Int) = true := by
    rw [isLong, Int.natAbs_natCast]
    exact decide_eq_true (Nat.le_refl _)
  rw [readsLongest_iff, decimalDigits_nines, List.length_replicate, readsBack_iff, hlong]
  exact ⟨Nat.not_succ_le_self maxDigits, Bool.noConfusion⟩

end Vimscript.Number
