import Vimscript.Library.Number
import Vimscript.Proofs.Library.Splitting
import Vimscript.Proofs.Number.Positional
import Vimscript.Proofs.Operator.Arithmetic
import Vimscript.Proofs.Text.Piece

/-!
# `str2nr()`

A text starts with a numeral of a base (`Numeral.Writes`): white space, a
sign, the mark of the base and digits, of which only the digits must be
there. The function gives the number back, wrapped into 64 bits, whatever
follows the numeral, as long as it could not belong to it. That would be
one more digit, or the letter of the mark after a zero by itself.

The parts are taken off one after the other, and each ends where the next
one starts: after the white space there is a sign or a digit, after the sign
a digit. A mark could be taken for digits, or digits for a mark, but the
letter of a mark is no digit of its own base (`not_isDigitIn_of_marks`),
although it may be one of another base. So `dropBaseMark` takes the mark off
and no digit (`dropBaseMark_body`). The digits are added up without a bound;
only the result is wrapped.
-/

namespace Vimscript

/-! ## White space -/

namespace Text

variable {c : Char}

/-- White space in ASCII: the controls from the tab to the carriage return, and those from the file
separator to the space. -/
def IsAsciiBlank (c : Char) : Prop :=
  (9 ≤ c.toNat ∧ c.toNat ≤ 13) ∨ (28 ≤ c.toNat ∧ c.toNat ≤ 32)

theorem isBlank_iff_of_ascii (hc : c.toNat < 128) : isBlank c = true ↔ IsAsciiBlank c := by
  have hall : ∀ code < 128, inRuns blankRuns code = true ↔
      (9 ≤ code ∧ code ≤ 13) ∨ (28 ≤ code ∧ code ≤ 32) := by decide +kernel
  exact hall c.toNat hc

theorem isBlank_of_isAsciiBlank (hc : IsAsciiBlank c) : isBlank c = true := by
  have hascii : c.toNat < 128 := by
    unfold IsAsciiBlank at hc
    omega
  exact (isBlank_iff_of_ascii hascii).mpr hc

theorem isBlank_of_visible (hlow : 32 < c.toNat) (hhigh : c.toNat < 128) :
    isBlank c = false := by
  rw [Bool.eq_false_iff, ne_eq, isBlank_iff_of_ascii hhigh, IsAsciiBlank]
  omega

end Text

/-! ## Numerals -/

namespace Number

variable {base : Nat} {c : Char} {n : Int}

/-- The letter after a zero that marks a base. The decimal base has none. -/
def markLetter? : Nat → Option Char
  | 2 => some 'b'
  | 8 => some 'o'
  | 16 => some 'x'
  | _ => none

/-- A letter, small or capital, marks a base. -/
def Marks (base : Nat) (c : Char) : Prop := markLetter? base = some c.toLower

instance (base : Nat) (c : Char) : Decidable (Marks base c) :=
  inferInstanceAs (Decidable (markLetter? base = some c.toLower))

/-- A sign that a number may be written with. -/
def IsSignOf (n : Int) (sign : List Char) : Prop :=
  (n ≤ 0 ∧ sign = ['-']) ∨ (0 ≤ n ∧ (sign = ['+'] ∨ sign = []))

/-- A numeral in parts, and the rest of the text that it starts. -/
structure Numeral where
  blanks : List Char
  sign : List Char
  mark : List Char
  digits : List Char
  rest : List Char

namespace Numeral

/-- Everything from the mark on. -/
def body (p : Numeral) : List Char := p.mark ++ (p.digits ++ p.rest)

/-- The text. -/
def text (p : Numeral) : String := String.ofList (p.blanks ++ (p.sign ++ p.body))

/-- A numeral writes an integer in a base, and the rest of the text does not belong to it. -/
structure Writes (p : Numeral) (base : Nat) (n : Int) : Prop where
  blanks : ∀ c ∈ p.blanks, Text.IsAsciiBlank c
  sign : IsSignOf n p.sign
  mark : p.mark = [] ∨ ∃ c, Marks base c ∧ p.mark = ['0', c]
  /-- The digits of the integer, small or capital, perhaps after zeros. -/
  digits : ∃ zeros, p.digits.map Char.toLower =
    List.replicate zeros '0' ++ Nat.toDigits base n.natAbs
  stops : ∀ c ∈ p.rest.head?, ¬IsDigitIn base c
  unmarked : p.mark = [] → p.digits = ['0'] → ∀ c ∈ p.rest.head?, ¬Marks base c

end Numeral

theorem not_isDigitIn_of_marks (hc : Marks base c) : ¬IsDigitIn base c := by
  rintro ⟨d, hd, hdigit⟩
  rw [Marks, hdigit] at hc
  unfold markLetter? at hc
  split at hc
  · exact absurd hc ((by decide : ∀ d < 2, some 'b' ≠ some d.digitChar) d hd)
  · exact absurd hc ((by decide : ∀ d < 8, some 'o' ≠ some d.digitChar) d hd)
  · exact absurd hc ((by decide : ∀ d < 16, some 'x' ≠ some d.digitChar) d hd)
  · cases hc

theorem marks_iff : Marks base c ↔
    (base = 16 ∧ c.toLower = 'x') ∨ (base = 2 ∧ c.toLower = 'b') ∨
      (base = 8 ∧ c.toLower = 'o') := by
  unfold Marks markLetter?
  split
  · simp [eq_comm]
  · simp [eq_comm]
  · simp [eq_comm]
  · simp_all

/-- A text starts with a digit of base sixteen. -/
def StartsDigit (cs : List Char) : Prop := ∃ c rest, cs = c :: rest ∧ isHex c = true

/-- After the white space there is a sign or a digit. -/
theorem visible_of_head? {sign cs : List Char} (hsign : IsSignOf n sign) (hcs : StartsDigit cs)
    (hc : c ∈ (sign ++ cs).head?) : 32 < c.toNat ∧ c.toNat < 128 := by
  rcases hsign with ⟨-, rfl⟩ | ⟨-, rfl | rfl⟩
  · obtain rfl := Option.some.inj hc
    decide
  · obtain rfl := Option.some.inj hc
    decide
  · obtain ⟨d, ds, rfl, hd⟩ := hcs
    obtain rfl := Option.some.inj hc
    rw [isHex_iff] at hd
    omega

namespace Numeral.Writes

variable {p : Numeral}

theorem isDigitIn (hp : p.Writes base n) (hlow : 1 < base) : ∀ c ∈ p.digits, IsDigitIn base c := by
  obtain ⟨zeros, hdigits⟩ := hp.digits
  intro c hc
  have hsmall : c.toLower ∈ List.replicate zeros '0' ++ Nat.toDigits base n.natAbs :=
    hdigits ▸ List.mem_map_of_mem hc
  rcases List.mem_append.mp hsmall with hzero | hdigit
  · exact ⟨0, by omega, List.eq_of_mem_replicate hzero⟩
  · exact isDigitIn_of_mem_toDigits hlow hdigit

theorem digits_ne_nil (hp : p.Writes base n) : p.digits ≠ [] := by
  obtain ⟨zeros, hdigits⟩ := hp.digits
  intro hnil
  rw [hnil, List.map_nil] at hdigits
  exact Nat.toDigits_ne_nil (List.append_eq_nil_iff.mp hdigits.symm).2

theorem ofDigits_eq (hp : p.Writes base n) (hlow : 1 < base) (hhigh : base ≤ 16) :
    ofDigits base p.digits = n.natAbs := by
  obtain ⟨zeros, hdigits⟩ := hp.digits
  rw [← ofDigits_map_toLower, hdigits, ofDigits_zeros, ofDigits_toDigits hlow hhigh]

/-- What follows the sign starts with a digit, be it the zero of a mark. -/
theorem startsDigit_body (hp : p.Writes base n) (hlow : 1 < base) (hhigh : base ≤ 16) :
    StartsDigit p.body := by
  rcases hp.mark with hmark | ⟨c, -, hmark⟩
  · obtain ⟨d, ds, hdigits⟩ := List.exists_cons_of_ne_nil hp.digits_ne_nil
    have hd := hp.isDigitIn hlow d (hdigits ▸ List.mem_cons_self)
    refine ⟨d, ds ++ p.rest, ?_, ((isDigitIn_iff hhigh).mp hd).1⟩
    rw [body, hmark, hdigits]
    rfl
  · refine ⟨'0', c :: (p.digits ++ p.rest), ?_, by decide⟩
    rw [body, hmark]
    rfl

end Numeral.Writes

end Number

/-! ## Reading -/

namespace Library

open Number

variable {base : Nat} {c : Char} {n : Int} {digits rest sign cs : List Char}

/-- The number that a text starts with when white space and sign have been taken off. -/
def magnitude (base : Nat) (cs : List Char) : Nat :=
  ofDigits base ((dropBaseMark base cs).takeWhile (isDigitOf base))

theorem isDigitOf_iff (hbase : base ≤ 16) : isDigitOf base c = true ↔ IsDigitIn base c := by
  rw [isDigitIn_iff hbase, isDigitOf, Bool.and_eq_true, decide_eq_true_eq]

theorem dropBaseMark_mark (hc : Marks base c) (rest : List Char) :
    dropBaseMark base ('0' :: c :: rest) = rest := by
  simp only [dropBaseMark, if_pos (marks_iff.mp hc)]

theorem dropBaseMark_of_no_mark (hcs : ∀ c more, cs = '0' :: c :: more → ¬Marks base c) :
    dropBaseMark base cs = cs := by
  unfold dropBaseMark
  split
  · rename_i c more
    exact if_neg fun hc => hcs c more rfl (marks_iff.mpr hc)
  · rfl

/-- No mark is taken off digits, unless they are a zero by itself. -/
theorem dropBaseMark_digits (hdigits : ∀ c ∈ digits, IsDigitIn base c) (hne : digits ≠ [])
    (hrest : digits = ['0'] → ∀ c ∈ rest.head?, ¬Marks base c) :
    dropBaseMark base (digits ++ rest) = digits ++ rest := by
  refine dropBaseMark_of_no_mark fun c more htext => ?_
  cases digits with
  | nil => exact absurd rfl hne
  | cons d ds =>
      obtain ⟨rfl, hnext⟩ := List.cons.inj htext
      cases ds with
      | nil => exact hrest rfl c (congrArg List.head? hnext)
      | cons d ds =>
          obtain ⟨rfl, -⟩ := List.cons.inj hnext
          exact fun hc => not_isDigitIn_of_marks hc (hdigits d (by simp))

/-- What is left of a numeral after white space and sign are its digits, without the mark. -/
theorem dropBaseMark_body {p : Numeral} (hp : p.Writes base n) (hlow : 1 < base) :
    dropBaseMark base p.body = p.digits ++ p.rest := by
  rcases hp.mark with hmark | ⟨c, hc, hmark⟩
  · rw [Numeral.body, hmark, List.nil_append]
    exact dropBaseMark_digits (hp.isDigitIn hlow) hp.digits_ne_nil (hp.unmarked hmark)
  · rw [Numeral.body, hmark]
    exact dropBaseMark_mark hc _

theorem takeWhile_digits {p : Numeral} (hp : p.Writes base n) (hlow : 1 < base)
    (hhigh : base ≤ 16) : (p.digits ++ p.rest).takeWhile (isDigitOf base) = p.digits := by
  refine Text.takeWhile_append_rest (fun c hc => ?_) fun c hc => ?_
  · exact (isDigitOf_iff hhigh).mpr (hp.isDigitIn hlow c hc)
  · exact Bool.eq_false_iff.mpr ((isDigitOf_iff hhigh).not.mpr (hp.stops c hc))

/-- After the sign, a numeral is read as its magnitude. -/
theorem magnitude_body {p : Numeral} (hp : p.Writes base n) (hlow : 1 < base)
    (hhigh : base ≤ 16) : magnitude base p.body = n.natAbs := by
  rw [magnitude, dropBaseMark_body hp hlow, takeWhile_digits hp hlow hhigh,
    hp.ofDigits_eq hlow hhigh]

theorem numberIn_minus {s : String} (hs : Text.trimLeft s.toList = '-' :: cs) :
    numberIn base s = wrap (signed true (magnitude base cs)) := by
  simp only [numberIn, hs, magnitude]

theorem numberIn_plus {s : String} (hs : Text.trimLeft s.toList = '+' :: cs) :
    numberIn base s = wrap (signed false (magnitude base cs)) := by
  simp only [numberIn, hs, magnitude]

theorem numberIn_unsigned {s : String} (hs : Text.trimLeft s.toList = cs) (hcs : StartsDigit cs) :
    numberIn base s = wrap (signed false (magnitude base cs)) := by
  obtain ⟨c, rest, rfl, hc⟩ := hcs
  have hminus : c ≠ '-' := by
    rintro rfl
    cases hc
  have hplus : c ≠ '+' := by
    rintro rfl
    cases hc
  simp [numberIn, hs, magnitude, hminus, hplus]

/-- White space is taken off, and nothing else. -/
theorem trimLeft_text {p : Numeral} (hp : p.Writes base n) (hbody : StartsDigit p.body) :
    Text.trimLeft p.text.toList = p.sign ++ p.body := by
  rw [Numeral.text, String.toList_ofList, Text.trimLeft]
  refine Text.dropWhile_append_rest (fun c hc => ?_) fun c hc => ?_
  · exact Text.isBlank_of_isAsciiBlank (hp.blanks c hc)
  · obtain ⟨hlow, hhigh⟩ := visible_of_head? hp.sign hbody hc
    exact Text.isBlank_of_visible hlow hhigh

/-- A numeral is read as the integer it writes, wrapped. -/
theorem numberIn_numeral {p : Numeral} (hp : p.Writes base n) (hlow : 1 < base)
    (hhigh : base ≤ 16) : numberIn base p.text = wrap n := by
  have hbody : StartsDigit p.body := hp.startsDigit_body hlow hhigh
  have htrim : Text.trimLeft p.text.toList = p.sign ++ p.body := trimLeft_text hp hbody
  have hvalue : magnitude base p.body = n.natAbs := magnitude_body hp hlow hhigh
  rcases hp.sign with ⟨hn, hsign⟩ | ⟨hn, hsign⟩
  · have hsigned : signed true n.natAbs = n := by
      rw [signed, if_pos rfl]
      omega
    rw [hsign, List.singleton_append] at htrim
    rw [numberIn_minus htrim, hvalue, hsigned]
  · have hsigned : signed false n.natAbs = n := Int.natAbs_of_nonneg hn
    rcases hsign with hsign | hsign
    · rw [hsign, List.singleton_append] at htrim
      rw [numberIn_plus htrim, hvalue, hsigned]
    · rw [hsign, List.nil_append] at htrim
      rw [numberIn_unsigned htrim hbody, hvalue, hsigned]

/-! ## The function -/

/-- The bases that a number is read in. -/
def bases : List Nat := [2, 8, 10, 16]

/-- What is given for a base, if it is, stands for a Number. Without it the base is ten. -/
def GivesBase (h : Heap) (b : Int) : Option Ref → Prop
  | none => b = 10
  | some r => (h.value r).toNumber = .ok b

variable {h : Heap} {b : Int} {arg : Option Ref} {r : Ref}

theorem GivesBase.toNumberD (hb : GivesBase h b arg) : Op.toNumberD 10 arg h = (.ok b, h) := by
  cases arg with
  | none =>
      cases hb
      rfl
  | some r => exact Op.toNumber_eq hb

theorem mem_bases_iff : base ∈ bases ↔ base = 2 ∨ base = 8 ∨ base = 10 ∨ base = 16 := by
  simp [bases]

theorem str2nr_of_mem (hb : GivesBase h base arg) (hbase : base ∈ bases) {t : String}
    (hr : h.ReadsText r t) :
    (str2nr r arg).Ends h fun h' made => h'.value made = .number (numberIn base t) := by
  have hrun : str2nr r arg h = Op.number (numberIn base t) h := by
    rw [mem_bases_iff] at hbase
    rw [str2nr, Op.bind_of_ok hb.toNumberD, if_pos (by omega),
      Op.bind_of_ok (Op.toText_eq hr.toText)]
    rfl
  obtain ⟨made, h', halloc, hk, hmade⟩ := Op.ends_alloc h (.number (numberIn base t))
  exact ⟨made, h', hrun.trans halloc, hk, hmade⟩

theorem str2nr_of_not_mem (hb : GivesBase h b arg) (hbase : ∀ base ∈ bases, b ≠ (base : Int)) :
    str2nr r arg h = (.error (.ofCause .invalidArgument), h) := by
  have hno : ¬(b = 2 ∨ b = 8 ∨ b = 10 ∨ b = 16) := by
    rintro (rfl | rfl | rfl | rfl)
    · exact hbase 2 (by decide) rfl
    · exact hbase 8 (by decide) rfl
    · exact hbase 10 (by decide) rfl
    · exact hbase 16 (by decide) rfl
  rw [str2nr, Op.bind_of_ok hb.toNumberD, if_neg hno]
  rfl

/-- A numeral of one of the four bases is read as the integer it writes, wrapped into 64 bits,
whatever text follows it that does not belong to it. Any other base is refused. -/
theorem str2nr_inverts_numerals {h : Heap} {b : Int} {arg : Option Ref} (hb : GivesBase h b arg)
    (r : Ref) :
    (∀ base ∈ bases, b = (base : Int) → ∀ (p : Numeral) (n : Int), p.Writes base n →
      h.ReadsText r p.text →
        ∃ m, WrapsTo n m ∧ (minValue ≤ n → n ≤ maxValue → m = n) ∧
          (str2nr r arg).Ends h fun h' made => h'.value made = .number m) ∧
    ((∀ base ∈ bases, b ≠ (base : Int)) →
      ∃ c, str2nr r arg h = (.error (.ofCause c), h) ∧ c.code = some "E474") := by
  constructor
  · rintro base hbase rfl p n hp hr
    have hrange : 1 < base ∧ base ≤ 16 := by
      rw [mem_bases_iff] at hbase
      omega
    have hread : numberIn base p.text = wrap n := numberIn_numeral hp hrange.1 hrange.2
    exact ⟨wrap n, wrap_eq_iff.mp rfl, wrap_eq_self, hread ▸ str2nr_of_mem hb hbase hr⟩
  · intro hbase
    exact ⟨.invalidArgument, str2nr_of_not_mem hb hbase, rfl⟩

/-- Sixty-four ones of base two with a minus sign, in base sixteen. -/
def allOnes : Numeral where
  blanks := ['\t', ' ']
  sign := ['-']
  mark := ['0', 'X']
  digits := "00ffFFffFFffFFffFF".toList
  rest := ['g']

/-- The text, and two Numbers to be given for a base. -/
def allOnesHeap : Heap where
  cells := #[{ value := .string "\t -0X00ffFFffFFffFFffFFg" }, { value := .number 16 },
    { value := .number 3 }]

/-- Less than the least Number, it is wrapped to one. Base three is refused. -/
theorem allOnes_wrapped : GivesBase allOnesHeap 16 (some ⟨1⟩) ∧
    allOnes.Writes 16 (-18446744073709551615) ∧ allOnesHeap.ReadsText ⟨0⟩ allOnes.text ∧
    (str2nr ⟨0⟩ (some ⟨1⟩)).Ends allOnesHeap (fun h' made => h'.value made = .number 1) ∧
    GivesBase allOnesHeap 3 (some ⟨2⟩) ∧
    ∃ c, str2nr ⟨0⟩ (some ⟨2⟩) allOnesHeap = (.error (.ofCause c), allOnesHeap) ∧
      c.code = some "E474" := by
  have hsixteen : GivesBase allOnesHeap 16 (some ⟨1⟩) := rfl
  have hthree : GivesBase allOnesHeap 3 (some ⟨2⟩) := rfl
  have hwrites : allOnes.Writes 16 (-18446744073709551615) := {
    blanks := by simp [allOnes, Text.IsAsciiBlank]
    sign := .inl ⟨by decide, rfl⟩
    mark := .inr ⟨'X', by decide, rfl⟩
    digits := ⟨2, by decide⟩
    stops := by
      rintro c ⟨⟩
      decide
    unmarked := nofun }
  have hreads : allOnesHeap.ReadsText ⟨0⟩ allOnes.text := ⟨by decide, rfl⟩
  obtain ⟨m, hm, -, hends⟩ := (str2nr_inverts_numerals hsixteen ⟨0⟩).1 16 (by decide) rfl
    allOnes _ hwrites hreads
  have hone : m = 1 := (wrap_eq_iff.mpr hm).symm.trans (by decide)
  exact ⟨hsixteen, hwrites, hreads, hone ▸ hends, hthree,
    (str2nr_inverts_numerals hthree ⟨0⟩).2 (by decide)⟩

end Library

end Vimscript
