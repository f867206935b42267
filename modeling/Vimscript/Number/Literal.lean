/-!
# Number literals

A Number is written in decimal, in octal with a leading `0`, or in hexadecimal after `0x`, with an
optional minus sign. `parse?` reads a text that is a literal as a whole; `leading` reads the
literal a text starts with, which is the value of a String used as a Number.
-/

namespace Vimscript.Number

/-- The value of a digit in bases up to sixteen. -/
def digit (c : Char) : Nat :=
  if c.isDigit then c.toNat - '0'.toNat
  else if 'a' ≤ c ∧ c ≤ 'f' then c.toNat - 'a'.toNat + 10
  else if 'A' ≤ c ∧ c ≤ 'F' then c.toNat - 'A'.toNat + 10
  else 0

/-- A digit of base eight. -/
def isOctal (c : Char) : Bool :=
  '0' ≤ c && c ≤ '7'

/-- A digit of base sixteen. -/
def isHex (c : Char) : Bool :=
  c.isDigit || ('a' ≤ c && c ≤ 'f') || ('A' ≤ c && c ≤ 'F')

/-- The value of a run of digits. -/
def ofDigits (base : Nat) (digits : List Char) : Nat :=
  digits.foldl (fun n c => n * base + digit c) 0

/-- Splits off a minus sign. -/
def splitSign : List Char → Bool × List Char
  | '-' :: rest => (true, rest)
  | cs => (false, cs)

/-- Gives a magnitude its sign. -/
def signed (negative : Bool) (n : Nat) : Int :=
  if negative then -(n : Int) else n

/-- Digits with a leading zero are octal where all of them can be, and decimal otherwise. -/
def zeroLed (digits : List Char) : Nat :=
  if digits.all isOctal then ofDigits 8 digits else ofDigits 10 digits

/-- A text that is an unsigned literal as a whole. -/
def parseUnsigned? : List Char → Option Nat
  | [] => none
  | '0' :: x :: d :: rest =>
    if (x == 'x' || x == 'X') && (d :: rest).all isHex then some (ofDigits 16 (d :: rest))
    else if (x :: d :: rest).all Char.isDigit then some (zeroLed (x :: d :: rest))
    else none
  | '0' :: rest => if rest.all Char.isDigit then some (zeroLed rest) else none
  | cs => if cs.all Char.isDigit then some (ofDigits 10 cs) else none

/-- A text that is a literal as a whole. -/
def parse? (s : String) : Option Int :=
  let (negative, rest) := splitSign s.toList
  (parseUnsigned? rest).map (signed negative)

/-- The unsigned literal a text starts with, or zero. -/
def leadingUnsigned : List Char → Nat
  | '0' :: rest =>
    match rest with
    | x :: d :: more =>
      if (x == 'x' || x == 'X') && isHex d then ofDigits 16 ((d :: more).takeWhile isHex)
      else zeroLed (rest.takeWhile Char.isDigit)
    | _ => zeroLed (rest.takeWhile Char.isDigit)
  | cs => ofDigits 10 (cs.takeWhile Char.isDigit)

/-- The literal a text starts with, or zero. -/
def leading (s : String) : Int :=
  let (negative, rest) := splitSign s.toList
  signed negative (leadingUnsigned rest)

/-! ## Limits -/

/-- The most digits a decimal number is read from or written with. -/
def maxDigits : Nat := 4300

/-- The digits of the decimal literal a text starts with. Octal and hexadecimal digits are not
counted among them. -/
def decimalDigits (s : String) : List Char :=
  let digits := (splitSign s.toList).2.takeWhile Char.isDigit
  if digits.head? == some '0' && digits.all isOctal then [] else digits

/-- Whether a number has too many digits to be written. -/
def isLong (n : Int) : Bool :=
  Nat.pow 10 maxDigits ≤ n.natAbs

end Vimscript.Number
