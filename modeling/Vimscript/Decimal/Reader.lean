import Vimscript.Decimal.Dyadic
import Vimscript.Text.Class

/-!
# Reading decimals

A decimal text stands for the double nearest to it. Besides digits of any script, with single
underscores between them, the words for infinity and not-a-number are read.
-/

namespace Vimscript.Decimal

/-- A decimal before rounding: `± digits * 10 ^ exponent`. -/
structure Scientific where
  negative : Bool
  digits : Nat
  exponent : Int
deriving Repr

/-- The nearest double. An exponent far out of range is decided without computing its power. -/
def Scientific.toFloat (s : Scientific) : Float :=
  let size : Int := (Nat.toDigits 10 s.digits).length + s.exponent
  if s.digits = 0 || size < -400 then nearest s.negative 0 1
  else if 400 < size then if s.negative then negate infinity else infinity
  else if 0 ≤ s.exponent then nearest s.negative (s.digits * Nat.pow 10 s.exponent.toNat) 1
  else nearest s.negative s.digits (Nat.pow 10 (-s.exponent).toNat)

/-- Splits off a sign. -/
def splitSign : List Char → Bool × List Char
  | '-' :: rest => (true, rest)
  | '+' :: rest => (false, rest)
  | cs => (false, cs)

/-- Whether a text starts with a digit. -/
def startsDigit : List Char → Bool
  | c :: _ => Text.isDigit c
  | [] => false

/-- The digits a text starts with and what follows them. A single underscore between two digits
is skipped; `inside` tells whether a digit has just been read. -/
def spanDigits (inside : Bool) : List Char → List Nat × List Char
  | [] => ([], [])
  | c :: rest =>
    match Text.digitValue? c with
    | some d =>
      let (ds, tail) := spanDigits true rest
      (d :: ds, tail)
    | none =>
      if inside && c == '_' && startsDigit rest then spanDigits false rest else ([], c :: rest)

/-- The natural with the given decimal digits. -/
def ofDigits (ds : List Nat) : Nat :=
  ds.foldl (fun n d => n * 10 + d) 0

/-- The exponent part a text starts with, if it is complete, and what follows it. -/
def spanExponent : List Char → Int × List Char
  | e :: rest =>
    if e == 'e' || e == 'E' then
      let (negative, unsigned) := splitSign rest
      match spanDigits false unsigned with
      | ([], _) => (0, e :: rest)
      | (ds, tail) => (if negative then -(ofDigits ds : Int) else ofDigits ds, tail)
    else (0, e :: rest)
  | [] => (0, [])

/-- Whether a text is one of the words for infinity. -/
def isInfinityWord (word : String) : Bool :=
  word == "inf" || word == "infinity"

/-- White space that may stand around a decimal. The separators of ASCII are not among it. -/
def isAround (c : Char) : Bool :=
  Text.isBlank c && !(0x1C ≤ c.toNat && c.toNat ≤ 0x1F)

/-- The text without the white space around it. -/
def trim (cs : List Char) : List Char :=
  Text.dropRightWhile isAround (cs.dropWhile isAround)

/-- Reads a text, between white space, that is a decimal as a whole. -/
def read? (s : String) : Option Float :=
  let (negative, rest) := splitSign (trim s.toList)
  let word := String.ofList (rest.map Char.toLower)
  if isInfinityWord word then some (if negative then negate infinity else infinity)
  else if word == "nan" then some notANumber
  else
    let (whole, tail) := spanDigits false rest
    let (fraction, tail) := match tail with
      | '.' :: more => spanDigits false more
      | _ => ([], tail)
    if whole.isEmpty && fraction.isEmpty then none
    else
      let (exponent, tail) := spanExponent tail
      if tail.isEmpty then
        some (Scientific.toFloat
          ⟨negative, ofDigits (whole ++ fraction), exponent - fraction.length⟩)
      else none

end Vimscript.Decimal
