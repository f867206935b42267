import Vimscript.Decimal.Reader
import Vimscript.Heap.Coerce
import Vimscript.Number.Word
import Vimscript.Text.Case

/-!
# Built-in functions on numbers
-/

namespace Vimscript.Library

/-- The magnitude of a Number or Float. -/
def abs (r : Ref) : Op Ref := do
  match ← Op.value r with
  | .float x => Op.alloc (.float (Decimal.magnitude x))
  | v => Op.number (Number.wrap (← v.toNumber).natAbs)

/-- A Float without its fraction, held within the range of Numbers. -/
def truncate (x : Float) : Int :=
  match Decimal.Dyadic.ofFloat? x with
  | none => if x.isNaN then 0 else if Decimal.signBit x then -Number.maxValue else Number.maxValue
  | some d => max (-Number.maxValue) (min d.truncate Number.maxValue)

/-- A Float as a Number. -/
def float2nr (r : Ref) : Op Ref := do
  match ← Op.value r with
  | .number _ => return r
  | .float x => Op.number (truncate x)
  | _ => fail .numberRequired

/-! ## Reading numbers -/

/-- The characters that match a word when case is ignored, if a text starts with them. -/
def spanWord (word : String) (cs : List Char) : Option (List Char) :=
  let taken := cs.take word.length
  if taken.length = word.length ∧ (word.toList.zip taken).all fun (a, b) => Text.sameLetter a b
  then some taken else none

/-- A digit run a text starts with, if it has one after the characters `before`. -/
def spanAfter (before : List Char) (cs : List Char) : List Char :=
  match cs.takeWhile Text.isDigit with
  | [] => []
  | digits => before ++ digits

/-- The exponent a text starts with, if it is complete. -/
def exponentOf : List Char → List Char
  | e :: rest =>
    if Text.sameLetter 'e' e then
      match rest with
      | '+' :: more => spanAfter [e, '+'] more
      | '-' :: more => spanAfter [e, '-'] more
      | _ => spanAfter [e] rest
    else []
  | [] => []

/-- The unsigned decimal a text starts with: digits, perhaps a fraction, perhaps an exponent. -/
def decimalOf (cs : List Char) : List Char :=
  match cs.takeWhile Text.isDigit with
  | [] => []
  | whole =>
    let rest := cs.drop whole.length
    let fraction := match rest with
      | '.' :: more => spanAfter ['.'] more
      | _ => []
    whole ++ fraction ++ exponentOf (rest.drop fraction.length)

/-- The Float a text starts with, as it is written. -/
def floatPart? (cs : List Char) : Option (List Char) :=
  let cs := cs.dropWhile Text.isBlank
  let (sign, cs) := match cs with
    | '+' :: rest => (['+'], rest)
    | '-' :: rest => (['-'], rest)
    | _ => ([], cs)
  match decimalOf cs with
  | [] => (spanWord "inf" cs <|> spanWord "nan" cs).map (sign ++ ·)
  | decimal => some (sign ++ decimal)

/-- The Float a text starts with, or zero. -/
def str2float (r : Ref) : Op Ref := do
  match floatPart? (← Op.toText r).toList with
  | none => Op.alloc (.float 0.0)
  | some part =>
    match Decimal.read? (String.ofList part) with
    | some x => Op.alloc (.float x)
    | none => faulty (.notDecimal (Text.quoted (String.ofList part)))

/-- Drops the mark of a base: `0x`, `0b` or `0o`. -/
def dropBaseMark (base : Nat) : List Char → List Char
  | '0' :: m :: rest =>
    let mark := m.toLower
    if (base = 16 ∧ mark = 'x') ∨ (base = 2 ∧ mark = 'b') ∨ (base = 8 ∧ mark = 'o') then rest
    else '0' :: m :: rest
  | cs => cs

/-- A digit of a base. -/
def isDigitOf (base : Nat) (c : Char) : Bool :=
  Number.isHex c && Number.digit c < base

/-- The Number a text starts with in a base, after white space, a sign and the mark of the base. -/
def numberIn (base : Nat) (s : String) : Int :=
  let cs := Text.trimLeft s.toList
  let (negative, cs) := match cs with
    | '-' :: rest => (true, rest)
    | '+' :: rest => (false, rest)
    | _ => (false, cs)
  let digits := (dropBaseMark base cs).takeWhile (isDigitOf base)
  Number.wrap (Number.signed negative (Number.ofDigits base digits))

/-- The Number a text starts with in one of four bases. -/
def str2nr (r : Ref) (base : Option Ref) : Op Ref := do
  let base ← Op.toNumberD 10 base
  if base = 2 ∨ base = 8 ∨ base = 10 ∨ base = 16 then
    Op.number (numberIn base.toNat (← Op.toText r))
  else fail .invalidArgument

/-! ## Ranges and extremes -/

/-- How many steps lead from `first` to the last number not past `last`. -/
def rangeCount (first last step : Int) : Nat :=
  if 0 < step then ((last - first) / step + 1).toNat
  else ((first - last) / (-step) + 1).toNat

/-- Numbers from `first` on at equal distances. -/
def rangeItems (first last step : Int) : List Int :=
  (List.range (rangeCount first last step)).map fun (i : Nat) => first + i * step

/-- A List of Numbers at equal distances. -/
def range (r : Ref) (last stride : Option Ref) : Op Ref := do
  let n ← Op.toNumber r
  let (first, last) ← match last with
    | none => pure (0, n - 1)
    | some e => do pure (n, ← Op.toNumber e)
  let step ← Op.toNumberD 1 stride
  if step = 0 then fail .strideZero
  if (0 < step ∧ last + 1 < first) ∨ (step < 0 ∧ first < last - 1) then fail .startPastEnd
  Op.list (← (rangeItems first last step).mapM Op.number)

/-- The Numbers in a List or Dictionary. -/
def numbersOf (function : String) (r : Ref) : Op (List Int) := do
  match ← Op.value r with
  | .list items => items.mapM Op.toNumber
  | .dict t => t.values.mapM Op.toNumber
  | _ => fail (.containerArgument function)

/-- The greatest Number in a List or Dictionary, or zero. -/
def maximum (r : Ref) : Op Ref := do
  match ← numbersOf "max()" r with
  | [] => Op.number 0
  | n :: rest => Op.number (rest.foldl max n)

/-- The least Number in a List or Dictionary, or zero. -/
def minimum (r : Ref) : Op Ref := do
  match ← numbersOf "min()" r with
  | [] => Op.number 0
  | n :: rest => Op.number (rest.foldl min n)

end Vimscript.Library
