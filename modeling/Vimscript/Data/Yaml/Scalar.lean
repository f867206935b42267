import Vimscript.Data.Basic
import Vimscript.Number.Limit

/-!
# Plain scalars

A scalar without quotes is what its spelling says: nothing, a truth value, an integer in one of
several bases, a double, or else a text. Two spellings are reserved and stand for nothing at all.
-/

namespace Vimscript.Yaml

/-- The words for nothing. -/
def nullWords : List String := ["", "~", "null", "Null", "NULL"]

/-- The words for true. -/
def trueWords : List String := ["yes", "Yes", "YES", "true", "True", "TRUE", "on", "On", "ON"]

/-- The words for false. -/
def falseWords : List String := ["no", "No", "NO", "false", "False", "FALSE", "off", "Off", "OFF"]

/-- The spellings that are reserved for other purposes. -/
def reservedWords : List String := ["<<", "="]

/-! ## Integers -/

/-- The digits of a run in which underscores are skipped; nothing if another character occurs. -/
def grouped? (isDigit : Char → Bool) (cs : List Char) : Option (List Char) :=
  if cs.all (fun c => isDigit c || c == '_') && !cs.isEmpty then some (cs.filter (· != '_'))
  else none

/-- Cuts a text at its colons. -/
def splitColons (cs : List Char) : List (List Char) :=
  cs.splitOn ':'

/-- A part of a number in base sixty after the first: one digit or two. -/
def isSixtieth : List Char → Bool
  | [d] => d.isDigit
  | [t, d] => '0' ≤ t && t ≤ '5' && d.isDigit
  | _ => false

/-- An unsigned integer in base sixty, its digits in decimal between colons. -/
def sexagesimal? (cs : List Char) : Option Nat :=
  match splitColons cs with
  | (c :: rest) :: part :: parts =>
    if c.isDigit && c != '0' && (part :: parts).all isSixtieth then
      (grouped? Char.isDigit (c :: rest)).map fun digits =>
        (part :: parts).foldl (fun n p => n * 60 + Number.ofDigits 10 p) (Number.ofDigits 10 digits)
    else none
  | _ => none

/-- A number some digits make up, of which there must be one. -/
def ofDigits (base : Nat) : List Char → Except Fault Nat
  | [] => .error (.notInteger "''")
  | digits => .ok (Number.ofDigits base digits)

/-- An unsigned integer: binary, octal, hexadecimal, decimal or in base sixty. -/
def integer? : List Char → Option (Except Fault Nat)
  | ['0'] => some (.ok 0)
  | '0' :: 'b' :: rest => (grouped? (fun c => c == '0' || c == '1') rest).map (ofDigits 2)
  | '0' :: 'x' :: rest => (grouped? Number.isHex rest).map (ofDigits 16)
  | '0' :: rest => (grouped? Number.isOctal rest).map fun digits => .ok (Number.ofDigits 8 digits)
  | c :: rest =>
    if c.isDigit then
      ((grouped? Char.isDigit (c :: rest)).map (ofDigits 10)).or
        ((sexagesimal? (c :: rest)).map .ok)
    else none
  | [] => none

/-! ## Doubles -/

/-- Whether an exponent, which must have a sign, ends the scalar. -/
def isExponent : List Char → Bool
  | [] => true
  | e :: s :: d :: rest =>
    (e == 'e' || e == 'E') && (s == '+' || s == '-') && (d :: rest).all Char.isDigit
  | _ => false

/-- Whether an unsigned scalar has the spelling of a double: a point is required. -/
def isFloatSpelling (signed : Bool) (cs : List Char) : Bool :=
  let digitOrGroup (c : Char) : Bool := c.isDigit || c == '_'
  let whole := cs.takeWhile digitOrGroup
  match cs.dropWhile digitOrGroup with
  | '.' :: rest =>
    let fraction := rest.takeWhile digitOrGroup
    let startsWell := match whole, fraction with
      | d :: _, _ => d.isDigit
      | [], d :: _ => d.isDigit && !signed
      | [], [] => false
    startsWell && isExponent (rest.dropWhile digitOrGroup)
  | _ => false

/-- The double a scalar spells, without underscores. -/
def readFloat? (cs : List Char) : Option Float :=
  Decimal.read? (String.ofList (cs.filter (· != '_')))

/-- The sum of digits in base sixty, the last of which may have a fraction. -/
def sexagesimalSum (digits : List Float) : Float :=
  (digits.reverse.foldl
    (fun (acc : Float × Nat) d => (acc.1 + d * Decimal.ofInt acc.2, acc.2 * 60)) (0.0, 1)).1

/-- An unsigned double in base sixty. -/
def sexagesimalFloat? (cs : List Char) : Option Float :=
  match splitColons cs with
  | (c :: rest) :: part :: parts =>
    let last := (part :: parts).getLastD []
    let wholes := (part :: parts).dropLast ++ [last.takeWhile (· != '.')]
    let fraction := last.dropWhile (· != '.')
    if c.isDigit && (c :: rest).all (fun d => d.isDigit || d == '_') && wholes.all isSixtieth &&
        fraction.head? == some '.' && (fraction.drop 1).all (fun d => d.isDigit || d == '_') then
      (((c :: rest) :: part :: parts).mapM readFloat?).map sexagesimalSum
    else none
  | _ => none

/-! ## Scalars -/

/-- What a plain scalar stands for. -/
def resolve (s : String) : Except Fault Data :=
  if nullWords.contains s then .ok .null
  else if trueWords.contains s then .ok (.bool true)
  else if falseWords.contains s then .ok (.bool false)
  else if reservedWords.contains s then .error (.unreadable .values)
  else
    let cs := s.toList
    let (negative, unsigned) := Decimal.splitSign cs
    let signed := unsigned.length < cs.length
    match integer? unsigned with
    | some n => do return .int (Number.signed negative (← n))
    | none =>
      let word := String.ofList unsigned
      if [".inf", ".Inf", ".INF"].contains word then
        .ok (.float (if negative then Decimal.negate Decimal.infinity else Decimal.infinity))
      else if [".nan", ".NaN", ".NAN"].contains s then .ok (.float Decimal.notANumber)
      else if isFloatSpelling signed unsigned then
        .ok (((readFloat? cs).map Data.float).getD (.text s))
      else match sexagesimalFloat? unsigned with
        | some x => .ok (.float (if negative then Decimal.negate x else x))
        | none => .ok (.text s)

end Vimscript.Yaml
