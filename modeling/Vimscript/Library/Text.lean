import Vimscript.Heap.Coerce
import Vimscript.Heap.Print
import Vimscript.Number.Word
import Vimscript.Pattern.Basic

/-!
# Built-in functions on texts
-/

namespace Vimscript

/-- A String as it is, and anything else in its unambiguous form. -/
def Heap.itemText (h : Heap) (r : Ref) : Result String :=
  match h.value r with
  | .string s => .ok s
  | _ => h.printed r

namespace Library

/-- A text in small letters. -/
def tolower (r : Ref) : Op Ref := do Op.string (Text.lower (← Op.toText r))

/-- A text in capital letters. -/
def toupper (r : Ref) : Op Ref := do Op.string (Text.upper (← Op.toText r))

/-- What is trimmed when nothing else is asked for: control characters, blanks and the no-break
space. -/
def isTrimmed (c : Char) : Bool :=
  c.toNat ≤ 32 || c.toNat == 0xA0

/-- Which ends of a text are trimmed. -/
inductive TrimSide where
  | both
  | left
  | right

/-- The side a Number stands for. -/
def TrimSide.ofNumber? : Int → Option TrimSide
  | 0 => some both
  | 1 => some left
  | 2 => some right
  | _ => none

/-- Drops the characters in question from the ends of a text. -/
def trimEnds (p : Char → Bool) (side : TrimSide) (cs : List Char) : List Char :=
  match side with
  | .both => Text.dropRightWhile p (cs.dropWhile p)
  | .left => cs.dropWhile p
  | .right => Text.dropRightWhile p cs

/-- A text without white space, or without the given characters, at its ends. -/
def trim (r : Ref) (mask direction : Option Ref) : Op Ref := do
  let s ← Op.toText r
  let mask ← Op.toTextD "" mask
  let direction ← Op.toNumberD 0 direction
  match TrimSide.ofNumber? direction with
  | none => fail (.invalidArgumentValue (← orFault (Number.write direction)))
  | some side =>
    let p := if mask = "" then isTrimmed else mask.toList.contains
    Op.string (String.ofList (trimEnds p side s.toList))

/-- A list repeated; nothing stays nothing however often it is repeated. -/
def repeated {α : Type} (n : Nat) (items : List α) : List α :=
  if items.isEmpty then [] else (List.replicate n items).flatten

/-- The greatest number of items that is ever held at once. -/
def maxHeld : Int := 4294967296

/-- Refuses a count that no size can reach, and a result that is larger than any size, which is the
fault `tooLong`, or larger than what can be held. -/
def requireSize (tooLong : Fault) (length : Nat) (count : Int) : Op Unit := do
  if Number.maxValue < count then faulty .sizeOverflow
  if Number.maxValue < length * count then faulty tooLong
  if maxHeld < length * count then faulty .noMemory

/-- A List or text repeated. -/
def replicate (r count : Ref) : Op Ref := do
  let n ← Op.toNumber count
  match ← Op.value r with
  | .list items =>
    requireSize .noMemory items.length n
    Op.list (repeated n.toNat items)
  | v =>
    let s ← v.toText
    requireSize .textTooLong s.length n
    Op.string (String.ofList (repeated n.toNat s.toList))

/-- The pattern a text is split at when no other is given. -/
def defaultSeparator : String := "\\s\\+"

/-- The pieces of a text between matches of a pattern. -/
def split (r : Ref) (pattern keepEmpty : Option Ref) : Op Ref := do
  let text ← Op.toText r
  let pattern ← Op.toTextD "" pattern
  let separator ← Pattern.compile (if pattern = "" then defaultSeparator else pattern)
  let keepEmpty ← Op.toBoolD keepEmpty
  Op.list (← (Pattern.split separator keepEmpty text).mapM Op.string)

/-- The items of a List in one text. -/
def join (r : Ref) (separator : Option Ref) : Op Ref := do
  match ← Op.value r with
  | .list items =>
    let separator ← Op.toTextD " " separator
    let texts ← Op.reading fun h => items.mapM h.itemText
    Op.string (separator.intercalate texts)
  | _ => fail .listRequired

/-- The unambiguous form of a value. -/
def stringOf (r : Ref) : Op Ref := do
  Op.string (← Op.reading fun h => h.printed r)

end Library

end Vimscript
