/-!
# Bytes as text

Reading UTF-8 where every byte sequence gives a text: a sequence that is not well formed is
replaced, as far as it could still have become a character, by one replacement character. Where
replacements will not do, the first flaw is told.
-/

namespace Vimscript.Text

/-- Stands for bytes that form no character. -/
def replacement : Char :=
  Char.ofNat 0xFFFD

/-- What a lead byte promises: how many bytes follow, the bits it contributes, and the range of the
byte right after it. -/
def leadByte? (b : Nat) : Option (Nat × Nat × Nat × Nat) :=
  if 0xC2 ≤ b ∧ b ≤ 0xDF then some (1, b - 0xC0, 0x80, 0xBF)
  else if b = 0xE0 then some (2, 0, 0xA0, 0xBF)
  else if b = 0xED then some (2, 0xD, 0x80, 0x9F)
  else if 0xE1 ≤ b ∧ b ≤ 0xEF then some (2, b - 0xE0, 0x80, 0xBF)
  else if b = 0xF0 then some (3, 0, 0x90, 0xBF)
  else if 0xF1 ≤ b ∧ b ≤ 0xF3 then some (3, b - 0xF0, 0x80, 0xBF)
  else if b = 0xF4 then some (3, 4, 0x80, 0x8F)
  else none

/-- A character whose lead byte has been read. -/
structure Pending where
  /-- Bytes still owed. -/
  owed : Nat
  /-- The code point so far. -/
  code : Nat
  /-- The range of the next byte. -/
  low : Nat
  high : Nat

/-- Decodes bytes, given the character that is under way. -/
def decodeFrom : Option Pending → List UInt8 → List Char
  | none, [] => []
  | some _, [] => [replacement]
  | pending, b :: rest =>
    let byte := b.toNat
    let restart : List Char :=
      if byte < 0x80 then Char.ofNat byte :: decodeFrom none rest
      else match leadByte? byte with
        | some (owed, code, low, high) => decodeFrom (some ⟨owed, code, low, high⟩) rest
        | none => replacement :: decodeFrom none rest
    match pending with
    | none => restart
    | some p =>
      if p.low ≤ byte && byte ≤ p.high then
        let code := p.code * 64 + (byte - 0x80)
        if p.owed ≤ 1 then Char.ofNat code :: decodeFrom none rest
        else decodeFrom (some ⟨p.owed - 1, code, 0x80, 0xBF⟩) rest
      else replacement :: restart

/-- The text of some bytes, with replacements where they are not well formed. -/
def decodeUtf8 (bytes : List UInt8) : String :=
  String.ofList (decodeFrom none bytes)

/-! ## Flaws -/

/-- Why bytes form no character. -/
inductive Utf8Reason where
  | badStart
  | badContinuation
  | endOfData
deriving Repr, DecidableEq

/-- Bytes that form no character: the first of them, where it is, and how many they are. -/
structure Utf8Flaw where
  first : UInt8
  position : Nat
  count : Nat
  reason : Utf8Reason
deriving Repr, DecidableEq

/-- The first flaw from a position on. A character under way is told by its first byte, where that
is, and what it still owes. -/
def flawFrom? : Option (UInt8 × Nat × Pending) → (position : Nat) → List UInt8 → Option Utf8Flaw
  | none, _, [] => none
  | some (first, start, _), position, [] => some ⟨first, start, position - start, .endOfData⟩
  | none, position, b :: rest =>
    if b < 0x80 then flawFrom? none (position + 1) rest
    else match leadByte? b.toNat with
      | some (owed, code, low, high) =>
        flawFrom? (some (b, position, ⟨owed, code, low, high⟩)) (position + 1) rest
      | none => some ⟨b, position, 1, .badStart⟩
  | some (first, start, p), position, b :: rest =>
    if p.low ≤ b.toNat && b.toNat ≤ p.high then
      if p.owed ≤ 1 then flawFrom? none (position + 1) rest
      else flawFrom? (some (first, start, ⟨p.owed - 1, p.code, 0x80, 0xBF⟩)) (position + 1) rest
    else some ⟨first, start, position - start, .badContinuation⟩

/-- The first flaw of some bytes; none if they are well formed throughout. -/
def utf8Flaw? (bytes : List UInt8) : Option Utf8Flaw := flawFrom? none 0 bytes

end Vimscript.Text
