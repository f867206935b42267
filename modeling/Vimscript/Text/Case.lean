import Vimscript.Text.CaseTable
import Vimscript.Text.ClassTable

/-!
# Small and capital letters

Whole texts are lowered and raised by the full mappings: a capital may become several characters,
and a capital sigma becomes the final form at the end of a word. Patterns that ignore case use
the one-character mapping `lowerChar` and the sets of letters that match each other.
-/

namespace Vimscript.Text

/-- The small form as a single character. The dotted capital I counts as a plain `i`. -/
def lowerChar (c : Char) : Char :=
  if c.toNat = 0x130 then 'i'
  else match shifted? lowerShifts c.toNat with
    | some n => Char.ofNat n
    | none => c

/-- Skipping ignorable characters, whether the next character is a cased letter. -/
def startsCased : List Char → Bool
  | [] => false
  | c :: rest =>
    if inRuns ignorableRuns c.toNat then startsCased rest else inRuns casedRuns c.toNat

/-- The small form of one character of a text. `before` holds the preceding characters, nearest
first; a capital sigma is final when a cased letter precedes it and none follows. -/
def lowerAt (before : List Char) (c : Char) (after : List Char) : List Char :=
  if c.toNat = 0x3a3 then
    if startsCased before && !startsCased after then [Char.ofNat 0x3c2] else [Char.ofNat 0x3c3]
  else if c.toNat = 0x130 then ['i', Char.ofNat 0x307]
  else [lowerChar c]

/-- Lowers the characters of a text after `before`. -/
def lowerFrom (before : List Char) : List Char → List Char
  | [] => []
  | c :: rest => lowerAt before c rest ++ lowerFrom (c :: before) rest

/-- A text in small letters. -/
def lower (s : String) : String :=
  String.ofList (lowerFrom [] s.toList)

/-- The capital form of one character. -/
def upperChar (c : Char) : List Char :=
  match upperExpansions.find? (·.1 == c.toNat) with
  | some (_, expansion) => expansion.map Char.ofNat
  | none => match shifted? upperShifts c.toNat with
    | some n => [Char.ofNat n]
    | none => [c]

/-- A text in capital letters. -/
def upper (s : String) : String :=
  String.ofList (s.toList.flatMap upperChar)

/-- The small letters that match the small letter `c` when case is ignored. -/
def lowerVariants (c : Char) : List Char :=
  c :: match caseVariants.find? (·.1 == c.toNat) with
    | some (_, others) => others.map Char.ofNat
    | none => []

/-- Whether two characters match when case is ignored. -/
def sameLetter (a b : Char) : Bool :=
  (lowerVariants (lowerChar a)).contains (lowerChar b)

/-- Every character that matches `c` when case is ignored. -/
def letterForms (c : Char) : List Char :=
  (lowerVariants (lowerChar c)).flatMap fun l =>
    let dotted := if l == 'i' then [Char.ofNat 0x130] else []
    l :: dotted ++ (shiftSources lowerShifts l.toNat).map Char.ofNat

end Vimscript.Text
