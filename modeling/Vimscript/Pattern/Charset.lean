import Vimscript.Text.Case
import Vimscript.Text.Class

/-!
# Characters in regular expressions

A regular expression asks for one character at a time: a given one, or one of a set. Whether case
counts, and whether letters beyond ASCII are looked at, is told by options in force where the
character is written.
-/

namespace Vimscript.Pattern

/-- How a character is compared with one of the text. -/
inductive Fold where
  | exact
  /-- Without regard to the case of ASCII letters. -/
  | ascii
  /-- Without regard to the case of any letter. -/
  | full
deriving Repr, DecidableEq

/-- A class of characters with a letter of its own. -/
inductive CharClass where
  | digit
  | blank
  | word
deriving Repr, DecidableEq

/-- A member of a set of characters. -/
inductive SetItem where
  | char (c : Char)
  | range (first last : Char)
  /-- A class, perhaps of ASCII characters only, or its complement. -/
  | kind (cls : CharClass) (ascii negated : Bool)
deriving Repr, DecidableEq

namespace Fold

/-- The small form of a character, as far as case does not count. -/
def lower : Fold → Char → Char
  | exact, c => c
  | ascii, c => c.toLower
  | full, c => Text.lowerChar c

/-- Whether a character of the text matches a given one. -/
def same : Fold → Char → Char → Bool
  | full, x, c => Text.sameLetter x c
  | fold, x, c => fold.lower x == fold.lower c

/-- Every character that matches a given one. -/
def forms : Fold → Char → List Char
  | exact, c => [c]
  | ascii, c => [c.toLower, c.toUpper]
  | full, c => Text.letterForms c

/-- Whether a character has another form. -/
def isCased : Fold → Char → Bool
  | exact, _ => false
  | ascii, c => c.isAlpha
  | full, c => Text.lowerChar c != c || (Text.upperChar c).head? != some c

end Fold

/-- The last character of the first plane. Letters beyond it have one capital and one small form. -/
def lastOfPlane : Char := Char.ofNat 0xFFFF

/-- An ASCII digit, letter or underscore. -/
def isAsciiWord (c : Char) : Bool := c.isAlphanum || c == '_'

/-- White space within ASCII. -/
def isAsciiBlank (c : Char) : Bool := c == ' ' || (9 ≤ c.toNat && c.toNat ≤ 13)

/-- Whether a class holds a character. -/
def CharClass.contains : CharClass → (ascii : Bool) → Char → Bool
  | digit, true, c => c.isDigit
  | digit, false, c => Text.isDigit c
  | blank, true, c => isAsciiBlank c
  | blank, false, c => Text.isBlank c
  | word, true, c => isAsciiWord c
  | word, false, c => Text.isWord c

/-- Whether a character lies between two others. -/
def isBetween (first last c : Char) : Bool := decide (first ≤ c) && decide (c ≤ last)

namespace SetItem

/-- Whether a range covers some form of a character. Beyond the first plane only the small form and
its capital are looked at. -/
def rangeCovers (fold : Fold) (first last c : Char) : Bool :=
  let small := fold.lower c
  let capital := (Text.upperChar small).headD small
  (fold.forms c).any (fun f => decide (f ≤ lastOfPlane) && isBetween first last f) ||
    (decide (lastOfPlane < last) && (isBetween first last small || isBetween first last capital))

/-- Whether a member of a set covers a character. Beyond the first plane a member covers no more
than the character whose small form it is. -/
def contains (fold : Fold) : SetItem → Char → Bool
  | char x, c => if x ≤ lastOfPlane then fold.same x c else x == fold.lower c
  | range first last, c =>
    match fold with
    | .exact => isBetween first last c
    | _ => rangeCovers fold first last c
  | kind cls ascii negated, c => cls.contains ascii (fold.lower c) != negated

/-- Whether a member names a character that has another form. A range that goes beyond the first
plane is taken to. -/
def isCased (fold : Fold) : SetItem → Bool
  | char c => fold.isCased c
  | range first last =>
    fold != .exact && (decide (lastOfPlane < last) ||
      (List.range' first.toNat (last.toNat + 1 - first.toNat)).any (fold.isCased <| Char.ofNat ·))
  | kind .. => false

/-- A member whose class is that of ASCII, or of all characters. -/
def withAscii (ascii : Bool) : SetItem → SetItem
  | kind cls _ negated => kind cls ascii negated
  | item => item

end SetItem

/-- Whether a set covers a character. -/
def setContains (fold : Fold) (negated : Bool) (items : List SetItem) (c : Char) : Bool :=
  items.any (·.contains fold c) != negated

end Vimscript.Pattern
