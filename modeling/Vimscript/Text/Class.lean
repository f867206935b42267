import Vimscript.Text.ClassTable

/-!
# Character classes

The classes of characters that a script can observe, as Boolean predicates over the tables of
`ClassTable`, and the trimming that rests on them.
-/

namespace Vimscript.Text

/-- White space: what is trimmed around a number literal and what `\s` matches. -/
def isBlank (c : Char) : Bool :=
  inRuns blankRuns c.toNat

/-- The value of a decimal digit of any script. -/
def digitValue? (c : Char) : Option Nat :=
  (digitZeros.find? fun z => z ≤ c.toNat && c.toNat ≤ z + 9).map (c.toNat - ·)

/-- A decimal digit of any script. -/
def isDigit (c : Char) : Bool :=
  (digitValue? c).isSome

/-- A letter, a numeral or the underscore. -/
def isWord (c : Char) : Bool :=
  inRuns wordRuns c.toNat

/-- A capital letter. -/
def isUpper (c : Char) : Bool :=
  inRuns upperRuns c.toNat

/-- A character that stands for itself in quoted text. -/
def isPrintable (c : Char) : Bool :=
  !inRuns unprintableRuns c.toNat

/-- The text without the white space it starts with. -/
def trimLeft (cs : List Char) : List Char :=
  cs.dropWhile isBlank

/-- The text without the characters satisfying `p` that it ends with. -/
def dropRightWhile (p : Char → Bool) (cs : List Char) : List Char :=
  (cs.reverse.dropWhile p).reverse

/-- The text without the white space around it. -/
def trim (cs : List Char) : List Char :=
  dropRightWhile isBlank (trimLeft cs)

end Vimscript.Text
