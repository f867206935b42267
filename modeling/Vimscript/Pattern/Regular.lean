/-!
# Search patterns as regular expressions

The regular expression of a search pattern is put together atom by atom. Plain letters keep their
meaning, the characters that only a backslash makes special are escaped, and the backslashed
atoms have counterparts. `\c` and `\C` leave no text but set whether case is ignored.
-/

namespace Vimscript.Pattern

/-- The text of a regular expression and how it treats case. -/
structure Regular where
  regex : List Char
  ignoreCase : Bool
deriving Repr, DecidableEq

/-- What stands for a backslashed atom that is not spelled the same in a regular expression. -/
def atomText? : Char → Option String
  | '<' => some "\\b"
  | '>' => some "\\b"
  | '(' => some "("
  | ')' => some ")"
  | '|' => some "|"
  | '+' => some "+"
  | '=' => some "?"
  | '?' => some "?"
  | 'a' => some "[A-Za-z]"
  | 'A' => some "[^A-Za-z]"
  | 'l' => some "[a-z]"
  | 'u' => some "[A-Z]"
  | 'x' => some "[0-9A-Fa-f]"
  | '/' => some "/"
  | _ => none

/-- The characters that keep their backslash. -/
def keepsBackslash (c : Char) : Bool :=
  "sSdDwWntr.*[]\\^$~".toList.contains c

/-- The characters a regular expression must not meet bare. -/
def needsEscape (c : Char) : Bool :=
  "()[]\x7b\x7d?*+-|^$\\.&~# \t\n\r".toList.contains c || c.toNat = 0x0B || c.toNat = 0x0C

/-- The characters that are plain in a pattern and special in a regular expression. -/
def isPlainOperator (c : Char) : Bool :=
  "()|+?\x7b\x7d".toList.contains c

/-- A character that stands for itself. -/
def escape (c : Char) : List Char :=
  if needsEscape c then ['\\', c] else [c]

/-- The text for a backslash followed by `c`. -/
def backslashed (c : Char) : List Char :=
  match atomText? c with
  | some text => text.toList
  | none => if keepsBackslash c then ['\\', c] else escape c

/-- The text for `c` without a backslash. -/
def plain (c : Char) : List Char :=
  if isPlainOperator c then ['\\', c] else [c]

/-- The repetition a count asks for. A leading minus makes it match as few as possible, and a
count without numbers asks for any number. -/
def multi (bounds : List Char) : List Char :=
  let isLazy := bounds.head? == some '-'
  let numbers := ((bounds.dropWhile (· == '-')).reverse.dropWhile (· == '\\')).reverse
  let times := if numbers.isEmpty || numbers == [','] then ['*'] else '\x7b' :: numbers ++ ['\x7d']
  if isLazy then times ++ ['?'] else times

/-- Puts text in front of a regular expression. -/
def Regular.prepend (text : List Char) (t : Regular) : Regular :=
  { t with regex := text ++ t.regex }

/-- The regular expression of the rest of a pattern. `bounds` holds, in reverse, the count that is
being read; a count that is never closed has no counterpart. -/
def regularFrom : (bounds : Option (List Char)) → (ignoreCase : Bool) → List Char →
    Option Regular
  | none, ignoreCase, [] => some ⟨[], ignoreCase⟩
  | some _, _, [] => none
  | some bounds, ignoreCase, c :: rest =>
    if c == '\x7d' then
      (regularFrom none ignoreCase rest).map (Regular.prepend (multi bounds.reverse))
    else regularFrom (some (c :: bounds)) ignoreCase rest
  | none, ignoreCase, '\\' :: c :: rest =>
    if c == '\x7b' then regularFrom (some []) ignoreCase rest
    else if c == 'c' then regularFrom none true rest
    else if c == 'C' then regularFrom none false rest
    else (regularFrom none ignoreCase rest).map (Regular.prepend (backslashed c))
  | none, ignoreCase, c :: rest =>
    (regularFrom none ignoreCase rest).map (Regular.prepend (plain c))

/-- The regular expression of a pattern. -/
def regular? (pattern : String) : Option Regular :=
  regularFrom none false pattern.toList

end Vimscript.Pattern
