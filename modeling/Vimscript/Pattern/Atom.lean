import Vimscript.Number.Literal
import Vimscript.Pattern.Regex

/-!
# Single characters, sets and counts

The pieces a regular expression is read from. Each reader takes the text from where its piece starts
and gives the piece and what follows it.
-/

namespace Vimscript.Pattern

/-- Why a text is no regular expression. -/
inductive Flaw where
  | malformed
  /-- A repetition asks for more rounds than can be counted. -/
  | countTooLarge
  /-- A count is written with more digits than are ever read. -/
  | countTooLong (digits : Nat)
  /-- ASCII and all characters are both asked for. -/
  | mixedCharsets
deriving Repr, DecidableEq

/-- What a reading gives: a result or the first flaw. -/
abbrev Read := Except Flaw

/-- A result that has to be there. -/
def orMalformed {α : Type} : Option α → Read α
  | some a => .ok a
  | none => .error .malformed

/-- The options in force at a point of the expression. -/
structure Options where
  ignoreCase : Bool := false
  /-- A dot matches line ends too. -/
  dotAll : Bool := false
  /-- The start and end marks match at lines. -/
  lines : Bool := false
  /-- White space and comments only lay the expression out. -/
  verbose : Bool := false
  /-- Classes and case are those of ASCII. -/
  ascii : Bool := false
deriving Repr, DecidableEq

/-- How characters are compared under some options. -/
def Options.fold (o : Options) : Fold :=
  if o.ignoreCase then if o.ascii then .ascii else .full else .exact

/-- A character that stands for itself. -/
def Options.literal (o : Options) (c : Char) : Regex := .char o.fold false c

/-! ## Escapes -/

/-- The character with a code, which must be that of a character. -/
def charOfCode (code : Nat) : Read Char :=
  if code.isValidChar then .ok (Char.ofNat code) else .error .malformed

/-- Reads exactly `n` hexadecimal digits as a character. -/
def hexChar (n : Nat) (cs : List Char) : Read (Char × List Char) :=
  let digits := cs.take n
  if digits.length = n && digits.all Number.isHex then
    return (← charOfCode (Number.ofDigits 16 digits), cs.drop n)
  else .error .malformed

/-- A character given by at most `n` octal digits. -/
def octalChar (n : Nat) (cs : List Char) : Read (Char × List Char) :=
  let digits := (cs.take n).takeWhile Number.isOctal
  let code := Number.ofDigits 8 digits
  if code ≤ 0o377 then .ok (Char.ofNat code, cs.drop digits.length) else .error .malformed

/-- The control character a letter stands for after a backslash. -/
def controlChar? : Char → Option Char
  | 'a' => some (Char.ofNat 0x07)
  | 'f' => some (Char.ofNat 0x0C)
  | 'n' => some '\n'
  | 'r' => some '\r'
  | 't' => some '\t'
  | 'v' => some (Char.ofNat 0x0B)
  | '\\' => some '\\'
  | _ => none

/-- The class a letter stands for after a backslash; a capital stands for its complement. -/
def classItem? (ascii : Bool) : Char → Option SetItem
  | 'd' => some (.kind .digit ascii false)
  | 'D' => some (.kind .digit ascii true)
  | 's' => some (.kind .blank ascii false)
  | 'S' => some (.kind .blank ascii true)
  | 'w' => some (.kind .word ascii false)
  | 'W' => some (.kind .word ascii true)
  | _ => none

/-- A character given by its code after a backslash and a letter. -/
def codedChar (letter : Char) (rest : List Char) : Read (Char × List Char) :=
  match letter with
  | 'x' => hexChar 2 rest
  | 'u' => hexChar 4 rest
  | 'U' => hexChar 8 rest
  | _ => .error .malformed

/-- Whether three octal digits start a text. -/
def startsOctal : List Char → Bool
  | a :: b :: c :: _ => [a, b, c].all Number.isOctal
  | _ => false

/-! ## Sets -/

/-- Reads what follows a backslash inside a set. -/
def setEscape (ascii : Bool) (c : Char) (rest : List Char) : Read (SetItem × List Char) :=
  match classItem? ascii c with
  | some item => .ok (item, rest)
  | none =>
    if c == 'b' then .ok (.char (Char.ofNat 0x08), rest)
    else match controlChar? c with
      | some x => .ok (.char x, rest)
      | none => do
        if Number.isOctal c then
          let (x, tail) ← octalChar 3 (c :: rest)
          return (.char x, tail)
        else if c.isDigit then .error .malformed
        else if c.isAlpha then
          let (x, tail) ← codedChar c rest
          return (.char x, tail)
        else return (.char c, rest)

/-- Reads one member of a set, before it is known whether it starts a range. -/
def setMember (ascii : Bool) : List Char → Read (SetItem × List Char)
  | [] => .error .malformed
  | '\\' :: c :: rest => setEscape ascii c rest
  | '\\' :: [] => .error .malformed
  | c :: rest => .ok (.char c, rest)

/-- Reads the members of a set up to its closing bracket, which is a member when it comes first. -/
def setItems (ascii : Bool) : Nat → List SetItem → List Char → Read (List SetItem × List Char)
  | 0, _, _ => .error .malformed
  | fuel + 1, items, cs =>
    match cs, items with
    | ']' :: rest, _ :: _ => .ok (items.reverse, rest)
    | _, _ => do
      match ← setMember ascii cs with
      | (first, '-' :: ']' :: rest) => return ((.char '-' :: first :: items).reverse, rest)
      | (first, '-' :: rest) =>
        match first, ← setMember ascii rest with
        | .char a, (.char b, tail) =>
          if a ≤ b then setItems ascii fuel (.range a b :: items) tail else .error .malformed
        | _, _ => .error .malformed
      | (first, rest) => setItems ascii fuel (first :: items) rest

/-- The expression for a set; one character alone is not looked up as a member. -/
def ofItems (fold : Fold) (negated : Bool) (items : List SetItem) : Regex :=
  match items.eraseDups with
  | [.char c] => .char fold negated c
  | distinct => .set fold negated distinct

/-- Reads a set after its opening bracket. -/
def readSet (o : Options) (cs : List Char) : Read (Regex × List Char) := do
  let (negated, members) := match cs with
    | '^' :: rest => (true, rest)
    | _ => (false, cs)
  let (items, rest) ← setItems o.ascii (members.length + 1) [] members
  return (ofItems o.fold negated items, rest)

/-! ## Counts -/

/-- The number of rounds that can no longer be counted. -/
def maxRounds : Nat := 4294967295

/-- The number some digits stand for. -/
def readCount (digits : List Char) : Read Nat :=
  if Number.maxDigits < digits.length then .error (.countTooLong digits.length)
  else
    let n := Number.ofDigits 10 digits
    if maxRounds ≤ n then .error .countTooLarge else .ok n

/-- Reads the counts of a repetition after its opening brace; nothing if they are not complete, for
then the brace stands for itself. -/
def readCounts? (cs : List Char) : Read (Option (Nat × Option Nat × List Char)) := do
  let low := cs.takeWhile Char.isDigit
  let (high, rest) := match cs.dropWhile Char.isDigit with
    | ',' :: more => (more.takeWhile Char.isDigit, more.dropWhile Char.isDigit)
    | rest => (low, rest)
  match cs, rest with
  | '\x7d' :: _, _ => return none
  | _, ['\x7d', '\\'] => .error .malformed
  | _, '\x7d' :: tail =>
    let min ← readCount low
    let max ← if high.isEmpty then pure none else some <$> readCount high
    if max.any (· < min) then .error .malformed else return some (min, max, tail)
  | _, _ => return none

/-- The repetition a text starts with: bounds and what follows; nothing if there is none. -/
def readBounds? : List Char → Read (Option (Nat × Option Nat × List Char))
  | '*' :: rest => .ok (some (0, none, rest))
  | '+' :: rest => .ok (some (1, none, rest))
  | '?' :: rest => .ok (some (0, some 1, rest))
  | '\x7b' :: rest => readCounts? rest
  | _ => .ok none

/-- The suffix of a repetition that says how eagerly it matches. -/
def readMode : List Char → Mode × List Char
  | '?' :: rest => (.reluctant, rest)
  | '+' :: rest => (.possessive, rest)
  | cs => (.greedy, cs)

/-! ## Layout and options -/

/-- White space that only lays out a verbose expression. -/
def isLayout (c : Char) : Bool := isAsciiBlank c

/-- What follows the first `stop` that is not escaped; nothing if there is none. -/
def skipPast? (stop : Char) : List Char → Option (List Char)
  | [] => none
  | '\\' :: _ :: rest => skipPast? stop rest
  | c :: rest => if c == stop then some rest else skipPast? stop rest

/-- Cuts a text at the first occurrence of `stop`, which must be there. -/
def cutAt? (stop : Char) : List Char → Option (List Char × List Char)
  | [] => none
  | c :: rest =>
    if c == stop then some ([], rest)
    else (cutAt? stop rest).map fun (cut, tail) => (c :: cut, tail)

/-- The letters of the options. -/
def isOption (c : Char) : Bool := "imsxatu".toList.contains c

/-- Reads letters of options and the character that ends them. -/
def readLetters : List Char → Read (List Char × Char × List Char)
  | [] => .error .malformed
  | c :: rest =>
    if c == ')' || c == '-' || c == ':' then .ok ([], c, rest)
    else if isOption c then do
      let (letters, stop, tail) ← readLetters rest
      return (c :: letters, stop, tail)
    else .error .malformed

/-- The options after some were turned on and others off by their letters. -/
def Options.change (o : Options) (on off : List Char) : Options :=
  let isOn (letter : Char) (before : Bool) : Bool :=
    (before || on.contains letter) && !off.contains letter
  { ignoreCase := isOn 'i' o.ignoreCase
    dotAll := isOn 's' o.dotAll
    lines := isOn 'm' o.lines
    verbose := isOn 'x' o.verbose
    ascii := on.contains 'a' || (o.ascii && !on.contains 'u') }

/-- Whether options can be turned on and off by these letters for a part of an expression. -/
def isChange (on off : List Char) : Bool :=
  !on.contains 't' && !(on.contains 'a' && on.contains 'u') &&
    off.all (fun c => "imsx".toList.contains c && !on.contains c)

/-- Reads a change of options up to the colon that ends it. -/
def readChange (o : Options) (cs : List Char) : Read (Options × List Char) := do
  match ← readLetters cs with
  | (on, ':', body) =>
    if !on.isEmpty && isChange on [] then return (o.change on [], body) else .error .malformed
  | (on, '-', more) =>
    match ← readLetters more with
    | (off, ':', body) =>
      if !off.isEmpty && isChange on off then return (o.change on off, body)
      else .error .malformed
    | _ => .error .malformed
  | _ => .error .malformed

end Vimscript.Pattern
