import Vimscript.Data.Basic
import Vimscript.Number.Limit

/-!
# JSON documents

`Json.render` writes data either on one line or indented by two spaces a level; `Json.parse?` reads
a document strictly, and besides the standard accepts the words for infinity and not-a-number
that the writer produces.

Texts are sequences of Unicode scalar values, and half of a surrogate pair is none. The escapes of
a whole pair are read as the one character they stand for, an escape for one half without the other
as U+FFFD.
-/

namespace Vimscript.Json

/-! ## Writing -/

/-- One character of a JSON text. -/
def escapeChar (c : Char) : List Char :=
  if c == '"' then ['\\', '"']
  else if c == '\\' then ['\\', '\\']
  else if c == '\n' then ['\\', 'n']
  else if c == '\r' then ['\\', 'r']
  else if c == '\t' then ['\\', 't']
  else if c.toNat = 0x0C then ['\\', 'f']
  else if c.toNat = 0x08 then ['\\', 'b']
  else if c.toNat < 0x20 then '\\' :: 'u' :: Text.hex 4 c.toNat
  else [c]

/-- A text between quotes. -/
def quote (s : String) : String :=
  String.ofList ('"' :: s.toList.flatMap escapeChar ++ ['"'])

/-- A double; the three special values are words. -/
def renderFloat (x : Float) : String :=
  match Decimal.Dyadic.ofFloat? x with
  | some d => d.text
  | none => if x.isNaN then "NaN" else if Decimal.signBit x then "-Infinity" else "Infinity"

/-- A key, always written as a text. -/
def renderKey : Key → String
  | .null => quote "null"
  | .bool b => quote (if b then "true" else "false")
  | .int n => quote (toString n)
  | .float x => quote (renderFloat x)
  | .text s => quote s

/-- A line break followed by the indentation of a level, when the document is indented. -/
def lineBreak (pretty : Bool) (level : Nat) : String :=
  if pretty then String.ofList ('\n' :: List.replicate (2 * level) ' ') else ""

/-- What stands between two items. -/
def separator (pretty : Bool) (level : Nat) : String :=
  if pretty then "," ++ lineBreak pretty level else ", "

mutual

/-- Writes data that starts at a level of indentation. Data of some kinds no document can hold. -/
def renderAt (pretty : Bool) (level : Nat) : Data → Except Fault String
  | .null => .ok "null"
  | .bool b => .ok (if b then "true" else "false")
  | .int n => Number.write n
  | .float x => .ok (renderFloat x)
  | .text s => .ok (quote s)
  | .list [] => .ok "[]"
  | .list items => do
    let parts ← renderAll pretty (level + 1) items
    return "[" ++ lineBreak pretty (level + 1)
      ++ (separator pretty (level + 1)).intercalate parts ++ lineBreak pretty level ++ "]"
  | .map [] => .ok "\x7b\x7d"
  | .map entries => do
    let parts ← renderEntries pretty (level + 1) entries
    return "\x7b" ++ lineBreak pretty (level + 1)
      ++ (separator pretty (level + 1)).intercalate parts ++ lineBreak pretty level ++ "\x7d"
  | .bytes b => .error (.notSerializable (Data.bytes b).kind)
  | .foreign => .error (.notSerializable Data.foreign.kind)

/-- Writes the items of a list. -/
def renderAll (pretty : Bool) (level : Nat) : List Data → Except Fault (List String)
  | [] => .ok []
  | d :: rest => do
    let first ← renderAt pretty level d
    let others ← renderAll pretty level rest
    return first :: others

/-- Writes the entries of a map. -/
def renderEntries (pretty : Bool) (level : Nat) :
    List (Key × Data) → Except Fault (List String)
  | [] => .ok []
  | (k, v) :: rest => do
    let value ← renderAt pretty level v
    let others ← renderEntries pretty level rest
    return (renderKey k ++ ": " ++ value) :: others

end

/-- Writes a document. -/
def render (pretty : Bool) (d : Data) : Except Fault String :=
  renderAt pretty 0 d

/-! ## Reading -/

/-- The white space between tokens. -/
def isSpace (c : Char) : Bool :=
  c == ' ' || c == '\t' || c == '\n' || c == '\r'

/-- What follows the white space at the start. -/
def skipSpace (cs : List Char) : List Char :=
  cs.dropWhile isSpace

/-- The character an escape of one letter stands for. -/
def escaped? : Char → Option Char
  | '"' => some '"'
  | '\\' => some '\\'
  | '/' => some '/'
  | 'b' => some (Char.ofNat 0x08)
  | 'f' => some (Char.ofNat 0x0C)
  | 'n' => some '\n'
  | 'r' => some '\r'
  | 't' => some '\t'
  | _ => none

/-- The code units of a text after its opening quote, and what follows the closing one. -/
def scanText : List Char → Option (List Nat × List Char)
  | [] => none
  | '"' :: rest => some ([], rest)
  | '\\' :: 'u' :: a :: b :: c :: d :: rest =>
    if Number.isHex a && Number.isHex b && Number.isHex c && Number.isHex d then
      (scanText rest).map fun (units, tail) => (Number.ofDigits 16 [a, b, c, d] :: units, tail)
    else none
  | '\\' :: e :: rest =>
    match escaped? e with
    | some c => (scanText rest).map fun (units, tail) => (c.toNat :: units, tail)
    | none => none
  | c :: rest =>
    if c.toNat < 0x20 || c == '\\' then none
    else (scanText rest).map fun (units, tail) => (c.toNat :: units, tail)

/-- The first half of a surrogate pair. -/
def isHighHalf (u : Nat) : Bool := 0xD800 ≤ u && u ≤ 0xDBFF

/-- The second half of a surrogate pair. -/
def isLowHalf (u : Nat) : Bool := 0xDC00 ≤ u && u ≤ 0xDFFF

/-- Stands for half of a surrogate pair without its partner. -/
def loneHalf : Char := Char.ofNat 0xFFFD

/-- Joins the two halves of surrogate pairs, given a first half that waits for its partner. -/
def joinUnits : Option Nat → List Nat → List Char
  | none, [] => []
  | some _, [] => [loneHalf]
  | none, u :: rest =>
    if isHighHalf u then joinUnits (some u) rest
    else if isLowHalf u then loneHalf :: joinUnits none rest
    else Char.ofNat u :: joinUnits none rest
  | some high, u :: rest =>
    if isLowHalf u then
      Char.ofNat (0x10000 + (high - 0xD800) * 0x400 + (u - 0xDC00)) :: joinUnits none rest
    else if isHighHalf u then loneHalf :: joinUnits (some u) rest
    else loneHalf :: Char.ofNat u :: joinUnits none rest

/-- Reads a text after its opening quote. -/
def readText (cs : List Char) : Option (String × List Char) :=
  (scanText cs).map fun (units, tail) => (String.ofList (joinUnits none units), tail)

/-- The fraction a number continues with: its digits and what follows. -/
def readFraction : List Char → Option (List Char × List Char)
  | '.' :: d :: rest =>
    if d.isDigit then some ((d :: rest).takeWhile Char.isDigit, (d :: rest).dropWhile Char.isDigit)
    else none
  | _ => none

/-- The exponent a number continues with. -/
def readExponent : List Char → Option (Int × List Char)
  | e :: rest =>
    if e == 'e' || e == 'E' then
      let (negative, digits) := Decimal.splitSign rest
      match digits.takeWhile Char.isDigit with
      | [] => none
      | ds =>
        let n : Int := Number.ofDigits 10 ds
        some (if negative then -n else n, digits.dropWhile Char.isDigit)
    else none
  | [] => none

/-- Reads an unsigned number: an integer, or a double if it has a fraction or an exponent. -/
def readUnsigned (negative : Bool) (whole rest : List Char) : Data × List Char :=
  match readFraction rest, readExponent rest with
  | none, none => (.int (Number.signed negative (Number.ofDigits 10 whole)), rest)
  | none, some (e, tail) =>
    (.float (Decimal.Scientific.toFloat ⟨negative, Number.ofDigits 10 whole, e⟩), tail)
  | some (fraction, tail), _ =>
    let digits := Number.ofDigits 10 (whole ++ fraction)
    let (e, tail) := (readExponent tail).getD (0, tail)
    (.float (Decimal.Scientific.toFloat ⟨negative, digits, e - fraction.length⟩), tail)

/-- Reads a number. -/
def readNumber (cs : List Char) : Option (Data × List Char) :=
  let (negative, unsigned) := Number.splitSign cs
  match unsigned with
  | '0' :: rest => some (readUnsigned negative ['0'] rest)
  | c :: rest =>
    if c.isDigit then
      some (readUnsigned negative ((c :: rest).takeWhile Char.isDigit)
        ((c :: rest).dropWhile Char.isDigit))
    else none
  | [] => none

/-- Drops a word a text must start with. -/
def dropWord? (word : String) (cs : List Char) : Option (List Char) :=
  let w := word.toList
  if w.isPrefixOf cs then some (cs.drop w.length) else none

/-- Reads one of the words a document may hold. -/
def readWord (cs : List Char) : Option (Data × List Char) :=
  let words : List (String × Data) :=
    [("null", .null), ("true", .bool true), ("false", .bool false),
     ("NaN", .float Decimal.notANumber), ("Infinity", .float Decimal.infinity),
     ("-Infinity", .float (Decimal.negate Decimal.infinity))]
  words.findSome? fun (word, d) => (dropWord? word cs).map fun tail => (d, tail)

mutual

/-- Reads data that starts right here. The fuel bounds the nesting and the number of items; the
length of the document is always enough. -/
def readData : Nat → List Char → Option (Data × List Char)
  | 0, _ => none
  | fuel + 1, cs =>
    match cs with
    | '"' :: rest => (readText rest).map fun (s, tail) => (.text s, tail)
    | '[' :: rest =>
      match skipSpace rest with
      | ']' :: tail => some (.list [], tail)
      | items => (readItems fuel items).map fun (ds, tail) => (.list ds, tail)
    | '\x7b' :: rest =>
      match skipSpace rest with
      | '\x7d' :: tail => some (.map [], tail)
      | entries => (readEntries fuel entries).map fun (es, tail) => (Data.ofEntries es, tail)
    | _ => (readWord cs).or (readNumber cs)

/-- Reads the items of a list up to its closing bracket. -/
def readItems : Nat → List Char → Option (List Data × List Char)
  | 0, _ => none
  | fuel + 1, cs =>
    match readData fuel cs with
    | none => none
    | some (d, rest) =>
      match skipSpace rest with
      | ']' :: tail => some ([d], tail)
      | ',' :: more => (readItems fuel (skipSpace more)).map fun (ds, tail) => (d :: ds, tail)
      | _ => none

/-- Reads the entries of a map up to its closing brace. -/
def readEntries : Nat → List Char → Option (List (Key × Data) × List Char)
  | 0, _ => none
  | fuel + 1, cs =>
    match cs with
    | '"' :: rest =>
      match readText rest with
      | none => none
      | some (key, afterKey) =>
        match skipSpace afterKey with
        | ':' :: value =>
          match readData fuel (skipSpace value) with
          | none => none
          | some (d, afterValue) =>
            match skipSpace afterValue with
            | '\x7d' :: tail => some ([(.text key, d)], tail)
            | ',' :: more =>
              (readEntries fuel (skipSpace more)).map fun (es, tail) => ((.text key, d) :: es, tail)
            | _ => none
        | _ => none
    | _ => none

end

/-- Reads a document. -/
def parse? (s : String) : Option Data :=
  let cs := s.toList
  match readData (cs.length + 1) (skipSpace cs) with
  | some (d, rest) => if (skipSpace rest).isEmpty then some d else none
  | none => none

end Vimscript.Json
