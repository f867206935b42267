import Vimscript.Decimal.Fixed
import Vimscript.Decimal.Shortest
import Vimscript.Heap.Basic
import Vimscript.Number.Literal
import Vimscript.Text.Quoted

/-!
# Printing values

`Heap.string` is the form in which a value can be told from any other: Strings quoted, Lists in
brackets, Dictionaries in braces. A List or Dictionary that is met again inside itself is
marked and not entered. `Heap.echo` shows a String or Funcref that stands alone as it is. Neither
is given to a script where it would hold a Number with too many digits.
-/

namespace Vimscript

/-- A text between single quotes, with every quote in it doubled. -/
def quoteString (s : String) : String :=
  let doubled (c : Char) : List Char := if c == '\'' then ['\'', '\''] else [c]
  String.ofList ('\'' :: s.toList.flatMap doubled ++ ['\''])

/-- Bytes as a Blob literal. -/
def blobText (bytes : List UInt8) : String :=
  String.ofList ('0' :: 'z' :: bytes.flatMap fun b => (Text.hex 2 b.toNat).map Char.toUpper)

namespace Heap

/-- Prints a value inside the Lists and Dictionaries on `path`, following at most `fuel` steps. -/
def printWithin (h : Heap) : (fuel : Nat) → (path : List Ref) → Ref → String
  | 0, _, _ => ""
  | fuel + 1, path, r =>
    match h.value r with
    | .number n => toString n
    | .float x => Decimal.fixed x
    | .string s => quoteString s
    | .blob bytes => blobText bytes
    | .list items =>
      if path.contains r then "[...]"
      else "[" ++ ", ".intercalate (items.map (h.printWithin fuel (r :: path))) ++ "]"
    | .dict t =>
      if path.contains r then "\x7b...\x7d"
      else
        let entry (e : String × Ref) : String :=
          quoteString e.1 ++ ": " ++ h.printWithin fuel (r :: path) e.2
        "\x7b" ++ ", ".intercalate (t.entries.map entry) ++ "\x7d"
    | .funcref f =>
      let arguments :=
        if (h.items f.arguments).isEmpty then [] else [h.printWithin fuel path f.arguments]
      let self := match f.self with
        | some d => if f.isSelfFixed then [h.printWithin fuel path d] else []
        | none => []
      "function(" ++ ", ".intercalate (quoteString f.callee.name :: arguments ++ self) ++ ")"

/-- A path that never repeats takes at most two steps an object. -/
def printFuel (h : Heap) : Nat := 2 * h.size + 2

/-- The unambiguous form of a value. -/
def string (h : Heap) (r : Ref) : String :=
  h.printWithin h.printFuel [] r

/-- The form in which a value is shown. -/
def echo (h : Heap) (r : Ref) : String :=
  match h.value r with
  | .string s => s
  | .funcref f => f.callee.name
  | _ => h.string r

/-- Whether printing a value meets a Number with too many digits. -/
def meetsLong (h : Heap) : (fuel : Nat) → (path : List Ref) → Ref → Bool
  | 0, _, _ => false
  | fuel + 1, path, r =>
    match h.value r with
    | .number n => Number.isLong n
    | .list items => !path.contains r && items.any (h.meetsLong fuel (r :: path))
    | .dict t => !path.contains r && t.entries.any fun e => h.meetsLong fuel (r :: path) e.2
    | .funcref f =>
      h.meetsLong fuel path f.arguments ||
        (f.isSelfFixed && f.self.any fun d => h.meetsLong fuel path d)
    | _ => false

/-- The unambiguous form of a value, unless a Number in it has too many digits. -/
def printed (h : Heap) (r : Ref) : Result String :=
  if h.meetsLong h.printFuel [] r then faulty (.tooManyDigits none) else .ok (h.string r)

/-- The form in which a value is shown, unless a Number in it has too many digits. -/
def echoed (h : Heap) (r : Ref) : Result String :=
  match h.value r with
  | .string _ | .funcref _ => .ok (h.echo r)
  | _ => h.printed r

/-- Describes a value for the developer of a host, following at most `fuel` steps. -/
def describeWithin (h : Heap) : Nat → Ref → String
  | 0, _ => ""
  | fuel + 1, r =>
    match h.value r with
    | .number n => "VimInt(" ++ toString n ++ ")"
    | .float x => "VimFloat(" ++ Decimal.shortest x ++ ")"
    | .string s => "VimString(" ++ Text.quoted s ++ ")"
    | .list items => "VimList([" ++ ", ".intercalate (items.map (h.describeWithin fuel)) ++ "])"
    | .dict t =>
      let entry (e : String × Ref) : String := Text.quoted e.1 ++ ": " ++ h.describeWithin fuel e.2
      "VimDictionary(\x7b" ++ ", ".intercalate (t.entries.map entry) ++ "\x7d)"
    | .funcref f => "VimFuncref(" ++ Text.quoted f.callee.name ++ ", type=" ++ f.kind.word ++ ")"
    | .blob bytes => "VimBlob(" ++ Text.quotedBytes bytes ++ ")"

/-- Describes a value for the developer of a host. -/
def describe (h : Heap) (r : Ref) : String :=
  h.describeWithin (h.size + 1) r

end Heap

end Vimscript
