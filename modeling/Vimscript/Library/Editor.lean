import Vimscript.Operator.Subscript
import Vimscript.Run.Basic

/-!
# Built-in functions on variables and the host
-/

namespace Vimscript.Library

open Run

/-! ## Variables -/

/-- A step from a container to an item of it, as a text writes it. -/
inductive Accessor where
  | key (name : String)
  /-- An index, and with how many digits it is written. -/
  | index (n : Int) (digits : Nat)

/-- Reads the steps after the name of a variable: `.key` and `[index]`. -/
def readAccessors : List Char → Option (List Accessor)
  | [] => some []
  | '.' :: rest =>
    match rest.takeWhile Text.isWord with
    | [] => none
    | word => (readAccessors (rest.dropWhile Text.isWord)).map (.key (String.ofList word) :: ·)
  | '[' :: rest =>
    let digits := (Number.splitSign rest).2
    match (digits.takeWhile Text.isDigit).filterMap Text.digitValue? with
    | [] => none
    | ds =>
      match _h : digits.dropWhile Text.isDigit with
      | ']' :: tail =>
        let n := Number.signed (Number.splitSign rest).1 (Decimal.ofDigits ds)
        (readAccessors tail).map (.index n ds.length :: ·)
      | _ => none
  | _ => none
termination_by cs => cs.length
decreasing_by
  · have := (rest.dropWhile_sublist Text.isWord).length_le
    simp only [List.length_cons]; omega
  · have h₁ := (digits.dropWhile_sublist Text.isDigit).length_le
    have h₂ : digits.length ≤ rest.length := by
      simp only [digits, Number.splitSign]; split <;> simp
    rw [_h] at h₁
    simp only [List.length_cons] at *; omega

/-- A character of a variable's name with its scope. -/
def isNameChar (c : Char) : Bool :=
  Text.isWord c || c == ':' || c == '#'

/-- Splits a text into the name of a variable and the steps after it. -/
def readPlace? (s : String) : Option (String × List Accessor) :=
  match s.toList.takeWhile isNameChar with
  | [] => none
  | name =>
    (readAccessors (s.toList.dropWhile isNameChar)).map fun steps => (String.ofList name, steps)

/-- Follows steps into a value. -/
def follow (r : Ref) : List Accessor → Op Ref
  | [] => return r
  | .key name :: rest => do follow (← Op.index r (← Op.string name)) rest
  | .index n digits :: rest => do
    orFault (Number.checkDigits digits)
    follow (← Op.index r (← Op.number n)) rest

/-- Whether a variable or an item in it is locked; -1 where there is no such variable. -/
def islocked (r : Ref) (c : Context) : Run Ref := do
  let text ← Op.toText r
  match readPlace? text with
  | none => fail (.invalidArgumentValue text)
  | some (written, steps) =>
    let sp ← spaces
    let (scope, name) := splitScope written
    match ← sp.get? scope name c with
    | none => Op.number (-1)
    | some held =>
      if steps.isEmpty then Op.truth (← sp.isLocked scope name c)
      else Op.truth (← Op.isLocked (← follow held steps))

/-- Whether there is an option, an environment variable, a function or a variable. -/
def existsName (r : Ref) (c : Context) : Run Ref := do
  let text ← Op.toText r
  match text.toList with
  | '&' :: rest => Op.truth ((← host).optionNamed? (splitScope (String.ofList rest)).2).isSome
  | '$' :: rest => Op.truth ((← host).env? (String.ofList rest)).isSome
  | '*' :: rest =>
    let (scope, name) := splitScope (String.ofList rest)
    Op.truth ((← registry).lookup? scope (.text name) c.script).isSome
  | _ =>
    let (scope, name) := splitScope text
    Op.truth (← (← spaces).isDefined scope name c)

/-! ## The host -/

/-- The line a mark stands for. -/
def lineNumber (h : Host) : String → Int
  | "." => h.currentLine
  | "$" | "w$" => h.lineCount
  | "w0" => if h.lineCount = 0 then 0 else 1
  | _ => 0

/-- The column a mark stands for. -/
def columnNumber (h : Host) : String → Int
  | "." => h.currentColumn
  | "$" => (h.lineText h.currentLine).length + 1
  | _ => 0

/-- The line of a mark. -/
def line (r : Ref) : Run Ref := do
  let mark ← Op.toText r
  Op.number (lineNumber (← host) mark)

/-- The column of a mark. -/
def col (r : Ref) : Run Ref := do
  let mark ← Op.toText r
  Op.number (columnNumber (← host) mark)

/-- Asks the user. -/
def input (prompt fallback : Option Ref) : Run Ref := do
  let prompt ← Op.toTextD "" prompt
  let fallback ← Op.toTextD "" fallback
  Op.string (← modifyGetHost fun h => h.ask prompt fallback)

end Vimscript.Library
