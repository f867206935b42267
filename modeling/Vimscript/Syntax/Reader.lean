import Vimscript.Number.Limit
import Vimscript.Syntax.Tree

/-!
# Reading trees

A tree arrives as plain data: every node is a map with a `tag` and one field for each of its parts.
Fields are read in a fixed order, so that of several faults always the same one is reported.
Reading descends one level of nesting at a time, with the depth of the data as fuel.
-/

namespace Vimscript.Reader

/-- The fields of a node. -/
abbrev Fields := List (Key × Data)

/-- What a reading gives: a result or the first fault. -/
abbrev Read := Except Fault

/-! ## Fields -/

/-- The items of data that can be gone through one by one. -/
def elements : Data → Read (List Data)
  | .list items => .ok items
  | .text s => .ok (s.toList.map fun c => .text (String.singleton c))
  | .map entries => .ok (entries.map fun (k, _) => k.toData)
  | .bytes b => .ok (b.map fun byte => .int byte.toNat)
  | d => .error (.notIterable d.kind)

/-- A field, or nothing where it is left out or null. -/
def optional? (fields : Fields) (name : String) : Option Data :=
  match Data.lookup? name fields with
  | some .null => none
  | field => field

/-- The items of a field; one that is left out or empty has none. -/
def items (fields : Fields) (name : String) : Read (List Data) :=
  match Data.lookup? name fields with
  | none => .ok []
  | some d => if d.isTruthy then elements d else .ok []

/-- The tag of a node as text. -/
def tagText (fields : Fields) : String :=
  ((Data.lookup? "tag" fields).getD .null).asText

/-- A field that every node of this kind has. -/
def required (fields : Fields) (name : String) : Read Data :=
  match Data.lookup? name fields with
  | some d => .ok d
  | none => .error (.missingField (tagText fields) name)

/-- A subtree that every node of this kind has. -/
def subtree (fields : Fields) (name : String) : Read Data :=
  match Data.lookup? name fields with
  | some d => .ok d
  | none => .error (.absentField name)

/-- Whether a flag is given. -/
def flag (fields : Fields) (name : String) : Bool :=
  ((Data.lookup? name fields).getD (.bool false)).isTruthy

/-- Data that must have exactly two items. -/
def pair (d : Data) : Read (Data × Data) :=
  match elements d with
  | .ok [a, b] => .ok (a, b)
  | .ok others => .error (.wrongCount 2 others.length)
  | .error _ => .error (.notUnpackable d.kind)

/-- The item of a map at a position, which is the value of that number. -/
def itemOfMap (entries : Fields) (i : Nat) : Read Data :=
  match Data.lookupKey? (.int i) entries with
  | some d => .ok d
  | none => .error (.absentIndex i)

/-- Data whose length is taken before its two items are; another length is the fault `wrong`. -/
def sizedPair (wrong : Fault) (d : Data) : Read (Read Data × Read Data) :=
  match d with
  | .map entries =>
    if entries.length = 2 then .ok (itemOfMap entries 0, itemOfMap entries 1) else .error wrong
  | .list _ | .text _ | .bytes _ => do
    match ← elements d with
    | [a, b] => return (.ok a, .ok b)
    | _ => .error wrong
  | d => .error (.noLength d.kind)

/-- The place of a node, where its line is given. -/
def mark (fields : Fields) : Option Mark :=
  (optional? fields "line").map fun line =>
    { line, column := (Data.lookup? "col" fields).getD .null }

/-- A text without the colons it ends with. -/
def dropColons (s : String) : String :=
  String.ofList (Text.dropRightWhile (· == ':') s.toList)

/-- The scope of a node. -/
def scope (fields : Fields) : Read (Option Scope) :=
  match optional? fields "scope" with
  | none => .ok none
  | some d =>
    let letter := dropColons d.asText
    match Scope.ofText? letter with
    | some s => .ok (some s)
    | none => .error (.unknownScope letter)

/-! ## Expressions -/

/-- The value of an integer literal given as data. -/
def intLiteral (m : Option Mark) : Data → Read Expr
  | .int n => .ok (.int m n)
  | .bool b => .ok (.truth m b)
  | d => do return .int m (← Number.readText d.asText)

/-- The value of a decimal literal given as data. -/
def floatValue : Data → Read Float
  | .float x => .ok x
  | .int n =>
    let x := Decimal.ofInt n
    if x.isInf then .error .doubleOverflow else .ok x
  | .bool b => .ok (Decimal.ofInt (if b then 1 else 0))
  | .text s =>
    match Decimal.read? s with
    | some x => .ok x
    | none => .error (.notDecimal (Text.quoted s))
  | d => .error (.notNumeric d.kind)

/-- Reads an expression. -/
def expr : Nat → Data → Read Expr
  | 0, d => .error (.notExpression d.shown)
  | fuel + 1, .map fields => do
    let m := mark fields
    let sub (name : String) : Read Expr := do expr fuel (← subtree fields name)
    let args (name : String) : Read (List Expr) := do (← items fields name).mapM (expr fuel)
    match Data.lookup? "tag" fields with
    | some (.text "int") => intLiteral m (← required fields "value")
    | some (.text "float") => return .float m (← floatValue (← required fields "value"))
    | some (.text "string") => return .text m (← required fields "value").asText
    | some (.text "list") => return .list m (← args "items")
    | some (.text "dict") =>
      let entries ← (← items fields "entries").mapM fun entry => do
        let (k, v) ← sizedPair .notPairs entry
        return (← expr fuel (← k), ← expr fuel (← v))
      return .dict m entries
    | some (.text "variable") =>
      let parts := match ← required fields "name" with
        | .list parts => parts
        | d => [d]
      let parts ← parts.mapM fun part => match part with
        | .text s => pure (NamePart.plain s)
        | d => NamePart.computed <$> expr fuel d
      return .var m (← scope fields) parts
    | some (.text "option") =>
      let optionScope := match Data.lookup? "scope" fields with
        | some d => if d.isTruthy then some (dropColons d.asText) else none
        | none => none
      return .option m optionScope (← required fields "name")
    | some (.text "register") => return .register m (← required fields "name").asText
    | some (.text "env") => return .environment m (← required fields "name").asText
    | some (.text "scope") => return .wholeScope m (← scope fields)
    | some (.text "binary") =>
      let op := (← required fields "op").asText
      match BinaryOp.ofText? op with
      | none => .error (.unknownBinary op)
      | some op => return .binary m op (← sub "left") (← sub "right")
    | some (.text "unary") =>
      let op := (← required fields "op").asText
      match UnaryOp.ofText? op with
      | none => .error (.unknownUnary op)
      | some op => return .unary m op (← sub "operand")
    | some (.text "ternary") =>
      return .ternary m (← sub "condition") (← sub "then") (← sub "else")
    | some (.text "falsy") => return .falsy m (← sub "left") (← sub "right")
    | some (.text "index") => return .index m (← sub "target") (← sub "index")
    | some (.text "slice") =>
      let target ← sub "target"
      let first ← (optional? fields "from").mapM (expr fuel)
      let last ← (optional? fields "to").mapM (expr fuel)
      return .slice m target first last
    | some (.text "call") =>
      return .call m (← scope fields) (← required fields "name") (← args "args")
    | some (.text "funcref_call") => return .funcrefCall m (← sub "target") (← args "args")
    | some (.text "lambda") => return .lambda m (← items fields "params") (← sub "body")
    | some (.text "lambda_call") =>
      match ← sub "lambda" with
      | .lambda lambdaMark params body =>
        return .lambdaCall m lambdaMark params body (← args "args")
      | _ => .error .notLambda
    | _ => .error (.unknownTag (tagText fields))
  | _ + 1, d => .error (.notExpression d.shown)

/-- Reads an expression of any depth. -/
def expression (d : Data) : Read Expr :=
  expr d.depth d

/-! ## Statements -/

/-- Sets the flag with a name. -/
def setFlag (flags : FunctionFlags) (name : String) : Read FunctionFlags :=
  match name with
  | "abort" => .ok { flags with abort := true }
  | "range" => .ok { flags with range := true }
  | "dict" => .ok { flags with dict := true }
  | "closure" => .ok { flags with closure := true }
  | _ => .error (.unknownFlag name)

/-- Reads what a function accepts and how it runs. -/
def signature (fields : Fields) : Read Signature := do
  let flags ← (← items fields "flags").foldlM (fun flags d => setFlag flags d.asText) {}
  let defaults ← (← items fields "defaults").mapM fun entry => do
    let (name, value) ← pair entry
    return (name, ← expression value)
  let params ← items fields "params"
  return { params, defaults, varargs := flag fields "varargs", flags }

/-- The depth of a lock. -/
def lockDepth (fields : Fields) : Read Int :=
  match Data.lookup? "depth" fields with
  | none => .ok 2
  | some (.int n) => .ok n
  | some (.bool b) => .ok (if b then 1 else 0)
  | some (.float x) =>
    match Decimal.Dyadic.ofFloat? x with
    | some d => .ok d.truncate
    | none => .error (.notWhole x.isNaN)
  | some (.text s) => Number.readInteger s
  | some d => .error (.notIntegral d.kind)

/-- Reads a statement. -/
def stmt : Nat → Data → Read Stmt
  | 0, d => .error (.notStatement d.shown)
  | fuel + 1, .map fields => do
    let m := mark fields
    let sub (name : String) : Read Expr := do expression (← subtree fields name)
    let args (name : String) : Read (List Expr) := do (← items fields name).mapM expression
    let block (name : String) : Read (List Stmt) := do (← items fields name).mapM (stmt fuel)
    let statements (d : Data) : Read (List Stmt) := do
      if d.isTruthy then (← elements d).mapM (stmt fuel) else return []
    match Data.lookup? "tag" fields with
    | some (.text "let") =>
      let op := ((Data.lookup? "op" fields).getD (.text "=")).asText
      match LetOp.ofText? op with
      | none => .error (.unknownAssignment op)
      | some op => return .assign m (← sub "target") op (← sub "value")
    | some (.text "unlet") => return .unlet m (← args "targets") (flag fields "bang")
    | some (.text "lockvar") => return .lock m (← args "targets") (← lockDepth fields)
    | some (.text "unlockvar") => return .unlock m (← args "targets") (← lockDepth fields)
    | some (.text "echo") => return .echo m .echo (← args "args")
    | some (.text "echomsg") => return .echo m .message (← args "args")
    | some (.text "echoerr") => return .echo m .error (← args "args")
    | some (.text "call") =>
      let range ← (optional? fields "range").mapM fun d => do
        let (first, last) ← sizedPair .notRange d
        return (← expression (← first), ← expression (← last))
      return .call m (← sub "expr") range
    | some (.text "execute") => return .execute m (← args "args")
    | some (.text "if") =>
      let branches ← (← items fields "branches").mapM fun d => do
        let (condition, body) ← pair d
        return Branch.mk (← expression condition) (← statements body)
      if branches.isEmpty then .error .noBranch
      else return .conditional m branches (← (optional? fields "else").mapM statements)
    | some (.text "while") => return .whileLoop m (← sub "condition") (← block "body")
    | some (.text "for") =>
      let iterable ← sub "iterable"
      let body ← block "body"
      match Data.lookup? "variables" fields with
      | some d => return .forUnpack m (← (← elements d).mapM expression) iterable body
      | none => return .forLoop m (← expression (← required fields "variable")) iterable body
    | some (.text "try") =>
      let clauses ← (← items fields "catches").mapM fun d => match d with
        | .map clause => do
          let body ← (← items clause "body").mapM (stmt fuel)
          return Clause.mk ((Data.lookup? "pattern" clause).getD .null) body
        | d => .error (.noMember d.kind "get")
      let body ← block "body"
      return .tryCatch m body clauses (← (optional? fields "finally").mapM statements)
    | some (.text "throw") => return .throw m (← sub "value")
    | some (.text "return") =>
      return .returning m (← (optional? fields "value").mapM expression)
    | some (.text "break") => return .breaking
    | some (.text "continue") => return .continuing
    | some (.text "finish") => return .finish
    | some (.text "function") =>
      let scope ← scope fields
      let name ← required fields "name"
      let signature ← signature fields
      return .function m scope name signature (flag fields "bang") (← block "body")
    | some (.text "dict_function") =>
      let target ← sub "target"
      let key ← required fields "key"
      let signature ← signature fields
      return .dictFunction m target key signature (flag fields "bang") (← block "body")
    | some (.text "delfunction") =>
      return .delFunction m (← scope fields) (← required fields "name") (flag fields "bang")
    | some (.text "command") =>
      let name ← required fields "name"
      let argument := match Data.lookup? "argument" fields with
        | some d => if d.isTruthy then d.asText else ""
        | none => ""
      return .command m name argument (flag fields "bang")
    | _ => .error (.unknownTag (tagText fields))
  | _ + 1, d => .error (.notStatement d.shown)

/-- Reads a statement of any depth. -/
def statement (d : Data) : Read Stmt :=
  stmt d.depth d

/-- Reads a whole script: a list of statements, a `script` node around them, or one statement. -/
def program (d : Data) : Read Program :=
  match d with
  | .map fields => do
    match d.field? "tag" with
    | some (.text "script") =>
      return { mark := mark fields, body := ← (← items fields "body").mapM statement }
    | _ => return { body := [← statement d] }
  | .list nodes => do return { body := ← nodes.mapM statement }
  | .null => .ok { body := [] }
  | other => .error (.notScript other.kind)

end Vimscript.Reader
