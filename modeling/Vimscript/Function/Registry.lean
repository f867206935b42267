import Vimscript.Function.Name
import Vimscript.Text.Class
import Vimscript.Variables.Context

/-!
# Declared functions

Every declaration made so far has a number and is never forgotten, so that a Funcref to a deleted
function can still say which one it was. Names lead to numbers: in one table for global
functions, one for those declared as an entry of a Dictionary, and one for each script.
-/

namespace Vimscript

/-- A function as it was declared. -/
structure Declaration where
  name : Name
  /-- The scope in which the name is looked up again; global functions have none. -/
  scope : Option Scope
  signature : Signature
  body : List Stmt
  script : Script
  /-- The frame a closure was declared in. -/
  parent : Option Frame := none
  isDeleted : Bool := false

namespace Declaration

/-- The name of a function as messages show it. -/
def displayName (d : Declaration) : String :=
  Vimscript.displayName d.scope d.name.asText

/-- The least and, without variable arguments, the greatest number of arguments. -/
def arity (d : Declaration) : Nat × Option Nat :=
  let required := d.signature.params.length
  (required,
    if d.signature.varargs then none else some (required + d.signature.defaults.length))

/-- A function with a signature and a body, declared where code runs. -/
def make (name : Name) (scope : Option Scope) (signature : Signature) (body : List Stmt)
    (c : Context) : Declaration :=
  { name, scope, signature, body, script := c.script,
    parent := if signature.flags.closure then c.frame else none }

end Declaration

/-- Numbers of declarations under the names of their functions. -/
abbrev FunctionTable := EntriesBy FunctionName Nat

/-- Which of the tables a name belongs to. -/
inductive FunctionSpace where
  | global
  | numbered
  | ofScript (id : Nat)
deriving Repr, DecidableEq

/-- All declarations and the names that lead to them. -/
structure Registry where
  declarations : Array Declaration := #[]
  globals : FunctionTable := []
  numbered : FunctionTable := []
  scripts : List (Nat × FunctionTable) := []
  /-- How many functions have been declared as an entry of a Dictionary. -/
  numberedCount : Nat := 0
  lambdaCount : Nat := 0

namespace Registry

/-! ## Tables -/

/-- The functions of a script. -/
def ofScript (r : Registry) (id : Nat) : FunctionTable :=
  ((r.scripts.find? fun e => e.1 == id).map (·.2)).getD []

/-- A table of names. -/
def table (r : Registry) : FunctionSpace → FunctionTable
  | .global => r.globals
  | .numbered => r.numbered
  | .ofScript id => r.ofScript id

/-- Replaces the table of a script. -/
def putScript (id : Nat) (t : FunctionTable) :
    List (Nat × FunctionTable) → List (Nat × FunctionTable)
  | [] => [(id, t)]
  | e :: rest => if e.1 = id then (id, t) :: rest else e :: putScript id t rest

/-- Replaces a table of names. -/
def setTable (r : Registry) (space : FunctionSpace) (t : FunctionTable) : Registry :=
  match space with
  | .global => { r with globals := t }
  | .numbered => { r with numbered := t }
  | .ofScript id => { r with scripts := putScript id t r.scripts }

/-- The table that declarations of a scope go to. -/
def spaceOf (scope : Option Scope) (script : Script) : FunctionSpace :=
  if scope = some .script then .ofScript script.id else .global

/-! ## Looking up -/

/-- The declaration with a number. -/
def declaration? (r : Registry) (id : Nat) : Option Declaration :=
  r.declarations[id]?

/-- The declaration with a number as something to call. -/
def declared (r : Registry) (id : Nat) : Callee :=
  .declared id (((r.declaration? id).map (·.name.asText)).getD "")

/-- The built-in function with a name. -/
def builtin? : FunctionName → Option Builtin
  | .text s => Builtin.ofName? s
  | _ => none

/-- What a name stands for in a script. Built-in functions cannot be hidden. -/
def lookup? (r : Registry) (scope : Option Scope) (name : FunctionName) (script : Script) :
    Option Callee :=
  let found (t : FunctionTable) : Option Callee := (Entries.find? name t).map r.declared
  match scope with
  | none =>
    match builtin? name with
    | some b => some (.builtin b)
    | none => found r.globals <|> found r.numbered <|> found (r.ofScript script.id)
  | some .global => found r.globals
  | some .script => found (r.ofScript script.id)
  | some _ => none

/-- Whether a scope may be written before the name of a function. -/
def isFunctionScope : Option Scope → Bool
  | none | some .global | some .script => true
  | some _ => false

/-- What a name, as it was given, stands for in a script. A scope without functions is not even
searched. -/
def find? (r : Registry) (scope : Option Scope) (name : Name) (script : Script) :
    Except Fault (Option Callee) := do
  if isFunctionScope scope then return r.lookup? scope (← FunctionName.ofData name) script
  else return none

/-- The name of a function as messages show it. -/
def displayName (r : Registry) : Callee → String
  | .builtin b => b.name
  | .declared id name => ((r.declaration? id).map (·.displayName)).getD name

/-- The least and greatest number of arguments of a function. -/
def arity (r : Registry) : Callee → Nat × Option Nat
  | .builtin b => (b.arity.1, some b.arity.2)
  | .declared id _ => ((r.declaration? id).map (·.arity)).getD (0, none)

/-- Whether a function was deleted. -/
def isDeleted (r : Registry) : Callee → Bool
  | .builtin _ => false
  | .declared id _ => (r.declaration? id).any (·.isDeleted)

/-- Whether a function needs a Dictionary to be called on. -/
def isDict (r : Registry) : Callee → Bool
  | .builtin _ => false
  | .declared id _ => (r.declaration? id).any (·.signature.flags.dict)

/-- The scope and script in which the name of a function is looked up again. A function of a script
is looked up in the script that declared it, wherever it is called. -/
def home (r : Registry) (callee : Callee) (script : Script) : Option Scope × Script :=
  match callee with
  | .builtin _ => (none, script)
  | .declared id _ =>
    match r.declaration? id with
    | some d => (d.scope, if d.scope = some .script then d.script else script)
    | none => (none, script)

/-- What a Funcref runs when it is called. One made by `function()` follows its name. -/
def resolve (r : Registry) (f : Funcref) (script : Script) : Except Cause Callee :=
  if r.isDeleted f.callee then .error (.functionDeleted f.callee.name)
  else
    match f.kind with
    | .lambda | .funcref => .ok f.callee
    | .function =>
      let (scope, script) := r.home f.callee script
      match r.lookup? scope (.text f.callee.name) script with
      | some callee => .ok callee
      | none => .error (.unknownFunction (r.displayName f.callee))

/-! ## Declaring and deleting -/

/-- Adds a declaration that no name leads to yet. -/
def add (r : Registry) (d : Declaration) : Nat × Registry :=
  (r.declarations.size, { r with declarations := r.declarations.push d })

/-- Adds a declaration under a name. -/
def addNamed (r : Registry) (space : FunctionSpace) (name : FunctionName) (d : Declaration) :
    Nat × Registry :=
  let (id, r) := r.add d
  (id, r.setTable space (Entries.put name id (r.table space)))

/-- A global function starts with a capital letter or belongs to an autoloaded file. -/
def isGlobalName (name : String) : Bool :=
  (name.toList.head?.any Text.isUpper) || name.contains '#'

/-- Refuses a name that no global function can have. -/
def checkGlobalName : Name → Result Unit
  | .text s => if isGlobalName s then .ok () else fail (.functionNameCase s)
  | .list items => faulty (.noMember (Data.list items).kind "isupper")
  | .map _ => faulty (.unhashable "slice")
  | d => faulty (.notSubscriptable d.kind)

/-- Declares a function, replacing another of its name only with a bang. -/
def declare (r : Registry) (scope : Option Scope) (name : Name) (signature : Signature)
    (bang : Bool) (body : List Stmt) (c : Context) : Result Registry := do
  let space := spaceOf scope c.script
  if !isFunctionScope scope then
    fail (.functionNameColon (Vimscript.displayName scope name.asText))
  if scope ≠ some .script then checkGlobalName name
  let key ← orFault (FunctionName.ofData name)
  if (Entries.find? key (r.table space)).isSome && !bang then fail (.functionExists name.asText)
  let scope := if scope = some .script then scope else none
  return (r.addNamed space key (.make name scope signature body c)).2

/-- Adds a finished declaration under its own name and scope. -/
def store (r : Registry) (d : Declaration) (replace : Bool) (script : Script) :
    Result Registry := do
  let space := spaceOf d.scope script
  let key ← orFault (FunctionName.ofData d.name)
  if (Entries.find? key (r.table space)).isSome && !replace then
    fail (.functionExists d.name.asText)
  return (r.addNamed space key d).2

/-- Declares a function under the next number. -/
def declareNumbered (r : Registry) (signature : Signature) (body : List Stmt) (c : Context) :
    Callee × Registry :=
  let name := toString (r.numberedCount + 1)
  let r := { r with numberedCount := r.numberedCount + 1 }
  let (id, r) := r.addNamed .numbered (.text name) (.make (.text name) none signature body c)
  (.declared id name, r)

/-- Marks a declaration as deleted and takes its name out of a table. -/
def deleteFrom (r : Registry) (space : FunctionSpace) (name : FunctionName) (id : Nat) : Registry :=
  let r := { r with declarations := r.declarations.modify id fun d => { d with isDeleted := true } }
  r.setTable space (Entries.remove name (r.table space))

/-- Deletes a function. A name without a scope may also be the number of one. -/
def delete (r : Registry) (scope : Option Scope) (name : Name) (bang : Bool) (script : Script) :
    Result Registry := do
  let space := spaceOf scope script
  let key ← orFault (FunctionName.ofData name)
  match Entries.find? key (r.table space) with
  | some id => return r.deleteFrom space key id
  | none =>
    match if scope.isNone then Entries.find? key r.numbered else none with
    | some id => return r.deleteFrom .numbered key id
    | none =>
      if bang then return r else fail (.noSuchFunction (Vimscript.displayName scope name.asText))

/-! ## Lambdas -/

/-- The statements of a lambda: its parameters become local variables, so that the expression can
name them without a scope. -/
def lambdaBody (params : List Name) (body : Expr) : List Stmt :=
  let toLocal (p : Name) : Stmt :=
    .assign none (.var none (some .locals) [.ofName p]) .set
      (.var none (some .arguments) [.ofName p])
  params.map toLocal ++ [.returning none (some body)]

/-- Declares a lambda, which is a closure that accepts further arguments. -/
def declareLambda (r : Registry) (params : List Name) (body : Expr) (c : Context) :
    Callee × Registry :=
  let name := "<lambda>" ++ toString (r.lambdaCount + 1)
  let r := { r with lambdaCount := r.lambdaCount + 1 }
  let signature : Signature := { params, varargs := true, flags := { closure := true } }
  let (id, r) := r.add (.make (.text name) none signature (lambdaBody params body) c)
  (.declared id name, r)

end Registry

end Vimscript
