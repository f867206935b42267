import Vimscript.Syntax.Reader

/-!
# The trees of code

Which data stands for which code. A node is a map with its tag and one
field for each of its parts, in any order. A part that a node does not
have is left out or null; so may be a list without items, a flag that is
not set and an empty argument. The operator of an assignment and the depth
of a lock may be left out where they are the usual ones.

`WrittenAs` leaves open what a tree says about places: `Placing.exact`
asks for the places of the node itself, `Placing.any` for none.
-/

namespace Vimscript

open Reader (Fields)

/-! ## Fields -/

/-- A part that a node does not have is left out or null. -/
def Omitted (fields : Fields) (name : String) : Prop :=
  Data.lookup? name fields = none ∨ Data.lookup? name fields = some .null

/-- A field is given and what it holds satisfies a condition. -/
def Given (fields : Fields) (name : String) (P : Data → Prop) : Prop :=
  ∃ d, Data.lookup? name fields = some d ∧ P d

/-- A field lists data that satisfies a condition; without items it may be omitted. -/
def Listed (fields : Fields) (name : String) (P : List Data → Prop) : Prop :=
  (Omitted fields name ∧ P []) ∨ Given fields name fun d => ∃ items, d = .list items ∧ P items

/-- A truth value; one that is false may be omitted. -/
def Flagged (fields : Fields) (name : String) (b : Bool) : Prop :=
  Given fields name (· = .bool b) ∨ (b = false ∧ Omitted fields name)

/-- Data that is text. -/
def Data.IsText (d : Data) : Prop := ∃ s, d = .text s

/-- A name, which is a text. -/
def Named (fields : Fields) (field : String) (name : Name) : Prop :=
  name.IsText ∧ Given fields field (· = name)

/-- A list of names. -/
def NamesListed (fields : Fields) (field : String) (names : List Name) : Prop :=
  (∀ n ∈ names, n.IsText) ∧ Listed fields field (· = names)

/-- The scope of a name, one of those that exist. -/
def Scoped (fields : Fields) : Option Scope → Prop
  | none => Omitted fields "scope"
  | some scope => scope ∈ Scope.known ∧ Given fields "scope" (· = .text scope.text)

/-- The scope of an option: a word that does not end with a colon. -/
def OptionScoped (fields : Fields) : Option String → Prop
  | none => Omitted fields "scope"
  | some scope =>
    scope ≠ "" ∧ scope.toList.getLast? ≠ some ':' ∧ Given fields "scope" (· = .text scope)

/-- What the fields of a node say about its place. -/
abbrev Placing := Fields → Option Mark → Prop

/-- A node has a place exactly where its line is given, and it has that line and column. -/
def Placing.exact : Placing
  | fields, none => Omitted fields "line"
  | fields, some place =>
    place.line ≠ .null ∧ Data.lookup? "line" fields = some place.line ∧
      place.column = (Data.lookup? "col" fields).getD .null

/-- A tree may have places anywhere. -/
def Placing.any : Placing := fun _ _ => True

/-- A map with a tag whose fields satisfy a condition. -/
def Tagged (tag : String) (P : Fields → Prop) (d : Data) : Prop :=
  ∃ fields, d = .map fields ∧ Data.lookup? "tag" fields = some (.text tag) ∧ P fields

/-- A node with a tag, a place and other fields. -/
def Node (placing : Placing) (tag : String) (mark : Option Mark) (P : Fields → Prop) :
    Data → Prop :=
  Tagged tag fun fields => placing fields mark ∧ P fields

/-! ## Expressions -/

mutual

/-- Data is a tree of an expression. -/
def Expr.WrittenAs (placing : Placing) : Expr → Data → Prop
  | .int m n => Node placing "int" m (Given · "value" (· = .int n))
  | .truth m b => Node placing "int" m (Given · "value" (· = .bool b))
  | .float m x => Node placing "float" m (Given · "value" (· = .float x))
  | .text m s => Node placing "string" m (Given · "value" (· = .text s))
  | .list m items => Node placing "list" m (Listed · "items" (exprsWritten placing items))
  | .dict m entries => Node placing "dict" m (Listed · "entries" (pairsWritten placing entries))
  | .var m scope parts => Node placing "variable" m fun f =>
      Scoped f scope ∧ Given f "name" fun d =>
        -- A name of one part need not be a list.
        (∃ items, d = .list items ∧ partsWritten placing parts items) ∨
          partsWritten placing parts [d]
  | .option m scope name => Node placing "option" m fun f =>
      OptionScoped f scope ∧ Named f "name" name
  | .register m name => Node placing "register" m (Given · "name" (· = .text name))
  | .environment m name => Node placing "env" m (Given · "name" (· = .text name))
  | .wholeScope m scope => Node placing "scope" m (Scoped · scope)
  | .binary m op left right => Node placing "binary" m fun f =>
      Given f "op" (· = .text op.text) ∧ Given f "left" (left.WrittenAs placing) ∧
        Given f "right" (right.WrittenAs placing)
  | .unary m op operand => Node placing "unary" m fun f =>
      Given f "op" (· = .text op.text) ∧ Given f "operand" (operand.WrittenAs placing)
  | .ternary m condition then_ else_ => Node placing "ternary" m fun f =>
      Given f "condition" (condition.WrittenAs placing) ∧
        Given f "then" (then_.WrittenAs placing) ∧ Given f "else" (else_.WrittenAs placing)
  | .falsy m left right => Node placing "falsy" m fun f =>
      Given f "left" (left.WrittenAs placing) ∧ Given f "right" (right.WrittenAs placing)
  | .index m target key => Node placing "index" m fun f =>
      Given f "target" (target.WrittenAs placing) ∧ Given f "index" (key.WrittenAs placing)
  | .slice m target first last => Node placing "slice" m fun f =>
      Given f "target" (target.WrittenAs placing) ∧ exprWritten? placing f "from" first ∧
        exprWritten? placing f "to" last
  | .call m scope name args => Node placing "call" m fun f =>
      Scoped f scope ∧ Named f "name" name ∧ Listed f "args" (exprsWritten placing args)
  | .funcrefCall m target args => Node placing "funcref_call" m fun f =>
      Given f "target" (target.WrittenAs placing) ∧ Listed f "args" (exprsWritten placing args)
  | .lambda m params body => Node placing "lambda" m fun f =>
      NamesListed f "params" params ∧ Given f "body" (body.WrittenAs placing)
  | .lambdaCall m lambdaMark params body args => Node placing "lambda_call" m fun f =>
      Given f "lambda" (Node placing "lambda" lambdaMark fun g =>
        NamesListed g "params" params ∧ Given g "body" (body.WrittenAs placing)) ∧
      Listed f "args" (exprsWritten placing args)

/-- Data is the trees of some expressions. -/
def exprsWritten (placing : Placing) : List Expr → List Data → Prop
  | [], [] => True
  | e :: es, d :: ds => e.WrittenAs placing d ∧ exprsWritten placing es ds
  | _, _ => False

/-- Data is the trees of some pairs. -/
def pairsWritten (placing : Placing) : List (Expr × Expr) → List Data → Prop
  | [], [] => True
  | (k, v) :: es, .list [dk, dv] :: ds =>
    k.WrittenAs placing dk ∧ v.WrittenAs placing dv ∧ pairsWritten placing es ds
  | _, _ => False

/-- Data is the parts of a name. -/
def partsWritten (placing : Placing) : List NamePart → List Data → Prop
  | [], [] => True
  | .plain s :: ps, d :: ds => d = .text s ∧ partsWritten placing ps ds
  | .computed e :: ps, d :: ds => e.WrittenAs placing d ∧ partsWritten placing ps ds
  | _, _ => False

/-- A field is the tree of an expression that may be missing. -/
def exprWritten? (placing : Placing) (fields : Fields) (name : String) : Option Expr → Prop
  | none => Omitted fields name
  | some e => Given fields name (e.WrittenAs placing)

end

/-! ## Statements -/

/-- The names of the flags that are set. -/
def FunctionFlags.names (flags : FunctionFlags) : List String :=
  (if flags.abort then ["abort"] else []) ++ (if flags.range then ["range"] else []) ++
    (if flags.dict then ["dict"] else []) ++ if flags.closure then ["closure"] else []

/-- Data is the names of the flags that are set, in any order. -/
def FunctionFlags.WrittenAs (flags : FunctionFlags) (items : List Data) : Prop :=
  ∃ names : List String, items = names.map .text ∧ ∀ n, n ∈ names ↔ n ∈ flags.names

/-- Data is the pairs of optional parameters with their defaults. -/
def defaultsWritten (placing : Placing) : List (Name × Expr) → List Data → Prop
  | [], [] => True
  | (n, e) :: es, .list [dn, de] :: ds =>
    n.IsText ∧ dn = n ∧ e.WrittenAs placing de ∧ defaultsWritten placing es ds
  | _, _ => False

/-- The fields that say what a function accepts and how it runs. -/
def Signature.WrittenIn (placing : Placing) (fields : Fields) (signature : Signature) : Prop :=
  NamesListed fields "params" signature.params ∧
    Listed fields "defaults" (defaultsWritten placing signature.defaults) ∧
    Flagged fields "varargs" signature.varargs ∧
    Listed fields "flags" signature.flags.WrittenAs

/-- The operator of an assignment, which may be left out if it is the plain one. -/
def Assigned (fields : Fields) (op : LetOp) : Prop :=
  Given fields "op" (· = .text op.text) ∨ (op = .set ∧ Data.lookup? "op" fields = none)

/-- The depth of a lock, which may be left out if it is two. -/
def Deep (fields : Fields) (depth : Int) : Prop :=
  Given fields "depth" (· = .int depth) ∨ (depth = 2 ∧ Data.lookup? "depth" fields = none)

/-- The lines a call is for. -/
def rangeWritten? (placing : Placing) (fields : Fields) : Option (Expr × Expr) → Prop
  | none => Omitted fields "range"
  | some (first, last) => Given fields "range" fun d =>
      ∃ x y, d = .list [x, y] ∧ first.WrittenAs placing x ∧ last.WrittenAs placing y

/-- The pattern of a clause: a text, or nothing. -/
def Patterned (fields : Fields) (pattern : Data) : Prop :=
  (pattern = .null ∧ Omitted fields "pattern") ∨ Named fields "pattern" pattern

/-- The argument of a command, which may be omitted if it is empty. -/
def Argued (fields : Fields) (argument : String) : Prop :=
  Given fields "argument" (· = .text argument) ∨ (argument = "" ∧ Omitted fields "argument")

/-- The tag of a statement that shows values. -/
def EchoKind.tag : EchoKind → String
  | .echo => "echo"
  | .message => "echomsg"
  | .error => "echoerr"

mutual

/-- Data is a tree of a statement. -/
def Stmt.WrittenAs (placing : Placing) : Stmt → Data → Prop
  | .assign m target op value => Node placing "let" m fun f =>
      Assigned f op ∧ Given f "target" (target.WrittenAs placing) ∧
        Given f "value" (value.WrittenAs placing)
  | .unlet m targets bang => Node placing "unlet" m fun f =>
      Listed f "targets" (exprsWritten placing targets) ∧ Flagged f "bang" bang
  | .lock m targets depth => Node placing "lockvar" m fun f =>
      Listed f "targets" (exprsWritten placing targets) ∧ Deep f depth
  | .unlock m targets depth => Node placing "unlockvar" m fun f =>
      Listed f "targets" (exprsWritten placing targets) ∧ Deep f depth
  | .echo m kind args => Node placing kind.tag m (Listed · "args" (exprsWritten placing args))
  | .call m e range => Node placing "call" m fun f =>
      Given f "expr" (e.WrittenAs placing) ∧ rangeWritten? placing f range
  | .execute m args => Node placing "execute" m (Listed · "args" (exprsWritten placing args))
  | .conditional m branches otherwise => Node placing "if" m fun f =>
      branches ≠ [] ∧ Listed f "branches" (branchesWritten placing branches) ∧
        blockWritten? placing f "else" otherwise
  | .whileLoop m condition body => Node placing "while" m fun f =>
      Given f "condition" (condition.WrittenAs placing) ∧
        Listed f "body" (stmtsWritten placing body)
  | .forLoop m target iterable body => Node placing "for" m fun f =>
      Given f "variable" (target.WrittenAs placing) ∧ Data.lookup? "variables" f = none ∧
        Given f "iterable" (iterable.WrittenAs placing) ∧
        Listed f "body" (stmtsWritten placing body)
  | .forUnpack m targets iterable body => Node placing "for" m fun f =>
      (Given f "variables" fun d => ∃ items, d = .list items ∧ exprsWritten placing targets items) ∧
        Given f "iterable" (iterable.WrittenAs placing) ∧
        Listed f "body" (stmtsWritten placing body)
  | .tryCatch m body clauses cleanup => Node placing "try" m fun f =>
      Listed f "body" (stmtsWritten placing body) ∧
        Listed f "catches" (clausesWritten placing clauses) ∧
        blockWritten? placing f "finally" cleanup
  | .throw m value => Node placing "throw" m (Given · "value" (value.WrittenAs placing))
  | .returning m value => Node placing "return" m (exprWritten? placing · "value" value)
  | .breaking => Tagged "break" fun _ => True
  | .continuing => Tagged "continue" fun _ => True
  | .finish => Tagged "finish" fun _ => True
  | .function m scope name signature bang body => Node placing "function" m fun f =>
      Scoped f scope ∧ Named f "name" name ∧ signature.WrittenIn placing f ∧
        Flagged f "bang" bang ∧ Listed f "body" (stmtsWritten placing body)
  | .dictFunction m target key signature bang body => Node placing "dict_function" m fun f =>
      Given f "target" (target.WrittenAs placing) ∧ Named f "key" key ∧
        signature.WrittenIn placing f ∧ Flagged f "bang" bang ∧
        Listed f "body" (stmtsWritten placing body)
  | .delFunction m scope name bang => Node placing "delfunction" m fun f =>
      Scoped f scope ∧ Named f "name" name ∧ Flagged f "bang" bang
  | .command m name argument bang => Node placing "command" m fun f =>
      Named f "name" name ∧ Argued f argument ∧ Flagged f "bang" bang

/-- Data is the trees of some statements. -/
def stmtsWritten (placing : Placing) : List Stmt → List Data → Prop
  | [], [] => True
  | s :: ss, d :: ds => s.WrittenAs placing d ∧ stmtsWritten placing ss ds
  | _, _ => False

/-- Data is the conditions of some branches with their statements. -/
def branchesWritten (placing : Placing) : List Branch → List Data → Prop
  | [], [] => True
  | .mk condition body :: bs, .list [d, .list items] :: ds =>
    condition.WrittenAs placing d ∧ stmtsWritten placing body items ∧ branchesWritten placing bs ds
  | _, _ => False

/-- Data is the patterns of some clauses with their statements. -/
def clausesWritten (placing : Placing) : List Clause → List Data → Prop
  | [], [] => True
  | .mk pattern body :: cs, .map fields :: ds =>
    Patterned fields pattern ∧ Listed fields "body" (stmtsWritten placing body) ∧
      clausesWritten placing cs ds
  | _, _ => False

/-- A field is the trees of statements that may be missing, which is not to have none. -/
def blockWritten? (placing : Placing) (fields : Fields) (name : String) :
    Option (List Stmt) → Prop
  | none => Omitted fields name
  | some body => Given fields name fun d =>
      ∃ items, d = .list items ∧ stmtsWritten placing body items

end

/-- Data is a tree of a script: a node around its statements, or just their list. -/
def Program.WrittenAs (placing : Placing) (program : Program) (d : Data) : Prop :=
  Node placing "script" program.mark (Listed · "body" (stmtsWritten placing program.body)) d ∨
    (placing [] program.mark ∧ ∃ items, d = .list items ∧
      stmtsWritten placing program.body items)

end Vimscript
