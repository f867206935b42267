import Vimscript.Data.Basic
import Vimscript.Syntax.Operator
import Vimscript.Syntax.Scope

/-!
# Expressions and statements

The trees a script consists of. Each node may carry the place in the source it came from; the place
is for diagnostics only and takes no part in the comparison of trees. Names and places are kept
as the data they were given as: nothing makes sure that a name is text before it is used.
-/

namespace Vimscript

/-- A name as it was given. -/
abbrev Name := Data

/-- A place in the source as it was given. The column may be null. -/
structure Mark where
  line : Data
  column : Data
deriving Repr

mutual

/-- An expression. -/
inductive Expr where
  | int (mark : Option Mark) (value : Int)
  /-- A Number written as a truth value; it is 1 or 0. -/
  | truth (mark : Option Mark) (value : Bool)
  | float (mark : Option Mark) (value : Float)
  | text (mark : Option Mark) (value : String)
  | list (mark : Option Mark) (items : List Expr)
  | dict (mark : Option Mark) (entries : List (Expr × Expr))
  | var (mark : Option Mark) (scope : Option Scope) (parts : List NamePart)
  | option (mark : Option Mark) (scope : Option String) (name : Name)
  | register (mark : Option Mark) (name : String)
  | environment (mark : Option Mark) (name : String)
  /-- A whole scope used as a Dictionary. -/
  | wholeScope (mark : Option Mark) (scope : Option Scope)
  | binary (mark : Option Mark) (op : BinaryOp) (left right : Expr)
  | unary (mark : Option Mark) (op : UnaryOp) (operand : Expr)
  | ternary (mark : Option Mark) (condition then_ else_ : Expr)
  /-- The left operand, or the right one where the left is falsy. -/
  | falsy (mark : Option Mark) (left right : Expr)
  | index (mark : Option Mark) (target key : Expr)
  | slice (mark : Option Mark) (target : Expr) (first last : Option Expr)
  /-- A call by name. -/
  | call (mark : Option Mark) (scope : Option Scope) (name : Name) (args : List Expr)
  /-- A call of a computed function. -/
  | funcrefCall (mark : Option Mark) (target : Expr) (args : List Expr)
  | lambda (mark : Option Mark) (params : List Name) (body : Expr)
  /-- A lambda called where it stands; the lambda has a place of its own. -/
  | lambdaCall (mark lambdaMark : Option Mark) (params : List Name) (body : Expr)
      (args : List Expr)

/-- A part of a variable's name: plain text, or an expression in braces. -/
inductive NamePart where
  | plain (text : String)
  | computed (expr : Expr)
  /-- Data that is neither; it cannot be evaluated. -/
  | misplaced (data : Data)

end

instance : Inhabited Expr := ⟨.int none 0⟩

/-- The attributes a function may be declared with. -/
structure FunctionFlags where
  abort : Bool := false
  range : Bool := false
  dict : Bool := false
  closure : Bool := false
deriving Repr, DecidableEq, Inhabited

/-- What a function accepts and how it runs. -/
structure Signature where
  params : List Name
  /-- Optional parameters with the expression that stands in for a missing argument. -/
  defaults : List (Name × Expr) := []
  varargs : Bool := false
  flags : FunctionFlags := {}

/-- The three ways to show values. -/
inductive EchoKind where
  | echo
  | message
  | error
deriving Repr, DecidableEq

mutual

/-- A statement. -/
inductive Stmt where
  | assign (mark : Option Mark) (target : Expr) (op : LetOp) (value : Expr)
  | unlet (mark : Option Mark) (targets : List Expr) (bang : Bool)
  | lock (mark : Option Mark) (targets : List Expr) (depth : Int)
  | unlock (mark : Option Mark) (targets : List Expr) (depth : Int)
  | echo (mark : Option Mark) (kind : EchoKind) (args : List Expr)
  | call (mark : Option Mark) (expr : Expr) (range : Option (Expr × Expr))
  | execute (mark : Option Mark) (args : List Expr)
  | conditional (mark : Option Mark) (branches : List Branch) (otherwise : Option (List Stmt))
  | whileLoop (mark : Option Mark) (condition : Expr) (body : List Stmt)
  | forLoop (mark : Option Mark) (target : Expr) (iterable : Expr) (body : List Stmt)
  | forUnpack (mark : Option Mark) (targets : List Expr) (iterable : Expr) (body : List Stmt)
  | tryCatch (mark : Option Mark) (body : List Stmt) (clauses : List Clause)
      (cleanup : Option (List Stmt))
  | throw (mark : Option Mark) (value : Expr)
  | returning (mark : Option Mark) (value : Option Expr)
  | breaking
  | continuing
  | finish
  | function (mark : Option Mark) (scope : Option Scope) (name : Name) (signature : Signature)
      (bang : Bool) (body : List Stmt)
  | dictFunction (mark : Option Mark) (target : Expr) (key : Name) (signature : Signature)
      (bang : Bool) (body : List Stmt)
  | delFunction (mark : Option Mark) (scope : Option Scope) (name : Name) (bang : Bool)
  /-- Any other command, which the host runs. -/
  | command (mark : Option Mark) (name : Name) (argument : String) (bang : Bool)

/-- A condition with the statements it guards. -/
inductive Branch where
  | mk (condition : Expr) (body : List Stmt)

/-- A `:catch` clause; without a pattern it catches everything. The pattern is kept as the data it
was given as. -/
inductive Clause where
  | mk (pattern : Data) (body : List Stmt)

end

instance : Inhabited Stmt := ⟨.breaking⟩

/-- A whole script as statements. -/
structure Program where
  mark : Option Mark := none
  body : List Stmt

namespace Branch

/-- The condition of a branch. -/
def condition : Branch → Expr
  | mk c _ => c

/-- The statements of a branch. -/
def body : Branch → List Stmt
  | mk _ b => b

end Branch

namespace Clause

/-- The pattern of a clause. -/
def pattern : Clause → Data
  | mk p _ => p

/-- The statements of a clause. -/
def body : Clause → List Stmt
  | mk _ b => b

end Clause

namespace NamePart

/-- A part as written, with a placeholder for a computed one. -/
def written : NamePart → String
  | plain s => s
  | computed _ | misplaced _ => "\x7b...\x7d"

/-- A whole name as a part. -/
def ofName : Name → NamePart
  | .text s => plain s
  | d => misplaced d

end NamePart

namespace Expr

/-- The place of an expression. -/
def mark : Expr → Option Mark
  | int m _ | truth m _ | float m _ | text m _ | list m _ | dict m _ | var m _ _
  | option m _ _ | register m _ | environment m _ | wholeScope m _ | binary m _ _ _ | unary m _ _
  | ternary m _ _ _ | falsy m _ _ | index m _ _ | slice m _ _ _ | call m _ _ _
  | funcrefCall m _ _ | lambda m _ _ | lambdaCall m _ _ _ _ => m

/-- The word for the form of an expression in diagnostics. -/
def form : Expr → String
  | int .. | truth .. => "IntLiteral"
  | float .. => "FloatLiteral"
  | text .. => "StringLiteral"
  | list .. => "ListExpr"
  | dict .. => "DictExpr"
  | var .. => "Variable"
  | option .. => "OptionExpr"
  | register .. => "RegisterExpr"
  | environment .. => "EnvExpr"
  | wholeScope .. => "ScopeExpr"
  | binary .. => "BinaryExpr"
  | unary .. => "UnaryExpr"
  | ternary .. => "TernaryExpr"
  | falsy .. => "FalsyExpr"
  | index .. => "IndexExpr"
  | slice .. => "SliceExpr"
  | call .. => "CallExpr"
  | funcrefCall .. => "FuncrefCallExpr"
  | lambda .. => "LambdaExpr"
  | lambdaCall .. => "LambdaCallExpr"

end Expr

namespace Stmt

/-- The place of a statement. -/
def mark : Stmt → Option Mark
  | assign m _ _ _ | unlet m _ _ | lock m _ _ | unlock m _ _ | echo m _ _ | call m _ _
  | execute m _ | conditional m _ _ | whileLoop m _ _ | forLoop m _ _ _ | forUnpack m _ _ _
  | tryCatch m _ _ _ | throw m _ | returning m _ | function m _ _ _ _ _
  | dictFunction m _ _ _ _ _ | delFunction m _ _ _ | command m _ _ _ => m
  | breaking | continuing | finish => none

/-- The word for the form of a statement in diagnostics. -/
def form : Stmt → String
  | assign .. => "Let"
  | unlet .. => "Unlet"
  | lock .. => "LockVar"
  | unlock .. => "UnlockVar"
  | echo _ .echo _ => "Echo"
  | echo _ .message _ => "EchoMsg"
  | echo _ .error _ => "EchoErr"
  | call .. => "CallStmt"
  | execute .. => "Execute"
  | conditional .. => "If"
  | whileLoop .. => "While"
  | forLoop .. => "For"
  | forUnpack .. => "ForUnpack"
  | tryCatch .. => "Try"
  | throw .. => "Throw"
  | returning .. => "ReturnStmt"
  | breaking | continuing | finish => "_SingletonStatement"
  | function .. => "FunctionDecl"
  | dictFunction .. => "DictFunctionDecl"
  | delFunction .. => "DelFunction"
  | command .. => "ExCommand"

end Stmt

/-- Where execution stands: the form of a node and its place. -/
structure Site where
  form : String
  mark : Option Mark
deriving Repr

/-- The line of a site, where it is known. -/
def Site.line? (s : Site) : Option Data :=
  s.mark.map (·.line)

/-- An expression as a site. -/
def Expr.site (e : Expr) : Site := ⟨e.form, e.mark⟩

/-- A statement as a site. -/
def Stmt.site (s : Stmt) : Site := ⟨s.form, s.mark⟩

end Vimscript
