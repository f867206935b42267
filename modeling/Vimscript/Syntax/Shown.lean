import Vimscript.Decimal.Shortest
import Vimscript.Syntax.Tree
import Vimscript.Text.Quoted

/-!
# Trees in diagnostics

Every node is shown by the word for its form and its parts by name. Places are left out.
-/

namespace Vimscript

namespace Shown

/-- A node with named parts. -/
def node (form : String) (parts : List (String × String)) : String :=
  form ++ "(" ++ ", ".intercalate (parts.map fun (name, part) => name ++ "=" ++ part) ++ ")"

/-- A sequence; one with a single item keeps its comma. -/
def sequence : List String → String
  | [item] => "(" ++ item ++ ",)"
  | items => "(" ++ ", ".intercalate items ++ ")"

/-- A part that may be missing. -/
def optional : Option String → String
  | some s => s
  | none => "None"

/-- A truth value. -/
def flag (b : Bool) : String := if b then "True" else "False"

/-- A scope. -/
def scope (s : Option Scope) : String := optional (s.map fun x => Text.quoted x.text)

/-- The names of the flags that are set, in alphabetical order. -/
def flagNames (f : FunctionFlags) : List String :=
  [("abort", f.abort), ("closure", f.closure), ("dict", f.dict), ("range", f.range)].filterMap
    fun (name, isSet) => if isSet then some name else none

/-- A set of flags. -/
def flags (f : FunctionFlags) : String :=
  match flagNames f with
  | [] => "frozenset()"
  | names => "frozenset(\x7b" ++ ", ".intercalate (names.map Text.quoted) ++ "\x7d)"

end Shown

open Shown

mutual

/-- An expression as a diagnostic shows it. -/
def Expr.shown : Expr → String
  | .int _ n => node "IntLiteral" [("value", toString n)]
  | .truth _ b => node "IntLiteral" [("value", flag b)]
  | .float _ x => node "FloatLiteral" [("value", Decimal.shortest x)]
  | .text _ s => node "StringLiteral" [("value", Text.quoted s)]
  | .list _ items => node "ListExpr" [("items", sequence (shownExprs items))]
  | .dict _ entries => node "DictExpr" [("entries", sequence (shownPairs entries))]
  | .var _ s parts => node "Variable" [("scope", scope s), ("parts", sequence (shownParts parts))]
  | .option _ s name =>
    node "OptionExpr" [("scope", optional (s.map Text.quoted)), ("name", name.shown)]
  | .register _ name => node "RegisterExpr" [("name", Text.quoted name)]
  | .environment _ name => node "EnvExpr" [("name", Text.quoted name)]
  | .wholeScope _ s => node "ScopeExpr" [("scope", scope s)]
  | .binary _ op l r =>
    node "BinaryExpr" [("op", Text.quoted op.text), ("left", l.shown), ("right", r.shown)]
  | .unary _ op e => node "UnaryExpr" [("op", Text.quoted op.text), ("operand", e.shown)]
  | .ternary _ c t e =>
    node "TernaryExpr" [("condition", c.shown), ("then", t.shown), ("otherwise", e.shown)]
  | .falsy _ l r => node "FalsyExpr" [("left", l.shown), ("right", r.shown)]
  | .index _ t i => node "IndexExpr" [("target", t.shown), ("index", i.shown)]
  | .slice _ t a b =>
    node "SliceExpr" [("target", t.shown), ("start", shownOption a), ("end", shownOption b)]
  | .call _ s name args =>
    node "CallExpr"
      [("scope", scope s), ("name", name.shown), ("args", sequence (shownExprs args))]
  | .funcrefCall _ t args =>
    node "FuncrefCallExpr" [("target", t.shown), ("args", sequence (shownExprs args))]
  | .lambda _ params body =>
    node "LambdaExpr" [("params", sequence (params.map Data.shown)), ("body", body.shown)]
  | .lambdaCall _ _ params body args =>
    node "LambdaCallExpr"
      [("lambda_", node "LambdaExpr"
        [("params", sequence (params.map Data.shown)), ("body", body.shown)]),
       ("args", sequence (shownExprs args))]

/-- Expressions as a diagnostic shows them. -/
def shownExprs : List Expr → List String
  | [] => []
  | e :: rest => e.shown :: shownExprs rest

/-- Pairs of expressions as a diagnostic shows them. -/
def shownPairs : List (Expr × Expr) → List String
  | [] => []
  | (k, v) :: rest => sequence [k.shown, v.shown] :: shownPairs rest

/-- The parts of a name as a diagnostic shows them. -/
def shownParts : List NamePart → List String
  | [] => []
  | .plain s :: rest => Text.quoted s :: shownParts rest
  | .computed e :: rest => e.shown :: shownParts rest
  | .misplaced d :: rest => d.shown :: shownParts rest

/-- An expression that may be missing. -/
def shownOption : Option Expr → String
  | none => "None"
  | some e => e.shown

end

/-- The parts of a function that its signature holds, up to `flags`. -/
def Signature.shownParts (s : Signature) : List (String × String) :=
  [("params", sequence (s.params.map Data.shown)),
   ("defaults", sequence (s.defaults.map fun (name, e) => sequence [name.shown, e.shown])),
   ("varargs", flag s.varargs),
   ("flags", Shown.flags s.flags)]

mutual

/-- A statement as a diagnostic shows it. -/
def Stmt.shown : Stmt → String
  | .assign _ t op v =>
    node "Let" [("target", t.shown), ("op", Text.quoted op.text), ("value", v.shown)]
  | .unlet _ ts bang => node "Unlet" [("targets", sequence (shownExprs ts)), ("bang", flag bang)]
  | .lock _ ts d => node "LockVar" [("targets", sequence (shownExprs ts)), ("depth", toString d)]
  | .unlock _ ts d =>
    node "UnlockVar" [("targets", sequence (shownExprs ts)), ("depth", toString d)]
  | .echo m kind args => node (Stmt.echo m kind []).form [("args", sequence (shownExprs args))]
  | .call _ e range =>
    node "CallStmt"
      [("expr", e.shown),
       ("range", optional (range.map fun (a, b) => sequence [a.shown, b.shown]))]
  | .execute _ args => node "Execute" [("args", sequence (shownExprs args))]
  | .conditional _ branches otherwise =>
    node "If"
      [("branches", sequence (shownBranches branches)), ("else_body", shownBody? otherwise)]
  | .whileLoop _ c body =>
    node "While" [("condition", c.shown), ("body", sequence (shownStmts body))]
  | .forLoop _ v it body =>
    node "For"
      [("variable", v.shown), ("iterable", it.shown), ("body", sequence (shownStmts body))]
  | .forUnpack _ vs it body =>
    node "ForUnpack"
      [("variables", sequence (shownExprs vs)), ("iterable", it.shown),
       ("body", sequence (shownStmts body))]
  | .tryCatch _ body clauses cleanup =>
    node "Try"
      [("body", sequence (shownStmts body)), ("catches", sequence (shownClauses clauses)),
       ("finally_body", shownBody? cleanup)]
  | .throw _ v => node "Throw" [("value", v.shown)]
  | .returning _ v => node "ReturnStmt" [("value", shownOption v)]
  | .breaking => "BreakStmt<>"
  | .continuing => "ContinueStmt<>"
  | .finish => "FinishStmt<>"
  | .function _ s name sig bang body =>
    node "FunctionDecl"
      ([("scope", scope s), ("name", name.shown)] ++ sig.shownParts ++
        [("bang", flag bang), ("body", sequence (shownStmts body))])
  | .dictFunction _ t key sig bang body =>
    node "DictFunctionDecl"
      ([("target", t.shown), ("key", key.shown)] ++ sig.shownParts ++
        [("bang", flag bang), ("body", sequence (shownStmts body))])
  | .delFunction _ s name bang =>
    node "DelFunction" [("scope", scope s), ("name", name.shown), ("bang", flag bang)]
  | .command _ name argument bang =>
    node "ExCommand"
      [("name", name.shown), ("argument", Text.quoted argument), ("bang", flag bang)]

/-- Statements as a diagnostic shows them. -/
def shownStmts : List Stmt → List String
  | [] => []
  | s :: rest => s.shown :: shownStmts rest

/-- Branches as a diagnostic shows them. -/
def shownBranches : List Branch → List String
  | [] => []
  | .mk c body :: rest => sequence [c.shown, sequence (shownStmts body)] :: shownBranches rest

/-- Clauses as a diagnostic shows them. -/
def shownClauses : List Clause → List String
  | [] => []
  | .mk pattern body :: rest =>
    node "Catch"
      [("pattern", pattern.shown), ("body", sequence (shownStmts body))]
      :: shownClauses rest

/-- Statements that may be missing. -/
def shownBody? : Option (List Stmt) → String
  | none => "None"
  | some body => sequence (shownStmts body)

end

/-- A script as a diagnostic shows it. -/
def Program.shown (p : Program) : String :=
  node "ScriptBody" [("body", sequence (shownStmts p.body))]

end Vimscript
