import Vimscript.Syntax.Tree

/-!
# The parts of code

What an expression evaluates, and what a statement evaluates, executes and
declares, one level down. A condition on all the code of a script is stated
by going down these parts: `Expr.Takes` looks at the scopes that
expressions use as a whole, and `Stmt.Every` at all statements, those of
the functions they declare included.
-/

namespace Vimscript

/-- The expression a part of a name computes. -/
def NamePart.expr? : NamePart → Option Expr
  | .computed e => some e
  | .plain _ | .misplaced _ => none

/-- The expressions an expression evaluates. One that calls a lambda makes the lambda first. -/
def Expr.parts : Expr → List Expr
  | .list _ items => items
  | .dict _ entries => entries.flatMap fun e => [e.1, e.2]
  | .var _ _ names => names.filterMap NamePart.expr?
  | .binary _ _ left right => [left, right]
  | .unary _ _ operand => [operand]
  | .ternary _ condition then_ else_ => [condition, then_, else_]
  | .falsy _ left right => [left, right]
  | .index _ target key => [target, key]
  | .slice _ target first last => target :: (first.toList ++ last.toList)
  | .call _ _ _ args => args
  | .funcrefCall _ target args => target :: args
  | .lambda _ _ body => [body]
  | .lambdaCall _ mark params body args => .lambda mark params body :: args
  | .int .. | .truth .. | .float .. | .text .. | .option .. | .register .. | .environment ..
  | .wholeScope .. => []

namespace Stmt

/-- The expressions of a statement, its targets among them. -/
def exprs : Stmt → List Expr
  | .assign _ target _ value => [target, value]
  | .unlet _ targets _ | .lock _ targets _ | .unlock _ targets _ => targets
  | .echo _ _ args | .execute _ args => args
  | .call _ e range => e :: range.toList.flatMap fun lines => [lines.1, lines.2]
  | .conditional _ branches _ => branches.map Branch.condition
  | .whileLoop _ condition _ => [condition]
  | .forLoop _ target iterable _ => [target, iterable]
  | .forUnpack _ targets iterable _ => iterable :: targets
  | .throw _ value => [value]
  | .returning _ value => value.toList
  | .dictFunction _ target _ _ _ _ => [target]
  | .tryCatch .. | .breaking | .continuing | .finish | .function .. | .delFunction ..
  | .command .. => []

/-- The statements a statement executes. -/
def nested : Stmt → List Stmt
  | .conditional _ branches otherwise => branches.flatMap Branch.body ++ otherwise.getD []
  | .whileLoop _ _ body | .forLoop _ _ _ body | .forUnpack _ _ _ body => body
  | .tryCatch _ body clauses cleanup =>
    body ++ (clauses.flatMap Clause.body ++ cleanup.getD [])
  | _ => []

/-- The function a statement declares. -/
def declared? : Stmt → Option (Signature × List Stmt)
  | .function _ _ _ signature _ body | .dictFunction _ _ _ signature _ body =>
    some (signature, body)
  | _ => none

/-- What a statement assigns to. -/
def targets : Stmt → List Expr
  | .assign _ (.list _ targets) _ _ => targets
  | .assign _ target _ _ => [target]
  | .forLoop _ target _ _ => [target]
  | .forUnpack _ targets _ _ => targets
  | _ => []

end Stmt

/-! ## Conditions on code -/

/-- Every scope that an expression or a part of it uses as a whole satisfies a condition. -/
inductive Expr.Takes (W : Option Scope → Prop) : Expr → Prop
  | mk {e : Expr} : (∀ mark scope, e = .wholeScope mark scope → W scope) →
      (∀ x ∈ e.parts, Takes W x) → Takes W e

/-- Every statement satisfies a condition and so does every expression, in the functions that are
declared as well. -/
inductive Stmt.Every (S : Stmt → Prop) (E : Expr → Prop) : Stmt → Prop
  | mk {s : Stmt} : S s → (∀ e ∈ s.exprs, E e) → (∀ t ∈ s.nested, Every S E t) →
      (∀ signature body, s.declared? = some (signature, body) →
        ∀ d ∈ signature.defaults, E d.2) →
      (∀ signature body, s.declared? = some (signature, body) → ∀ t ∈ body, Every S E t) →
      Every S E s

theorem Expr.Takes.leaf {W : Option Scope → Prop} {e : Expr}
    (hwhole : ∀ mark scope, e ≠ .wholeScope mark scope) (hparts : e.parts = []) : e.Takes W := by
  refine .mk (fun mark scope he => absurd he (hwhole mark scope)) ?_
  rw [hparts]
  exact fun _ hx => nomatch hx

theorem Expr.Takes.part {W : Option Scope → Prop} {e x : Expr} (he : e.Takes W)
    (hx : x ∈ e.parts) : x.Takes W := by
  obtain ⟨-, hparts⟩ := he
  exact hparts x hx

theorem Expr.Takes.whole {W : Option Scope → Prop} {mark : Option Mark} {scope : Option Scope}
    (he : (Expr.wholeScope mark scope).Takes W) : W scope := by
  obtain ⟨hwhole, -⟩ := he
  exact hwhole mark scope rfl

namespace Stmt.Every

variable {S : Stmt → Prop} {E : Expr → Prop} {s t : Stmt} (hs : s.Every S E)
include hs

theorem here : S s := by
  obtain ⟨h, -, -, -, -⟩ := hs
  exact h

theorem expr {e : Expr} (he : e ∈ s.exprs) : E e := by
  obtain ⟨-, h, -, -, -⟩ := hs
  exact h e he

theorem nested (ht : t ∈ s.nested) : t.Every S E := by
  obtain ⟨-, -, h, -, -⟩ := hs
  exact h t ht

theorem declared {signature : Signature} {body : List Stmt}
    (hd : s.declared? = some (signature, body)) :
    (∀ d ∈ signature.defaults, E d.2) ∧ ∀ t ∈ body, t.Every S E := by
  obtain ⟨-, -, -, hdefaults, hbody⟩ := hs
  exact ⟨hdefaults signature body hd, hbody signature body hd⟩

end Stmt.Every

end Vimscript
