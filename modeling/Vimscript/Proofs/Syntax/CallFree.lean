import Mathlib.Logic.Relation
import Vimscript.Proofs.Syntax.Code

/-!
# Expressions without calls

Evaluating an expression evaluates its operands; a lambda has none, because
its body waits for a call. `Expr.Throughout` states a condition on an
expression and on everything that is evaluated along with it, and an
expression is `CallFree` if throughout it nothing is called.
-/

namespace Vimscript.Expr

/-- Whether an expression calls a function. -/
def isCall : Expr → Bool
  | .call .. | .funcrefCall .. | .lambdaCall .. => true
  | _ => false

/-- The expressions that are evaluated along with an expression. -/
def operands : Expr → List Expr
  | .lambda .. => []
  | e => e.parts

/-- An expression is evaluated along with another, or is that other one. -/
def Evaluates : Expr → Expr → Prop := Relation.ReflTransGen fun e x => x ∈ e.operands

/-- An expression and all that is evaluated along with it satisfy a condition. -/
inductive Throughout (P : Expr → Prop) : Expr → Prop
  | mk {e : Expr} : P e → (∀ x ∈ e.operands, Throughout P x) → Throughout P e

/-- Nothing is called when the expression is evaluated. -/
def CallFree : Expr → Prop := Throughout fun e => e.isCall = false

variable {P : Expr → Prop} {e x y : Expr}

theorem Throughout.leaf (he : P e) (hoperands : e.operands = []) : e.Throughout P :=
  ⟨he, by rw [hoperands]; exact nofun⟩

theorem Throughout.single (he : P e) (hoperands : e.operands = [x]) (hx : x.Throughout P) :
    e.Throughout P :=
  ⟨he, by rw [hoperands]; exact List.forall_mem_cons.mpr ⟨hx, nofun⟩⟩

theorem Throughout.pair (he : P e) (hoperands : e.operands = [x, y]) (hx : x.Throughout P)
    (hy : y.Throughout P) : e.Throughout P := by
  refine ⟨he, ?_⟩
  rw [hoperands]
  exact List.forall_mem_cons.mpr ⟨hx, List.forall_mem_cons.mpr ⟨hy, nofun⟩⟩

theorem Throughout.holds (he : e.Throughout P) (hx : e.Evaluates x) : P x := by
  have hall : x.Throughout P := by
    induction hx with
    | refl => exact he
    | tail _ hmem ih =>
        obtain ⟨-, hoperands⟩ := ih
        exact hoperands _ hmem
  obtain ⟨hx, -⟩ := hall
  exact hx

/-- A set of expressions that contains their operands, and no calls. -/
structure Evaluated (E : Expr → Prop) : Prop where
  operand {e x : Expr} : E e → x ∈ e.operands → E x
  noCall {e : Expr} : E e → e.isCall = false

theorem Evaluated.pair {E : Expr → Prop} (hE : Evaluated E) (he : E e)
    (hoperands : e.operands = [x, y]) : E x ∧ E y := by
  have hx : x ∈ e.operands := by rw [hoperands]; exact List.mem_cons_self
  have hy : y ∈ e.operands := by rw [hoperands]; exact List.mem_cons_of_mem _ List.mem_cons_self
  exact ⟨hE.operand he hx, hE.operand he hy⟩

theorem CallFree.evaluated (he : e.CallFree) : Evaluated e.Evaluates where
  operand hx hmem := hx.tail hmem
  noCall hx := he.holds hx

end Vimscript.Expr
