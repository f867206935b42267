import Vimscript.Syntax.Tree

/-!
# Comparing trees

Two trees are the same when they agree in everything but the places of their nodes. A Number
written as a truth value is the same as the Number it stands for.
-/

namespace Vimscript

/-- A truth value as a Number. -/
def truthNumber (b : Bool) : Int := if b then 1 else 0

mutual

/-- Whether two expressions agree apart from places. -/
def Expr.same : Expr → Expr → Bool
  | .int _ a, other => match other with
    | .int _ b => a == b
    | .truth _ b => a == truthNumber b
    | _ => false
  | .truth _ a, other => match other with
    | .int _ b => truthNumber a == b
    | .truth _ b => a == b
    | _ => false
  | .float _ a, other => match other with
    | .float _ b => a == b
    | _ => false
  | .text _ a, other => match other with
    | .text _ b => a == b
    | _ => false
  | .list _ a, other => match other with
    | .list _ b => sameExprs a b
    | _ => false
  | .dict _ a, other => match other with
    | .dict _ b => samePairs a b
    | _ => false
  | .var _ s a, other => match other with
    | .var _ t b => s == t && sameParts a b
    | _ => false
  | .option _ s a, other => match other with
    | .option _ t b => s == t && a.same b
    | _ => false
  | .register _ a, other => match other with
    | .register _ b => a == b
    | _ => false
  | .environment _ a, other => match other with
    | .environment _ b => a == b
    | _ => false
  | .wholeScope _ s, other => match other with
    | .wholeScope _ t => s == t
    | _ => false
  | .binary _ o a b, other => match other with
    | .binary _ p c d => o == p && a.same c && b.same d
    | _ => false
  | .unary _ o a, other => match other with
    | .unary _ p b => o == p && a.same b
    | _ => false
  | .ternary _ a b c, other => match other with
    | .ternary _ d e f => a.same d && b.same e && c.same f
    | _ => false
  | .falsy _ a b, other => match other with
    | .falsy _ c d => a.same c && b.same d
    | _ => false
  | .index _ a b, other => match other with
    | .index _ c d => a.same c && b.same d
    | _ => false
  | .slice _ a b c, other => match other with
    | .slice _ d e f => a.same d && sameOption b e && sameOption c f
    | _ => false
  | .call _ s n a, other => match other with
    | .call _ t m b => s == t && n.same m && sameExprs a b
    | _ => false
  | .funcrefCall _ t a, other => match other with
    | .funcrefCall _ u b => t.same u && sameExprs a b
    | _ => false
  | .lambda _ p a, other => match other with
    | .lambda _ q b => Data.sameAll p q && a.same b
    | _ => false
  | .lambdaCall _ _ p a x, other => match other with
    | .lambdaCall _ _ q b y => Data.sameAll p q && a.same b && sameExprs x y
    | _ => false

/-- Whether two lists of expressions agree. -/
def sameExprs : List Expr → List Expr → Bool
  | [], [] => true
  | a :: as, b :: bs => a.same b && sameExprs as bs
  | _, _ => false

/-- Whether two lists of pairs agree. -/
def samePairs : List (Expr × Expr) → List (Expr × Expr) → Bool
  | [], [] => true
  | (a, b) :: as, (c, d) :: bs => a.same c && b.same d && samePairs as bs
  | _, _ => false

/-- Whether the parts of two names agree. -/
def sameParts : List NamePart → List NamePart → Bool
  | [], [] => true
  | .plain a :: as, .plain b :: bs => a == b && sameParts as bs
  | .computed a :: as, .computed b :: bs => a.same b && sameParts as bs
  | .misplaced a :: as, .misplaced b :: bs => a.same b && sameParts as bs
  | _, _ => false

/-- Whether two expressions that may be missing agree. -/
def sameOption : Option Expr → Option Expr → Bool
  | none, none => true
  | some a, some b => a.same b
  | _, _ => false

end

/-- Whether two default lists agree. -/
def sameDefaults : List (Name × Expr) → List (Name × Expr) → Bool
  | [], [] => true
  | (n, a) :: as, (m, b) :: bs => n.same m && a.same b && sameDefaults as bs
  | _, _ => false

/-- Whether two signatures agree. -/
def Signature.same (a b : Signature) : Bool :=
  Data.sameAll a.params b.params && sameDefaults a.defaults b.defaults && a.varargs == b.varargs &&
    a.flags == b.flags

/-- Whether two ranges agree. -/
def sameRange : Option (Expr × Expr) → Option (Expr × Expr) → Bool
  | none, none => true
  | some (a, b), some (c, d) => a.same c && b.same d
  | _, _ => false

mutual

/-- Whether two statements agree apart from places. -/
def Stmt.same : Stmt → Stmt → Bool
  | .assign _ t o v, other => match other with
    | .assign _ u p w => t.same u && o == p && v.same w
    | _ => false
  | .unlet _ a x, other => match other with
    | .unlet _ b y => sameExprs a b && x == y
    | _ => false
  | .lock _ a d, other => match other with
    | .lock _ b e => sameExprs a b && d == e
    | _ => false
  | .unlock _ a d, other => match other with
    | .unlock _ b e => sameExprs a b && d == e
    | _ => false
  | .echo _ k a, other => match other with
    | .echo _ l b => k == l && sameExprs a b
    | _ => false
  | .call _ a r, other => match other with
    | .call _ b q => a.same b && sameRange r q
    | _ => false
  | .execute _ a, other => match other with
    | .execute _ b => sameExprs a b
    | _ => false
  | .conditional _ a x, other => match other with
    | .conditional _ b y => sameBranches a b && sameBody? x y
    | _ => false
  | .whileLoop _ c a, other => match other with
    | .whileLoop _ d b => c.same d && sameStmts a b
    | _ => false
  | .forLoop _ v i a, other => match other with
    | .forLoop _ w j b => v.same w && i.same j && sameStmts a b
    | _ => false
  | .forUnpack _ v i a, other => match other with
    | .forUnpack _ w j b => sameExprs v w && i.same j && sameStmts a b
    | _ => false
  | .tryCatch _ a c x, other => match other with
    | .tryCatch _ b d y => sameStmts a b && sameClauses c d && sameBody? x y
    | _ => false
  | .throw _ a, other => match other with
    | .throw _ b => a.same b
    | _ => false
  | .returning _ a, other => match other with
    | .returning _ b => sameOption a b
    | _ => false
  | .breaking, other => match other with
    | .breaking => true
    | _ => false
  | .continuing, other => match other with
    | .continuing => true
    | _ => false
  | .finish, other => match other with
    | .finish => true
    | _ => false
  | .function _ s n g x a, other => match other with
    | .function _ t m h y b => s == t && n.same m && g.same h && x == y && sameStmts a b
    | _ => false
  | .dictFunction _ t n g x a, other => match other with
    | .dictFunction _ u m h y b => t.same u && n.same m && g.same h && x == y && sameStmts a b
    | _ => false
  | .delFunction _ s n x, other => match other with
    | .delFunction _ t m y => s == t && n.same m && x == y
    | _ => false
  | .command _ n a x, other => match other with
    | .command _ m b y => n.same m && a == b && x == y
    | _ => false

/-- Whether two blocks agree. -/
def sameStmts : List Stmt → List Stmt → Bool
  | [], [] => true
  | a :: as, b :: bs => a.same b && sameStmts as bs
  | _, _ => false

/-- Whether two lists of branches agree. -/
def sameBranches : List Branch → List Branch → Bool
  | [], [] => true
  | .mk c a :: as, .mk d b :: bs => c.same d && sameStmts a b && sameBranches as bs
  | _, _ => false

/-- Whether two lists of clauses agree. -/
def sameClauses : List Clause → List Clause → Bool
  | [], [] => true
  | .mk p a :: as, .mk q b :: bs => p.same q && sameStmts a b && sameClauses as bs
  | _, _ => false

/-- Whether two blocks that may be missing agree. -/
def sameBody? : Option (List Stmt) → Option (List Stmt) → Bool
  | none, none => true
  | some a, some b => sameStmts a b
  | _, _ => false

end

/-- Whether two scripts agree apart from places. -/
def Program.same (a b : Program) : Bool := sameStmts a.body b.body

end Vimscript
