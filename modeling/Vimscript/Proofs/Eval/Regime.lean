import Vimscript.Eval.Stmt
import Vimscript.Proofs.Eval.Keeping
import Vimscript.Proofs.Run.Policy
import Vimscript.Proofs.Syntax.Code

/-!
# Regimes

A policy says what operations on objects may do. Code does more: it reads
and writes variables, uses a scope as a Dictionary, declares functions and
calls them later, somewhere else. A `Regime` adds the conditions on code:
which expressions and statements there are, in which contexts they run, and
which functions get declared. `Regime.Lawful` lists what such conditions
have to imply. Those on syntax hand a condition on to the parts of a tree;
those on variables say that an operation of the store, in a context code
runs in, keeps the policy; and a declared function must, when it is called,
run in such a context again.

Whatever the regime, evaluating an expression and executing a statement are
safe. The proofs go through the forms of expressions and statements once
and for all.
-/

namespace Vimscript

open Run

/-! ## Conditions on code -/

/-- A name that is written without braces is the name it is written as. -/
def Spells (parts : List NamePart) (name : String) : Prop :=
  ∀ text, parts = [.plain text] → name = text

/-- The variables of the editor that the interpreter itself writes. -/
def maintained : List String := ["exception", "throwpoint", "errmsg", "key", "val"]

/-- Those of them that are written outside of `:catch` clauses as well. -/
def incidental : List String := ["errmsg", "key", "val"]

theorem maintained_of_incidental {name : String} (hname : name ∈ incidental) :
    name ∈ maintained :=
  List.mem_of_mem_drop (i := 2) hname

/-- The function a lambda is declared as. -/
def lambdaDeclaration (name : String) (params : List Vimscript.Name) (body : Expr) (c : Context) :
    Declaration :=
  .make (.text name) none { params, varargs := true, flags := { closure := true } }
    (Registry.lambdaBody params body) c

/-- A policy with conditions on the code that runs under it. -/
structure Regime where
  setup : Setup
  policy : Policy
  /-- The contexts in which code runs. -/
  Runs : Context → Prop
  /-- The expressions that are evaluated. -/
  Evals : Expr → Prop
  /-- The statements that are executed in a context. -/
  Does : Context → Stmt → Prop
  /-- What is assigned to in a context. -/
  Assigns : Context → Expr → Prop
  /-- Whether code locks, and whether it unlocks. -/
  Locks : Bool → Prop
  /-- The functions that are declared. -/
  Allows : Declaration → Prop

/-- The policy holds, and all declared functions are allowed. -/
def Regime.Good (G : Regime) (s : State) : Prop :=
  G.policy.Holds s.heap ∧ ∀ d ∈ s.registry.declarations, G.Allows d

/-- What the conditions on code have to imply. -/
structure Regime.Lawful (G : Regime) : Prop where
  policy : G.policy.Lawful
  -- the parts of code
  part {e x : Expr} : G.Evals e → x ∈ e.parts → G.Evals x
  expr {c : Context} {s : Stmt} {e : Expr} : G.Does c s → e ∈ s.exprs → G.Evals e
  nested {c : Context} {s t : Stmt} : G.Does c s → t ∈ s.nested → G.Does c t
  target {c : Context} {s : Stmt} {e : Expr} : G.Does c s → e ∈ s.targets → G.Assigns c e
  lock {c : Context} {mark : Option Mark} {targets : List Expr} {depth : Int} :
    G.Does c (.lock mark targets depth) → G.Locks true
  unlock {c : Context} {mark : Option Mark} {targets : List Expr} {depth : Int} :
    G.Does c (.unlock mark targets depth) → G.Locks false
  -- code that is read while code runs
  statements {c : Context} {mark : Option Mark} {args : List Expr} {parser : Parser}
    {text : String} {tree : Data} {program : Program} : G.Runs c → G.Does c (.execute mark args) →
    G.setup.parser = some parser → parser.statements text = .ok tree →
    Reader.program tree = .ok program → ∀ s ∈ program.body, G.Does c s
  expression {parser : Parser} {text : String} {tree : Data} {e : Expr} :
    G.setup.parser = some parser → parser.expression text = .ok tree →
    Reader.expression tree = .ok e → G.Evals e
  -- variables
  whole {c : Context} {mark : Option Mark} {scope : Option Scope} : G.Runs c →
    G.Evals (.wholeScope mark scope) →
    Op.Safe G.policy G.policy.Given (G.setup.spaces.space scope c)
  set {c : Context} {mark : Option Mark} {scope : Option Scope} {parts : List NamePart}
    {name : String} {value : Ref} : G.Runs c → G.Assigns c (.var mark scope parts) →
    Spells parts name → G.policy.Given value →
    Op.Safe G.policy (fun _ => True) (G.setup.spaces.set scope name value c)
  unlet {c : Context} (scope : Option Scope) (name : String) (bang : Bool) : G.Runs c →
    Op.Safe G.policy (fun _ => True) (G.setup.spaces.unlet scope name bang c)
  setLock {c : Context} {isLocked : Bool} (scope : Option Scope) (name : String) (depth : Int) :
    G.Runs c → G.Locks isLocked →
    Op.Safe G.policy (fun _ => True) (G.setup.spaces.setLock isLocked scope name depth c)
  lockTo {h : Heap} {isLocked : Bool} {r : Ref} (depth : Int) : G.Locks isLocked →
    G.policy.Holds h → G.policy.Given r → G.policy.Holds (h.lockTo isLocked depth r)
  setVim {name : String} {value : Ref} : name ∈ incidental → G.policy.Given value →
    Op.Safe G.policy (fun _ => True) (G.setup.spaces.setVim name value)
  dropVim {h : Heap} {name : String} : name ∈ incidental → G.policy.Holds h →
    G.policy.Holds (h.setValue G.setup.spaces.vim (.dict ((h.table G.setup.spaces.vim).erase name)))
  -- functions
  lambda {c : Context} {mark : Option Mark} {params : List Vimscript.Name} {body : Expr}
    (name : String) : G.Runs c → G.Evals (.lambda mark params body) →
    G.Allows (lambdaDeclaration name params body c)
  declared {c : Context} {s : Stmt} {signature : Signature} {body : List Stmt}
    (name : Vimscript.Name) (scope : Option Scope) : G.Runs c → G.Does c s →
    s.declared? = some (signature, body) → G.Allows (.make name scope signature body c)
  deleted {d : Declaration} : G.Allows d → G.Allows { d with isDeleted := true }
  enter {d : Declaration} {own : Level} (self : Option Ref) : G.Allows d →
    (∀ r ∈ [own.locals, own.arguments], G.policy.Given r ∧ G.policy.Free r) →
    G.Runs ⟨d.script, some (.enter own d.signature.flags.closure d.parent self)⟩
  body {d : Declaration} {own : Level} {self : Option Ref} {s : Stmt} : G.Allows d →
    s ∈ d.body → G.Does ⟨d.script, some (.enter own d.signature.flags.closure d.parent self)⟩ s
  default {d : Declaration} {p : Vimscript.Name × Expr} : G.Allows d →
    p ∈ d.signature.defaults → G.Evals p.2

/-- A signal that hands out nothing but given objects. -/
def Policy.Signals (P : Policy) : Signal → Prop
  | .returning value => P.Given value
  | _ => True

/-- The functions of a registry are allowed. -/
def Regime.Registers (G : Regime) (r : Registry) : Prop := ∀ d ∈ r.declarations, G.Allows d

/-- A computation of a regime keeps it, and its results satisfy a predicate. -/
abbrev Regime.Safe (G : Regime) {α : Type} (U : α → Prop) (x : Run α) : Prop :=
  Run.Safe G.setup G.Good U x

/-- A clause is safe together with what is written before and after it, when its body is. -/
def Regime.Handles (G : Regime) (M : Machine) : Prop :=
  ∀ (e : ScriptError) (c : Context) (body : List Stmt), G.Runs c → (∀ s ∈ body, G.Does c s) →
    G.Safe G.policy.Signals (execAll M c body) →
    G.Safe (Gives G.policy.Signals) (handle e (execAll M c body) c)

/-- The nested steps of a machine are safe, and so are the clauses that are executed with it. -/
structure Regime.Drives (G : Regime) (M : Machine) : Prop where
  invoke {call : Call} : G.Runs call.context → (∀ a ∈ call.args, G.policy.Given a) →
    (∀ d, call.self = some d → G.policy.Given d) → G.Safe G.policy.Given (M.invoke call)
  evaluate {e : Expr} {c : Context} : G.Runs c → G.Evals e →
    G.Safe G.policy.Given (M.evaluate e c)
  execute {body : List Stmt} {c : Context} : G.Runs c → (∀ s ∈ body, G.Does c s) →
    G.Safe G.policy.Signals (M.execute body c)
  handles : G.Handles M

variable {G : Regime} (hG : G.Lawful) {M : Machine} (hM : G.Drives M)

omit hG hM in
theorem Regime.guards (G : Regime) : Guards G.policy G.Good where
  holds hs := hs.1
  heap hs hh := ⟨hh, hs.2⟩
  same := by
    rintro s t hs hheap hregistry
    rw [Good, hheap, hregistry]
    exact hs

theorem Regime.halted_drives {G : Regime} (handles : G.Handles Machine.halted) :
    G.Drives Machine.halted where
  invoke _ _ _ := .throw _
  evaluate _ _ := .throw _
  execute _ _ := .throw _
  handles

include hG

/-! ## Functions -/

omit hG in
theorem registry_safe : G.Safe G.Registers registry := by
  refine fun s hs => ⟨hs, ?_⟩
  rintro r ⟨⟩
  exact hs.2

omit hG in
theorem setRegistry_safe {r : Registry} (hr : G.Registers r) :
    G.Safe (fun _ => True) (setRegistry r) :=
  fun _ hs => ⟨⟨hs.1, hr⟩, fun _ _ => trivial⟩

omit hG in
theorem Regime.Registers.addNamed {r : Registry} {d : Declaration} (hr : G.Registers r)
    (hd : G.Allows d) (space : FunctionSpace) (name : FunctionName) :
    G.Registers (r.addNamed space name d).2 := by
  have hdeclarations : (r.addNamed space name d).2.declarations = r.declarations.push d := by
    unfold Registry.addNamed Registry.add Registry.setTable
    cases space <;> rfl
  intro d' hd'
  rw [hdeclarations, Array.mem_push] at hd'
  rcases hd' with hd' | rfl
  · exact hr d' hd'
  · exact hd

theorem Regime.Registers.deleteFrom {r : Registry} (hr : G.Registers r) (space : FunctionSpace)
    (name : FunctionName) (id : Nat) : G.Registers (r.deleteFrom space name id) := by
  have hdeclarations : (r.deleteFrom space name id).declarations =
      r.declarations.modify id fun d => { d with isDeleted := true } := by
    unfold Registry.deleteFrom Registry.setTable
    cases space <;> rfl
  intro d hd
  rw [hdeclarations] at hd
  obtain ⟨i, hi, rfl⟩ := Array.mem_iff_getElem.mp hd
  rw [Array.getElem_modify]
  have hmem := hr _ (Array.getElem_mem (by simpa using hi))
  split
  · exact hG.deleted hmem
  · exact hmem

theorem makeLambda_safe {params : List Vimscript.Name} {body : Expr} {c : Context}
    {mark : Option Mark} (hc : G.Runs c) (he : G.Evals (.lambda mark params body)) :
    G.Safe (fun f => G.policy.Carries (.funcref f)) (makeLambda params body c) := by
  have hdeclare : G.Safe (fun _ => True) (modifyGet fun s =>
      ((s.registry.declareLambda params body c).1,
        { s with registry := (s.registry.declareLambda params body c).2 }) : Run Callee) := by
    refine fun s hs => ⟨⟨hs.1, fun d hd => ?_⟩, fun _ _ => trivial⟩
    rcases Array.mem_push.mp hd with hd | rfl
    · exact hs.2 d hd
    · exact hG.lambda _ hc he
  refine .bind hdeclare fun callee _ => .bind (.op G.guards (Op.list_safe hG.policy (by simp)))
    fun arguments harguments => .pure ?_
  exact Policy.carries_funcref.mpr ⟨harguments, by rintro r ⟨⟩⟩

theorem toFuncref_safe (r : Ref) :
    G.Safe (fun f => G.policy.Carries (.funcref f)) (toFuncref r) := by
  refine .value G.guards hG.policy fun v hv => ?_
  split
  · exact .pure hv
  · exact .fail _

include hM

theorem callFuncref_safe {f : Funcref} {args : List Ref} {c : Context}
    (range : Option (Int × Int)) (hf : G.policy.Carries (.funcref f))
    (hargs : ∀ a ∈ args, G.policy.Given a) (hc : G.Runs c) :
    G.Safe G.policy.Given (callFuncref M f args range c) := by
  refine .bind registry_safe fun r _ => .bind (.orFail _) fun callee _ => .get fun s hs => ?_
  have hcaptured := hG.policy.items (G.guards.holds hs) f.arguments
  refine hM.invoke hc (List.forall_mem_append.mpr ⟨hcaptured, hargs⟩) ?_ s hs
  exact (Policy.carries_funcref.mp hf).2

theorem callByName_safe (scope : Option Scope) (name : Vimscript.Name) {args : List Ref}
    {self : Option Ref} (range : Option (Int × Int)) {c : Context}
    (hargs : ∀ a ∈ args, G.policy.Given a) (hself : ∀ d, self = some d → G.policy.Given d)
    (hc : G.Runs c) : G.Safe G.policy.Given (callByName M scope name args self range c) := by
  refine .bind registry_safe fun r _ => .bind (.orFault _) fun found _ => ?_
  cases found with
  | some callee => exact .bind (trace_safe G.guards _) fun _ _ => hM.invoke hc hargs hself
  | none =>
      refine .spaces (.bind (.op G.guards (Op.get?_safe hG.policy _ _ _ c)) fun held hheld => ?_)
      cases held with
      | none => exact .fail _
      | some held =>
          refine .value G.guards hG.policy fun v hv => ?_
          split
          · rename_i f
            obtain ⟨harguments, hbound⟩ := Policy.carries_funcref.mp hv
            refine callFuncref_safe hG hM range (Policy.carries_funcref.mpr ⟨harguments, ?_⟩)
              hargs hc
            intro d hd
            cases self with
            | none => exact hbound d hd
            | some self => exact hself d hd
          · exact .fail _

/-! ## Expressions -/

omit hG hM in
mutual

theorem evalExpr_safe (hG : G.Lawful) (hM : G.Drives M) {c : Context} (hc : G.Runs c) :
    ∀ e : Expr, G.Evals e → G.Safe G.policy.Given (evalExpr M e c)
  | .int _ n, _ => by
      rw [evalExpr]; exact .op G.guards (Op.number_safe hG.policy n)
  | .truth _ b, _ => by
      rw [evalExpr]; exact .op G.guards (Op.truth_safe hG.policy b)
  | .float _ x, _ => by
      rw [evalExpr]; exact .op G.guards (Op.alloc_safe hG.policy (Policy.carries_float x))
  | .text _ s, _ => by
      rw [evalExpr]; exact .op G.guards (Op.string_safe hG.policy s)
  | .list _ items, he => by
      rw [evalExpr]
      refine .bind (evalAll_safe hG hM hc items fun x hx => hG.part he hx) fun values hvalues => ?_
      exact .op G.guards (Op.list_safe hG.policy hvalues)
  | .dict _ entries, he => by
      rw [evalExpr]
      have hentries : ∀ p ∈ entries, G.Evals p.1 ∧ G.Evals p.2 := by
        intro p hp
        refine ⟨hG.part he ?_, hG.part he ?_⟩
        · exact List.mem_flatMap.mpr ⟨p, hp, by simp⟩
        · exact List.mem_flatMap.mpr ⟨p, hp, by simp⟩
      refine .bind (evalEntries_safe hG hM hc [] entries hentries (by simp)) fun made hmade => ?_
      exact .op G.guards (Op.alloc_safe hG.policy (Policy.carries_dict.mpr hmade))
  | .var _ scope parts, he => by
      rw [evalExpr]
      refine .spaces (.bind (evalName_safe hG hM hc parts fun x hx => hG.part he hx)
        fun name _ => ?_)
      exact .op G.guards (Op.getOrFail_safe hG.policy _ scope name c)
  | .option _ _ name, _ => by
      rw [evalExpr]
      refine .host fun h => .bind (.orFault _) fun found _ => ?_
      split
      · exact .op G.guards (Op.ofData_safe hG.policy _)
      · exact .fail _
  | .register _ name, _ => by
      rw [evalExpr]
      refine .ite (.host fun h => ?_) (.fail _)
      exact .op G.guards (Op.string_safe hG.policy _)
  | .environment _ name, _ => by
      rw [evalExpr]
      exact .host fun h => .op G.guards (Op.string_safe hG.policy _)
  | .wholeScope _ scope, he => by
      rw [evalExpr]
      exact .spaces (.op G.guards (hG.whole hc he))
  | .binary _ .both left right, he => by
      rw [evalExpr]
      refine .bind (evalExpr_safe hG hM hc left (hG.part he (by simp [Expr.parts]))) fun a _ =>
        .bind (.reads G.guards (Op.toBool_reads a)) fun _ _ => .ite ?_ ?_
      · refine .bind (evalExpr_safe hG hM hc right (hG.part he (by simp [Expr.parts]))) fun b _ =>
          .bind (.reads G.guards (Op.toBool_reads b)) fun _ _ => ?_
        exact .op G.guards (Op.truth_safe hG.policy _)
      · exact .op G.guards (Op.truth_safe hG.policy _)
  | .binary _ .either left right, he => by
      rw [evalExpr]
      refine .bind (evalExpr_safe hG hM hc left (hG.part he (by simp [Expr.parts]))) fun a _ =>
        .bind (.reads G.guards (Op.toBool_reads a)) fun _ _ => .ite ?_ ?_
      · exact .op G.guards (Op.truth_safe hG.policy _)
      · refine .bind (evalExpr_safe hG hM hc right (hG.part he (by simp [Expr.parts]))) fun b _ =>
          .bind (.reads G.guards (Op.toBool_reads b)) fun _ _ => ?_
        exact .op G.guards (Op.truth_safe hG.policy _)
  | .binary _ (.arith op) left right, he => by
      rw [evalExpr]
      · refine .bind (evalExpr_safe hG hM hc left (hG.part he (by simp [Expr.parts]))) fun a _ =>
          .bind (evalExpr_safe hG hM hc right (hG.part he (by simp [Expr.parts]))) fun b _ =>
            .read ?_
        exact .op G.guards (Op.binary_safe hG.policy _ _ a b)
      · exact nofun
      · exact nofun
  | .binary _ (.compare relation rule) left right, he => by
      rw [evalExpr]
      · refine .bind (evalExpr_safe hG hM hc left (hG.part he (by simp [Expr.parts]))) fun a _ =>
          .bind (evalExpr_safe hG hM hc right (hG.part he (by simp [Expr.parts]))) fun b _ =>
            .read ?_
        exact .op G.guards (Op.binary_safe hG.policy _ _ a b)
      · exact nofun
      · exact nofun
  | .unary _ op operand, he => by
      rw [evalExpr]
      refine .bind (evalExpr_safe hG hM hc operand (hG.part he (by simp [Expr.parts])))
        fun a ha => ?_
      exact .op G.guards (Op.unary_safe hG.policy op ha)
  | .ternary _ condition then_ else_, he => by
      rw [evalExpr]
      refine .bind (evalExpr_safe hG hM hc condition (hG.part he (by simp [Expr.parts]))) fun a _ =>
        .bind (.reads G.guards (Op.toBool_reads a)) fun _ _ => .ite ?_ ?_
      · exact evalExpr_safe hG hM hc then_ (hG.part he (by simp [Expr.parts]))
      · exact evalExpr_safe hG hM hc else_ (hG.part he (by simp [Expr.parts]))
  | .falsy _ left right, he => by
      rw [evalExpr]
      refine .bind (evalExpr_safe hG hM hc left (hG.part he (by simp [Expr.parts]))) fun a ha =>
        .bind (.reads G.guards (Op.value_reads a)) fun _ _ => .bind (.result _) fun _ _ =>
          .ite ?_ (.pure ha)
      exact evalExpr_safe hG hM hc right (hG.part he (by simp [Expr.parts]))
  | .index _ target key, he => by
      rw [evalExpr]
      refine .bind (evalExpr_safe hG hM hc target (hG.part he (by simp [Expr.parts]))) fun t ht =>
        .bind (evalExpr_safe hG hM hc key (hG.part he (by simp [Expr.parts]))) fun k _ => ?_
      exact .op G.guards (Op.index_safe hG.policy k ht)
  | .slice _ target first last, he => by
      rw [evalExpr]
      refine .bind (evalExpr_safe hG hM hc target (hG.part he (by simp [Expr.parts]))) fun t _ =>
        .bind (evalOption_safe hG hM hc first fun x hx => hG.part he (by simp [Expr.parts, hx]))
          fun a _ =>
        .bind (evalOption_safe hG hM hc last fun x hx => hG.part he (by simp [Expr.parts, hx]))
          fun b _ => ?_
      exact .op G.guards (Op.slice_safe hG.policy t a b)
  | .call _ scope name args, he => by
      rw [evalExpr]
      refine .bind (evalAll_safe hG hM hc args fun x hx => hG.part he hx) fun values hvalues => ?_
      exact callByName_safe hG hM scope name none hvalues (by rintro d ⟨⟩) hc
  | .funcrefCall _ target args, he => by
      rw [evalExpr]
      refine .bind (evalExpr_safe hG hM hc target (hG.part he (by simp [Expr.parts]))) fun t _ =>
        .bind (toFuncref_safe hG t) fun f hf => ?_
      refine .bind (evalAll_safe hG hM hc args fun x hx => hG.part he (by simp [Expr.parts, hx]))
        fun values hvalues => ?_
      exact callFuncref_safe hG hM none hf hvalues hc
  | .lambda _ params body, he => by
      rw [evalExpr]
      exact .bind (makeLambda_safe hG hc he) fun f hf => .op G.guards (Op.alloc_safe hG.policy hf)
  | .lambdaCall _ mark params body args, he => by
      rw [evalExpr]
      have hlambda : G.Evals (.lambda mark params body) := hG.part he (by simp [Expr.parts])
      refine .bind (makeLambda_safe hG hc hlambda) fun f hf => ?_
      refine .bind (evalAll_safe hG hM hc args fun x hx => hG.part he (by simp [Expr.parts, hx]))
        fun values hvalues => ?_
      exact callFuncref_safe hG hM none hf hvalues hc

theorem evalAll_safe (hG : G.Lawful) (hM : G.Drives M) {c : Context} (hc : G.Runs c) :
    ∀ items : List Expr, (∀ e ∈ items, G.Evals e) →
      G.Safe (fun values => ∀ r ∈ values, G.policy.Given r) (evalAll M items c)
  | [], _ => by rw [evalAll]; exact .pure (by simp)
  | e :: rest, he => by
      rw [evalAll]
      obtain ⟨hfirst, hrest⟩ := List.forall_mem_cons.mp he
      refine .bind (evalExpr_safe hG hM hc e hfirst) fun r hr =>
        .bind (evalAll_safe hG hM hc rest hrest) fun values hvalues => .pure ?_
      exact List.forall_mem_cons.mpr ⟨hr, hvalues⟩

theorem evalOption_safe (hG : G.Lawful) (hM : G.Drives M) {c : Context} (hc : G.Runs c) :
    ∀ e : Option Expr, (∀ x, e = some x → G.Evals x) →
      G.Safe (fun value => ∀ r, value = some r → G.policy.Given r) (evalOption M e c)
  | none, _ => by rw [evalOption]; exact .pure (by rintro r ⟨⟩)
  | some e, he => by
      rw [evalOption]
      refine .bind (evalExpr_safe hG hM hc e (he e rfl)) fun r hr => .pure ?_
      rintro r' ⟨⟩
      exact hr

theorem evalEntries_safe (hG : G.Lawful) (hM : G.Drives M) {c : Context} (hc : G.Runs c)
    (made : Entries Ref) :
    ∀ entries : List (Expr × Expr), (∀ p ∈ entries, G.Evals p.1 ∧ G.Evals p.2) →
      (∀ e ∈ made, G.policy.Given e.2) →
      G.Safe (fun result => ∀ e ∈ result, G.policy.Given e.2) (evalEntries M made entries c)
  | [], _, hmade => by rw [evalEntries]; exact .pure hmade
  | (key, value) :: rest, he, hmade => by
      rw [evalEntries]
      obtain ⟨⟨hkey, hvalue⟩, hrest⟩ := List.forall_mem_cons.mp he
      refine .bind (evalExpr_safe hG hM hc key hkey) fun r _ =>
        .bind (.reads G.guards (Op.toText_reads r)) fun k _ => .failIf ?_
      refine .bind (evalExpr_safe hG hM hc value hvalue) fun v hv =>
        evalEntries_safe hG hM hc _ rest hrest fun e he => ?_
      rcases Entries.mem_put he with rfl | he
      · exact hv
      · exact hmade e he

theorem evalName_safe (hG : G.Lawful) (hM : G.Drives M) {c : Context} (hc : G.Runs c) :
    ∀ parts : List NamePart, (∀ e ∈ parts.filterMap NamePart.expr?, G.Evals e) →
      G.Safe (Spells parts) (evalName M parts c)
  | [], _ => by rw [evalName]; exact .pure (by rintro text ⟨⟩)
  | .plain s :: rest, he => by
      rw [evalName]
      cases rest with
      | nil =>
          rw [evalName]
          refine .bind (.pure (U := (· = "")) rfl) fun name hname => .pure ?_
          rintro text ⟨⟩
          rw [hname, String.append_empty]
      | cons part rest =>
          exact .bind (evalName_safe hG hM hc (part :: rest) he) fun name _ =>
            .pure (by rintro text ⟨⟩)
  | .computed e :: rest, he => by
      rw [evalName]
      obtain ⟨hfirst, hrest⟩ :=
        (List.forall_mem_cons (a := e) (l := rest.filterMap NamePart.expr?)).mp he
      refine .bind (evalExpr_safe hG hM hc e hfirst) fun r _ =>
        .bind (.reads G.guards (Op.toText_reads r)) fun s _ =>
          .bind (evalName_safe hG hM hc rest hrest) fun name _ => .pure (by rintro text ⟨⟩)
  | .misplaced d :: _, _ => by rw [evalName]; exact .faulty _

end

theorem evalTop_safe {e : Expr} {c : Context} (hc : G.Runs c) (he : G.Evals e) :
    G.Safe G.policy.Given (evalTop M e c) :=
  .bind (setSite_safe G.guards _) fun _ _ => evalExpr_safe hG hM hc e he

theorem evalCall_safe (range : Option (Int × Int)) {e : Expr} {c : Context} (hc : G.Runs c)
    (he : G.Evals e) : G.Safe G.policy.Given (evalCall M range e c) := by
  unfold evalCall
  split
  · refine .bind (evalAll_safe hG hM hc _ fun x hx => hG.part he hx) fun values hvalues => ?_
    exact callByName_safe hG hM _ _ range hvalues (by rintro d ⟨⟩) hc
  · refine .bind (evalExpr_safe hG hM hc _ (hG.part he (by simp [Expr.parts]))) fun t _ =>
      .bind (toFuncref_safe hG t) fun f hf => ?_
    refine .bind (evalAll_safe hG hM hc _ fun x hx => hG.part he (by simp [Expr.parts, hx]))
      fun values hvalues => ?_
    exact callFuncref_safe hG hM range hf hvalues hc
  · rename_i mark params body args
    have hlambda : G.Evals (.lambda mark params body) := hG.part he (by simp [Expr.parts])
    refine .bind (makeLambda_safe hG hc hlambda) fun f hf => ?_
    refine .bind (evalAll_safe hG hM hc _ fun x hx => hG.part he (by simp [Expr.parts, hx]))
      fun values hvalues => ?_
    exact callFuncref_safe hG hM range hf hvalues hc
  · exact .fail _

/-! ## Targets -/

theorem assign_safe {target : Expr} (op : LetOp) {value : Ref} {c : Context} (hc : G.Runs c)
    (he : G.Evals target) (ht : G.Assigns c target) (hvalue : G.policy.Given value) :
    G.Safe (fun _ => True) (assign M target op value c) := by
  have hcombine : ∀ (op : Arith) {current : Ref} (name : String), G.policy.Given current →
      G.Safe G.policy.Given (liftM (Op.combine op current value name) : Run Ref) :=
    fun op _ name hcurrent => .op G.guards (Op.combine_safe hG.policy op value name hcurrent)
  unfold assign
  split
  case h_1 mark scope parts =>
    refine .bind (evalName_safe hG hM hc parts fun x hx => hG.part he hx) fun name hname =>
      .spaces ?_
    have hstore : ∀ r, G.policy.Given r → G.Safe (fun _ => True)
        (liftM (G.setup.spaces.set scope name r c) : Run Unit) := fun r hr =>
      .op G.guards (hG.set hc ht hname hr)
    cases op with
    | set => exact .bind (.pure hvalue) hstore
    | update op =>
        refine .bind (.op G.guards (Op.getOrFail_safe hG.policy _ scope name c)) fun r hr => ?_
        exact .bind (hcombine op _ hr) hstore
  case h_2 mark target key =>
    refine .bind (evalExpr_safe hG hM hc target (hG.part he (by simp [Expr.parts])))
      fun container hcontainer =>
        .bind (evalExpr_safe hG hM hc key (hG.part he (by simp [Expr.parts]))) fun k _ => ?_
    exact .bind registry_safe fun r _ =>
      .op G.guards (Op.assignItem_safe hG.policy _ k op hcontainer hvalue)
  case h_3 mark target first last =>
    intro s hs
    have htarget := evalExpr_safe hG hM hc target (hG.part he (by simp [Expr.parts]))
    refine assignSlice_safeAt G.guards hG.policy op value (htarget s hs) ?_ ?_
    · rintro e rfl
      exact (evalExpr_safe hG hM hc e (hG.part he (by simp [Expr.parts]))).mono fun _ _ => trivial
    · rintro e rfl
      exact (evalExpr_safe hG hM hc e (hG.part he (by simp [Expr.parts]))).mono fun _ _ => trivial
  case h_4 name =>
    refine .host fun h => .bind (.orFault _) fun found _ => ?_
    split
    · exact .fail _
    · have hstore : ∀ r, G.Safe (fun _ => True) (do
          let data ← Op.toData r
          modifyHost (·.setOption name.asText data) : Run Unit) := fun r =>
        .bind (.reads G.guards (Op.toData_reads r)) fun data _ => modifyHost_safe G.guards _
      cases op with
      | set => exact .bind (.pure hvalue) fun r _ => hstore r
      | update op =>
          refine .bind (.op G.guards (Op.ofData_safe hG.policy _)) fun r hr => ?_
          exact .bind (hcombine op _ hr) fun r _ => hstore r
  case h_5 name =>
    have hstore : ∀ r, G.Safe (fun _ => True) (do
        let text ← Op.toText r
        modifyHost (·.setRegister name text) : Run Unit) := fun r =>
      .bind (.reads G.guards (Op.toText_reads r)) fun text _ => modifyHost_safe G.guards _
    refine .failIf ?_
    cases op with
    | set => exact .bind (.pure hvalue) fun r _ => hstore r
    | update op =>
        refine .host fun h => .bind (.op G.guards (Op.string_safe hG.policy _)) fun r hr => ?_
        exact .bind (hcombine op _ hr) fun r _ => hstore r
  case h_6 name =>
    have hstore : ∀ r, G.Safe (fun _ => True) (do
        let text ← Op.toText r
        modifyHost (·.setEnv name text) : Run Unit) := fun r =>
      .bind (.reads G.guards (Op.toText_reads r)) fun text _ => modifyHost_safe G.guards _
    cases op with
    | set => exact .bind (.pure hvalue) fun r _ => hstore r
    | update op =>
        refine .host fun h => .bind (.op G.guards (Op.string_safe hG.policy _)) fun r hr => ?_
        exact .bind (hcombine op _ hr) fun r _ => hstore r
  case h_7 => exact .faulty _

theorem assignEach_safe (op : LetOp) {c : Context} (hc : G.Runs c) :
    ∀ pairs : List (Expr × Ref),
      (∀ p ∈ pairs, G.Evals p.1 ∧ G.Assigns c p.1 ∧ G.policy.Given p.2) →
      G.Safe (fun _ => True) (assignEach M op c pairs)
  | [], _ => .pure trivial
  | (target, item) :: rest, hpairs => by
      obtain ⟨⟨he, ht, hitem⟩, hrest⟩ := List.forall_mem_cons.mp hpairs
      exact .bind (assign_safe hG hM op hc he ht hitem) fun _ _ => assignEach_safe op hc rest hrest

theorem unpack_safe {targets : List Expr} (op : LetOp) (value : Ref) {c : Context} (hc : G.Runs c)
    (htargets : ∀ e ∈ targets, G.Evals e ∧ G.Assigns c e) :
    G.Safe (fun _ => True) (unpack M targets op value c) := by
  have hlist : G.Safe (fun items => ∀ r ∈ items, G.policy.Given r)
      (requireList value .listRequired) := by
    refine .value G.guards hG.policy fun v hv => ?_
    split
    · exact .pure (Policy.carries_list.mp hv)
    · exact .fail _
  refine .bind hlist fun items hitems => .failIf (.failIf ?_)
  refine assignEach_safe hG hM op hc _ fun p hp => ?_
  obtain ⟨htarget, hitem⟩ := List.of_mem_zip hp
  exact ⟨(htargets _ htarget).1, (htargets _ htarget).2, hitems _ hitem⟩

theorem letTarget_safe {mark : Option Mark} {target : Expr} {op : LetOp} {expr : Expr} {value : Ref}
    {c : Context} (hc : G.Runs c) (hs : G.Does c (.assign mark target op expr))
    (hvalue : G.policy.Given value) : G.Safe (fun _ => True) (letTarget M target op value c) := by
  have he : G.Evals target := hG.expr hs (by simp [Stmt.exprs])
  cases target with
  | list mark targets =>
      exact unpack_safe hG hM op value hc fun e htarget =>
        ⟨hG.part he htarget, hG.target hs htarget⟩
  | _ => exact assign_safe hG hM op hc he (hG.target hs (List.mem_singleton_self _)) hvalue

omit hG hM in
theorem mem_of_mem_removeBetween {α : Type} {items : List α} {first last : Int} {a : α}
    (ha : a ∈ Op.removeBetween items first last) : a ∈ items := by
  rcases List.mem_append.mp ha with ha | ha
  · exact List.mem_of_mem_take ha
  · exact List.mem_of_mem_drop ha

theorem unletTarget_safe {target : Expr} (bang : Bool) {c : Context} (hc : G.Runs c)
    (he : G.Evals target) : G.Safe (fun _ => True) (unletTarget M target bang c) := by
  unfold unletTarget
  split
  case h_1 mark scope parts =>
    refine .bind (evalName_safe hG hM hc parts fun x hx => hG.part he hx) fun name _ => .spaces ?_
    exact .op G.guards (hG.unlet scope name bang hc)
  case h_2 mark target key =>
    refine .bind (evalExpr_safe hG hM hc target (hG.part he (by simp [Expr.parts])))
      fun container hcontainer =>
        .bind (evalExpr_safe hG hM hc key (hG.part he (by simp [Expr.parts]))) fun k _ => ?_
    exact .op G.guards (Op.unletItem_safe hG.policy k bang hcontainer)
  case h_3 mark target first last =>
    have hbound : ∀ e, e ∈ first.toList ++ last.toList →
        G.Safe (fun _ => True) (evalExpr M e c) := fun e hbound =>
      (evalExpr_safe hG hM hc e (hG.part he (List.mem_cons_of_mem _ hbound))).mono
        fun _ _ => trivial
    refine .bind (evalExpr_safe hG hM hc target (hG.part he (by simp [Expr.parts])))
      fun container hcontainer =>
        .bind (requireList_safe G.guards hG.policy container _) fun items hlist =>
          .unlocked G.guards fun h hh hunlocked => ?_
    have hfree := hG.policy.free hh hcontainer hlist hunlocked
    refine .bind (evalBound_safe G.guards fun e he => hbound e (by simp [he])) fun _ _ =>
      .bind (evalBound_safe G.guards fun e he => hbound e (by simp [he])) fun _ _ =>
        .get fun s hs => ?_
    have hitems := hG.policy.items (G.guards.holds hs) container
    refine Run.Safe.op G.guards (Op.setValue_safe hG.policy hfree
      (Policy.carries_list.mpr fun x hx => ?_)) s hs
    exact hitems x (mem_of_mem_removeBetween hx)
  case h_4 => exact .faulty _

theorem lockTarget_safe {isLocked : Bool} (depth : Int) {target : Expr} {c : Context}
    (hc : G.Runs c) (he : G.Evals target) (hlocks : G.Locks isLocked) :
    G.Safe (fun _ => True) (lockTarget M isLocked depth target c) := by
  unfold lockTarget
  split
  · refine .bind (evalName_safe hG hM hc _ fun x hx => hG.part he hx) fun name _ => .spaces ?_
    exact .op G.guards (hG.setLock _ name depth hc hlocks)
  · refine .bind (evalExpr_safe hG hM hc _ he) fun r hr => .onHeap G.guards fun h hh => ?_
    exact ⟨hG.lockTo depth hlocks hh hr, fun _ _ => trivial⟩

omit hG hM in
theorem forEachTarget_safe {act : Expr → Run Unit} :
    ∀ targets : List Expr, (∀ e ∈ targets, G.Safe (fun _ => True) (act e)) →
      G.Safe (fun _ => True) (forEachTarget act targets)
  | [], _ => .pure trivial
  | e :: rest, hact => by
      obtain ⟨hfirst, hrest⟩ := List.forall_mem_cons.mp hact
      exact .bind hfirst fun _ _ => forEachTarget_safe rest hrest

/-! ## Control flow -/

section

omit hM

/-- The text is a new object. -/
theorem setVimText_safe {name : String} (text : String)
    (hset : ∀ value, G.policy.Given value → G.policy.Free value →
      Op.Safe G.policy (fun _ => True) (G.setup.spaces.setVim name value)) :
    G.Safe (fun _ => True) (setVimText name text) :=
  .spaces (.bind (.op G.guards (Op.alloc_new hG.policy (G.policy.carries_string text)))
    fun r hr => .op G.guards (hset r hr.1 hr.2))

theorem report_safe (e : ScriptError) : G.Safe (fun _ => True) (report e) := by
  refine .bind (trace_safe G.guards _) fun _ _ => .get fun s hs => ?_
  have hrecord : G.Safe (fun _ => True) (modify fun t =>
      { t with errors := t.errors.push { e with site := e.site <|> s.site } } : Run Unit) :=
    fun _ ht => ⟨G.guards.same ht rfl rfl, fun _ _ => trivial⟩
  refine Run.Safe.bind hrecord (fun _ _ => ?_) s hs
  refine .bind (setVimText_safe hG _ fun value hvalue _ => ?_) fun _ _ =>
    modifyHost_safe G.guards _
  exact hG.setVim (by decide) hvalue

omit hG in
theorem whileLoop_safe {condition : Run Bool} {body : Run Signal}
    (hcondition : G.Safe (fun _ => True) condition) (hbody : G.Safe G.policy.Signals body) :
    ∀ fuel, G.Safe G.policy.Signals (whileLoop condition body fuel)
  | 0 => .throw _
  | fuel + 1 => by
      refine .bind hcondition fun b _ => .ite ?_ (.pure trivial)
      refine .bind hbody fun signal hsignal => ?_
      have ih := whileLoop_safe hcondition hbody fuel
      cases signal with
      | success | continuing => exact ih
      | breaking => exact .pure trivial
      | returning _ | failed _ => exact .pure hsignal

theorem forText_safe {turn : Ref → Run Signal}
    (hturn : ∀ r, G.policy.Given r → G.Safe G.policy.Signals (turn r)) (text : List Char) :
    G.Safe G.policy.Signals (forText turn text) := by
  induction text with
  | nil => exact .pure trivial
  | cons ch rest ih =>
      refine .bind (.op G.guards (Op.string_safe hG.policy _)) fun r hr =>
        .bind (hturn r hr) fun signal hsignal => ?_
      cases signal with
      | success | continuing => exact ih
      | breaking => exact .pure trivial
      | returning _ | failed _ => exact .pure hsignal

theorem forList_safe {again : Run Ref} {turn : Ref → Run Signal}
    (hagain : G.Safe G.policy.Given again)
    (hturn : ∀ r, G.policy.Given r → G.Safe G.policy.Signals (turn r)) :
    ∀ fuel list i, G.Safe G.policy.Signals (forList again turn fuel list i)
  | 0, _, _ => .throw _
  | fuel + 1, list, i => by
      refine .get fun s hs => ?_
      split
      · exact Run.Safe.pure trivial s hs
      · rename_i item hitem
        have hgiven := hG.policy.items (G.guards.holds hs) list item (List.mem_of_getElem? hitem)
        refine Run.Safe.bind (hturn item hgiven) (fun signal hsignal => ?_) s hs
        cases signal with
        | success | continuing =>
            refine .bind hagain fun next _ => .bind (.reads G.guards (Op.value_reads next))
              fun v _ => ?_
            split
            · exact forList_safe hagain hturn fuel next (i + 1)
            · exact .fail _
        | breaking => exact .pure trivial
        | returning _ | failed _ => exact .pure hsignal

theorem forEach_safe {again : Run Ref} {turn : Ref → Run Signal}
    (hagain : G.Safe G.policy.Given again)
    (hturn : ∀ r, G.policy.Given r → G.Safe G.policy.Signals (turn r)) (fuel : Nat) :
    G.Safe G.policy.Signals (forEach again turn fuel) := by
  refine .bind hagain fun first _ => .bind (.reads G.guards (Op.value_reads first)) fun v _ => ?_
  split
  · exact forText_safe hG hturn _
  · exact .faulty _
  · exact forList_safe hG hagain hturn fuel first 0
  · exact .fail _

omit hG in
theorem findHandler_safe {U : Run Signal → Prop} (message : String) :
    ∀ handlers : List Handler, (∀ h ∈ handlers, U h.body) →
      G.Safe (fun found => ∀ body, found = some body → U body) (findHandler message handlers)
  | [], _ => .pure (by rintro body ⟨⟩)
  | h :: rest, hhandlers => by
      obtain ⟨hfirst, hrest⟩ := List.forall_mem_cons.mp hhandlers
      have hfound : ∀ body, some h.body = some body → U body := by
        rintro body ⟨⟩
        exact hfirst
      refine .bind (.orFault _) fun pattern _ => ?_
      split
      · exact .pure hfound
      · refine .read (.bind (.result _) fun _ _ => .ite ?_ (findHandler_safe message rest hrest))
        exact .bind (trace_safe G.guards _) fun _ _ => .pure hfound

/-- Where new objects can be written into all variables of the editor, it does not matter that
clauses are entered and left. -/
theorem handles_of_setVim (hset : ∀ name value, name ∈ maintained → G.policy.Given value →
    G.policy.Free value →
    Op.Safe G.policy (fun _ => True) (G.setup.spaces.setVim name value)) (M : Machine) :
    G.Handles M := by
  intro e c body _ _ hbody
  have htext : ∀ name text, name ∈ maintained → G.Safe (fun _ => True) (setVimText name text) :=
    fun name text hname => setVimText_safe hG text fun value => hset name value hname
  exact .bind (htext _ _ (by decide)) fun _ _ => .throwpoint c fun _ =>
    .bind (htext _ _ (by decide)) fun _ _ => .bind (.attempt hbody) fun _ hresult =>
      .bind (htext _ _ (by decide)) fun _ _ => .pure hresult

omit hG in
theorem orderly_safe {result : Except Stop Signal} (hresult : Gives G.policy.Signals result) :
    G.Safe (Gives G.policy.Signals) (orderly result) := by
  cases result with
  | ok signal => exact .pure hresult
  | error stop => exact .ite (.pure (gives_error _ stop)) (.throw _)

omit hG in
theorem tryBody_safe {body : Run Signal} {handlers : List Handler}
    {c : Context} (hbody : G.Safe G.policy.Signals body)
    (hhandlers : ∀ h ∈ handlers, ∀ e, G.Safe (Gives G.policy.Signals) (handle e h.body c)) :
    G.Safe (Gives G.policy.Signals) (tryBody body handlers c) := by
  have hhandle : ∀ e : ScriptError, G.Safe (Gives G.policy.Signals) (handleBy handlers e c) := by
    intro e
    refine .bind (findHandler_safe (U := fun body => ∀ e, G.Safe _ (handle e body c)) e.message
      handlers hhandlers) fun found hfound => ?_
    cases found with
    | none => exact .pure (gives_error _ _)
    | some handler =>
        exact .bind (hfound handler rfl e) fun _ hresult => orderly_safe hresult
  refine .bind (.attempt hbody) fun result hresult => ?_
  split
  · exact hhandle _
  · exact hhandle _
  · exact orderly_safe hresult

omit hG in
theorem tryWith_safe {body : Run Signal} {handlers : List Handler} {cleanup : Option (Run Signal)}
    {c : Context} (hbody : G.Safe G.policy.Signals body)
    (hhandlers : ∀ h ∈ handlers, ∀ e, G.Safe (Gives G.policy.Signals) (handle e h.body c))
    (hcleanup : ∀ x, cleanup = some x → G.Safe G.policy.Signals x) :
    G.Safe G.policy.Signals (tryWith body handlers cleanup c) := by
  refine .bind (tryBody_safe hbody hhandlers) fun result hresult => ?_
  cases cleanup with
  | none => exact .ending hresult
  | some final =>
      refine .bind (hcleanup final rfl) fun signal hsignal => ?_
      split
      · exact .ending hresult
      · exact .pure hsignal

end

/-! ## Statements -/

theorem echo_safe (kind : EchoKind) {args : List Expr} {c : Context} (hc : G.Runs c)
    (hargs : ∀ e ∈ args, G.Evals e) : G.Safe G.policy.Signals (echo M kind args c) := by
  have htext : G.Safe (fun _ => True) (echoText M args c) :=
    .bind (evalAll_safe hG hM hc args hargs) fun _ _ => .bind (.reads G.guards (.reading _))
      fun _ _ => .pure trivial
  refine .bind htext fun text _ => ?_
  cases kind with
  | error => exact .fail _
  | echo | message => exact .bind (showMessage_safe G.guards text) fun _ _ => .pure trivial

theorem callStatement_safe {e : Expr} {range : Option (Expr × Expr)} {c : Context} (hc : G.Runs c)
    (he : G.Evals e) (hrange : ∀ p, range = some p → G.Evals p.1 ∧ G.Evals p.2) :
    G.Safe G.policy.Signals (callStatement M e range c) := by
  have hcall : ∀ lines, G.Safe G.policy.Signals (do
      let _ ← evalCall M lines e c
      return .success : Run Signal) := fun lines =>
    .bind (evalCall_safe hG hM lines hc he) fun _ _ => .pure trivial
  cases range with
  | none => exact .bind (.pure (U := fun _ => True) trivial) fun lines _ => hcall lines
  | some p =>
      obtain ⟨hfirst, hlast⟩ := hrange p rfl
      refine .bind (evalExpr_safe hG hM hc _ hfirst) fun a _ =>
        .bind (.reads G.guards (Op.toNumber_reads a)) fun _ _ =>
          .bind (evalExpr_safe hG hM hc _ hlast) fun b _ =>
            .bind (.reads G.guards (Op.toNumber_reads b)) fun _ _ => ?_
      exact .bind (.pure (U := fun _ => True) trivial) fun lines _ => hcall lines

theorem executeText_safe {mark : Option Mark} {args : List Expr} {c : Context} (hc : G.Runs c)
    (hs : G.Does c (.execute mark args)) : G.Safe G.policy.Signals (executeText M args c) := by
  have hparse : ∀ text, G.Safe (fun body => ∀ s ∈ body, G.Does c s) (parseStatements text) := by
    intro text
    refine .read ?_
    split
    · exact .fail _
    · rename_i parser hparser
      refine .bind (.orFault _) fun tree htree => .bind (.orFault _) fun program hprogram =>
        .pure ?_
      exact hG.statements hc hs hparser htree hprogram
  have htexts : ∀ values : List Ref, G.Safe (fun _ => True)
      (values.mapM fun r => (Op.toText r : Run String)) := by
    intro values
    induction values with
    | nil => exact .pure trivial
    | cons r rest ih =>
        rw [List.mapM_cons]
        exact .bind (.reads G.guards (Op.toText_reads r)) fun _ _ => .bind ih fun _ _ =>
          .pure trivial
  refine .bind (evalAll_safe hG hM hc args fun e he => hG.expr hs he) fun values _ =>
    .bind (htexts values) fun _ _ => .bind (trace_safe G.guards _) fun _ _ => ?_
  exact .bind (hparse _) fun body hbody => hM.execute hc hbody

theorem throwText_safe {value : Expr} {c : Context} (hc : G.Runs c) (he : G.Evals value) :
    G.Safe G.policy.Signals (throwText M value c) :=
  .bind (evalExpr_safe hG hM hc value he) fun r _ =>
    .bind (.reads G.guards (Op.toText_reads r)) fun _ _ => .ite (.fail _) (.fail _)

theorem returnValue_safe {value : Option Expr} {c : Context} (hc : G.Runs c)
    (he : ∀ e, value = some e → G.Evals e) :
    G.Safe G.policy.Signals (returnValue M value c) := by
  refine .failIf ?_
  cases value with
  | some e => exact .bind (evalExpr_safe hG hM hc e (he e rfl)) fun _ hr => .pure hr
  | none => exact .bind (.op G.guards (Op.number_safe hG.policy 0)) fun _ hr => .pure hr

omit hM in
theorem declareEntry_safe {dict : Ref} (key : String) {signature : Signature} (bang : Bool)
    {body : List Stmt} {c : Context} (hdict : G.policy.Given dict)
    (hallows : ∀ name, G.Allows (.make name none signature body c)) :
    G.Safe (fun _ => True) (declareEntry dict key signature bang body c) := by
  have hdeclare : G.policy.Container dict → G.Safe (fun _ => True) (do
      if ← Op.isLocked dict then fail (.locked key)
      let callee ← modifyGet fun s => ((s.registry.declareNumbered signature body c).1,
        { s with registry := (s.registry.declareNumbered signature body c).2 })
      let f ← Op.alloc (.funcref { callee, arguments := ← Op.list [], self := some dict })
      Run.onHeap (modify fun h => h.modifyTable dict (·.insert key f)) : Run Unit) := by
    intro hcontainer
    refine .unlocked G.guards fun h hh hunlocked => ?_
    have hfree := hG.policy.free hh hdict hcontainer hunlocked
    have hnumbered : G.Safe (fun _ => True) (modifyGet fun s =>
        ((s.registry.declareNumbered signature body c).1,
          { s with registry := (s.registry.declareNumbered signature body c).2 }) :
            Run Callee) := by
      refine fun s hs => ⟨⟨hs.1, ?_⟩, fun _ _ => trivial⟩
      exact Regime.Registers.addNamed (r := { s.registry with
        numberedCount := s.registry.numberedCount + 1 }) hs.2 (hallows _) _ _
    refine .bind hnumbered fun callee _ =>
      .bind (.op G.guards (Op.list_safe hG.policy (by simp))) fun arguments harguments => ?_
    have hcarries : G.policy.Carries (.funcref { callee, arguments, self := some dict }) := by
      refine Policy.carries_funcref.mpr ⟨harguments, ?_⟩
      rintro r ⟨⟩
      exact hdict
    refine .bind (.op G.guards (Op.alloc_safe hG.policy hcarries)) fun f hf => ?_
    exact .onHeap G.guards (Op.insertFree_safe hG.policy hfree key hf)
  refine .valueOf G.guards hG.policy fun v _ hcontainer => ?_
  split
  · split
    · exact hdeclare (hcontainer rfl)
    · refine .bind (.reads G.guards (Op.value_reads _)) fun held _ => ?_
      split
      · exact .failIf (hdeclare (hcontainer rfl))
      · exact .failBind _ _
  · exact .fail _

omit hG hM in
theorem hostCommand_safe (name : Vimscript.Name) (argument : String) (bang : Bool) :
    G.Safe G.policy.Signals (hostCommand name argument bang) := by
  refine .bind (modifyGetHost_safe G.guards _) fun r _ => .bind (.orFault r) fun answer _ => ?_
  split
  · exact .pure trivial
  · exact .pure trivial
  · exact .fail _

omit hG hM in
theorem declare_registers {r : Registry} {signature : Signature} {body : List Stmt} {c : Context}
    (scope : Option Scope) (name : Vimscript.Name) (bang : Bool) (hr : G.Registers r)
    (hallows : ∀ name scope, G.Allows (.make name scope signature body c)) :
    Gives G.Registers (r.declare scope name signature bang body c) := by
  have hadd : ∀ space key scope,
      Gives G.Registers (.ok (r.addNamed space key (.make name scope signature body c)).2) := by
    rintro space key scope r' ⟨⟩
    exact hr.addNamed (hallows name scope) space key
  refine .ite (.after fun _ => ?_) ?_
  all_goals
    refine .ite (.after fun _ => .after fun key => ?_) (.after fun key => ?_)
    · exact .ite (.after fun _ => hadd _ key _) (hadd _ key _)
    · exact .ite (.after fun _ => hadd _ key _) (hadd _ key _)

omit hM in
theorem delete_registers {r : Registry} (scope : Option Scope) (name : Vimscript.Name)
    (bang : Bool) (script : Script) (hr : G.Registers r) :
    Gives G.Registers (r.delete scope name bang script) := by
  have hdelete : ∀ space key id, Gives G.Registers (.ok (r.deleteFrom space key id)) := by
    rintro space key id r' ⟨⟩
    exact hr.deleteFrom hG space key id
  unfold Registry.delete
  refine .after fun key => ?_
  split
  · exact hdelete _ _ _
  · split
    · exact hdelete _ _ _
    · split
      · rintro r' ⟨⟩
        exact hr
      · exact gives_error _ _

omit hG hM in
mutual

theorem perform_safe (hG : G.Lawful) (hM : G.Drives M) {c : Context} (hc : G.Runs c) :
    ∀ s : Stmt, G.Does c s → G.Safe G.policy.Signals (perform M c s)
  | .assign _ target op value, hs => by
      rw [perform]
      refine .bind (evalExpr_safe hG hM hc value (hG.expr hs (by simp [Stmt.exprs]))) fun r hr => ?_
      exact .bind (letTarget_safe hG hM hc hs hr) fun _ _ => .pure trivial
  | .unlet _ targets bang, hs => by
      rw [perform]
      refine .bind (forEachTarget_safe targets fun e he => ?_) fun _ _ => .pure trivial
      exact unletTarget_safe hG hM bang hc (hG.expr hs he)
  | .lock _ targets depth, hs => by
      rw [perform]
      refine .bind (forEachTarget_safe targets fun e he => ?_) fun _ _ => .pure trivial
      exact lockTarget_safe hG hM depth hc (hG.expr hs he) (hG.lock hs)
  | .unlock _ targets depth, hs => by
      rw [perform]
      refine .bind (forEachTarget_safe targets fun e he => ?_) fun _ _ => .pure trivial
      exact lockTarget_safe hG hM depth hc (hG.expr hs he) (hG.unlock hs)
  | .echo _ kind args, hs => by
      rw [perform]
      exact echo_safe hG hM kind hc fun e he => hG.expr hs he
  | .call _ e range, hs => by
      rw [perform]
      refine callStatement_safe hG hM hc (hG.expr hs (by simp [Stmt.exprs])) ?_
      rintro p rfl
      exact ⟨hG.expr hs (by simp [Stmt.exprs]), hG.expr hs (by simp [Stmt.exprs])⟩
  | .execute _ args, hs => by rw [perform]; exact executeText_safe hG hM hc hs
  | .conditional _ branches otherwise, hs => by
      rw [perform]
      refine execBranches_safe hG hM hc (execOption_safe hG hM hc otherwise ?_) branches ?_
      · rintro body rfl t ht
        exact hG.nested hs (by simp [Stmt.nested, ht])
      · intro b hb
        refine ⟨hG.expr hs (List.mem_map_of_mem hb), fun t ht => hG.nested hs ?_⟩
        exact List.mem_append_left _ (List.mem_flatMap.mpr ⟨b, hb, ht⟩)
  | .whileLoop _ condition body, hs => by
      rw [perform]
      refine whileLoop_safe ?_ (execAll_safe hG hM hc body fun t ht => hG.nested hs ht) M.fuel
      exact .bind (evalExpr_safe hG hM hc condition (hG.expr hs (by simp [Stmt.exprs]))) fun r _ =>
        .reads G.guards (Op.toBool_reads r)
  | .forLoop _ target iterable body, hs => by
      rw [perform]
      have he : G.Evals target := hG.expr hs (by simp [Stmt.exprs])
      refine forEach_safe hG (evalExpr_safe hG hM hc iterable (hG.expr hs (by simp [Stmt.exprs])))
        (fun item hitem => ?_) M.fuel
      refine .bind (assign_safe hG hM .set hc he (hG.target hs (by simp [Stmt.targets])) hitem)
        fun _ _ => ?_
      exact execAll_safe hG hM hc body fun t ht => hG.nested hs ht
  | .forUnpack _ targets iterable body, hs => by
      rw [perform]
      refine forEach_safe hG (evalExpr_safe hG hM hc iterable (hG.expr hs (by simp [Stmt.exprs])))
        (fun item hitem => ?_) M.fuel
      refine .bind (unpack_safe hG hM .set item hc fun e he => ?_) fun _ _ =>
        execAll_safe hG hM hc body fun t ht => hG.nested hs ht
      exact ⟨hG.expr hs (by simp [Stmt.exprs, he]), hG.target hs he⟩
  | .tryCatch _ body clauses cleanup, hs => by
      rw [perform]
      refine tryWith_safe (execAll_safe hG hM hc body fun t ht => ?_)
        (execClauses_safe hG hM hc clauses ?_) (execCleanup_safe hG hM hc cleanup ?_)
      · exact hG.nested hs (List.mem_append_left _ ht)
      · intro clause hclause t ht
        refine hG.nested hs (List.mem_append_right _ (List.mem_append_left _ ?_))
        exact List.mem_flatMap.mpr ⟨clause, hclause, ht⟩
      · rintro body rfl t ht
        exact hG.nested hs (List.mem_append_right _ (List.mem_append_right _ ht))
  | .throw _ value, hs => by
      rw [perform]; exact throwText_safe hG hM hc (hG.expr hs (by simp [Stmt.exprs]))
  | .returning _ value, hs => by
      rw [perform]
      refine returnValue_safe hG hM hc ?_
      rintro e rfl
      exact hG.expr hs (by simp [Stmt.exprs])
  | .breaking, _ => by rw [perform]; exact .pure trivial
  | .continuing, _ => by rw [perform]; exact .pure trivial
  | .finish, _ => by rw [perform]; exact .throw _
  | .function _ scope name signature bang body, hs => by
      rw [perform]
      refine .bind registry_safe fun r hr => .bind (.result _) fun r' hr' => ?_
      have hregisters := declare_registers scope name bang hr
        (fun name scope => hG.declared name scope hc hs rfl) r' hr'
      exact .bind (setRegistry_safe hregisters) fun _ _ => .pure trivial
  | .dictFunction _ target key signature bang body, hs => by
      rw [perform]
      refine .bind (evalExpr_safe hG hM hc target (hG.expr hs (by simp [Stmt.exprs])))
        fun dict hdict => ?_
      refine .bind (declareEntry_safe hG key.asText bang hdict fun name => ?_) fun _ _ =>
        .pure trivial
      exact hG.declared name none hc hs rfl
  | .delFunction _ scope name bang, hs => by
      rw [perform]
      refine .bind registry_safe fun r hr => .bind (.result _) fun r' hr' => ?_
      have hregisters := delete_registers hG scope name bang c.script hr r' hr'
      exact .bind (setRegistry_safe hregisters) fun _ _ => .pure trivial
  | .command _ name argument bang, _ => by
      rw [perform]; exact hostCommand_safe name argument bang

theorem execAll_safe (hG : G.Lawful) (hM : G.Drives M) {c : Context} (hc : G.Runs c) :
    ∀ body : List Stmt, (∀ s ∈ body, G.Does c s) → G.Safe G.policy.Signals (execAll M c body)
  | [], _ => by rw [execAll]; exact .pure trivial
  | s :: rest, hbody => by
      rw [execAll]
      obtain ⟨hfirst, hrest⟩ := List.forall_mem_cons.mp hbody
      refine .bind (setSite_safe G.guards _) fun _ _ => .bind (perform_safe hG hM hc s hfirst)
        fun signal hsignal => ?_
      split
      · exact execAll_safe hG hM hc rest hrest
      · exact .pure hsignal

theorem execOption_safe (hG : G.Lawful) (hM : G.Drives M) {c : Context} (hc : G.Runs c) :
    ∀ body : Option (List Stmt), (∀ b, body = some b → ∀ s ∈ b, G.Does c s) →
      G.Safe G.policy.Signals (execOption M c body)
  | none, _ => by rw [execOption]; exact .pure trivial
  | some body, hbody => by rw [execOption]; exact execAll_safe hG hM hc body (hbody body rfl)

theorem execBranches_safe (hG : G.Lawful) (hM : G.Drives M) {c : Context} (hc : G.Runs c)
    {otherwise : Run Signal} (hother : G.Safe G.policy.Signals otherwise) :
    ∀ branches : List Branch,
      (∀ b ∈ branches, G.Evals b.condition ∧ ∀ s ∈ b.body, G.Does c s) →
      G.Safe G.policy.Signals (execBranches M c otherwise branches)
  | [], _ => by rw [execBranches]; exact hother
  | .mk condition body :: rest, hbranches => by
      rw [execBranches]
      obtain ⟨⟨hcondition, hbody⟩, hrest⟩ := List.forall_mem_cons.mp hbranches
      refine .bind (evalExpr_safe hG hM hc condition hcondition) fun r _ =>
        .bind (.reads G.guards (Op.toBool_reads r)) fun _ _ => .ite ?_ ?_
      · exact execAll_safe hG hM hc body hbody
      · exact execBranches_safe hG hM hc hother rest hrest

theorem execClauses_safe (hG : G.Lawful) (hM : G.Drives M) {c : Context} (hc : G.Runs c) :
    ∀ clauses : List Clause, (∀ k ∈ clauses, ∀ s ∈ k.body, G.Does c s) →
      ∀ h ∈ execClauses M c clauses, ∀ e, G.Safe (Gives G.policy.Signals) (handle e h.body c)
  | [], _, h, hh => by simp [execClauses] at hh
  | .mk pattern body :: rest, hclauses, h, hh => by
      obtain ⟨hbody, hrest⟩ := List.forall_mem_cons.mp hclauses
      rw [execClauses, List.mem_cons] at hh
      rcases hh with rfl | hh
      · exact fun e => hM.handles e c body hc hbody (execAll_safe hG hM hc body hbody)
      · exact execClauses_safe hG hM hc rest hrest h hh

theorem execCleanup_safe (hG : G.Lawful) (hM : G.Drives M) {c : Context} (hc : G.Runs c) :
    ∀ cleanup : Option (List Stmt), (∀ b, cleanup = some b → ∀ s ∈ b, G.Does c s) →
      ∀ x, execCleanup M c cleanup = some x → G.Safe G.policy.Signals x
  | none, _, x, hx => by simp [execCleanup] at hx
  | some body, hbody, x, hx => by
      rw [execCleanup, Option.some.injEq] at hx
      rw [← hx]
      exact execAll_safe hG hM hc body (hbody body rfl)

end

theorem exec_safe {c : Context} {s : Stmt} (hc : G.Runs c) (hs : G.Does c s) :
    G.Safe G.policy.Signals (exec M c s) :=
  .bind (setSite_safe G.guards _) fun _ _ => perform_safe hG hM hc s hs

end Vimscript
