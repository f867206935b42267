import Vimscript.Eval.Expr
import Vimscript.Proofs.Function.Registry
import Vimscript.Proofs.Operator.Making
import Vimscript.Proofs.Syntax.CallFree
import Vimscript.Session

/-!
# Evaluating expressions without calls

An expression without calls leaves everything as it is. Evaluating it is a
sequence of small steps, each of which makes one new object or registers one
new lambda (`Step`), whether it ends with a value or stops short. What holds
after every such step holds of the whole evaluation: that nothing which
exists is disturbed (`callFree_undisturbed`) is read off the steps, and so
are other facts about expressions without calls.

`Run.Tame` says of a computation that it consists of such steps and tells how
it can stop short. It is shown once, by recursion on the expression. The
expressions are those of a set that contains their operands and no calls;
what is known of the whole set is then known where a literal, an option or
an operator makes a Number.
-/

namespace Vimscript

/-! ## Steps -/

/-- One step of evaluating expressions of a set: a new object is made or a lambda is registered. -/
inductive Step (E : Expr → Prop) : State → State → Prop
  | make {s : State} {v : Value} : Made E s.host s.heap v →
      Step E s { s with heap := (s.heap.alloc v).2 }
  | lambda {s : State} (params : List Name) (body : Expr) (c : Context) :
      Step E s { s with registry := (s.registry.declareLambda params body c).2 }

/-- The states evaluating expressions of a set leads to. -/
def Steps (E : Expr → Prop) : State → State → Prop := Relation.ReflTransGen (Step E)

/-- The ways in which evaluating expressions of a set can stop short: as an operator does, because
an option cannot be read, or at a part of a name that is no expression. -/
inductive Halts (setup : Setup) (E : Expr → Prop) (s : State) : Stop → Prop
  | operator {stop : Stop} : s.heap.Halts setup.matcher stop → Halts setup E s stop
  | unread {mark : Option Mark} {scope : Option String} {name : Name} {f : Fault} :
      E (.option mark scope name) → s.host.option? name = .error f → Halts setup E s (.fault f)
  | unsupported {mark : Option Mark} {scope : Option String} {name : Name} {d : Data} {f : Fault} :
      E (.option mark scope name) → s.host.option? name = .ok (some d) → ¬ d.Exchangeable →
      f.kind = .type → Halts setup E s (.fault f)
  | misplaced {mark : Option Mark} {scope : Option Scope} {parts : List NamePart} {d : Data} :
      E (.var mark scope parts) → .misplaced d ∈ parts →
      Halts setup E s (.fault (.noEvaluator d.kind))

variable {α β : Type} {E : Expr → Prop} {setup : Setup} {s : State}

theorem Steps.grown {h : Heap} (hh : s.heap.Grown E s.host h) : Steps E s { s with heap := h } := by
  induction hh with
  | refl => exact .refl
  | tail _ hstep ih =>
      obtain ⟨v, hv, rfl⟩ := hstep
      exact ih.tail (.make hv)

namespace Run

/-- A computation consists of steps and stops short only in the ways expressions do. -/
structure Tame (E : Expr → Prop) (x : Run α) (setup : Setup) (s : State) : Prop where
  steps : Steps E s (x setup s).2
  halts {stop : Stop} : (x setup s).1 = .error stop → Halts setup E (x setup s).2 stop

namespace Tame

theorem pure (a : α) : Tame E (Pure.pure a) setup s := ⟨.refl, nofun⟩

theorem fail (c : Cause) : Tame E (Vimscript.fail c : Run α) setup s := by
  refine ⟨.refl, fun {stop} hstop => ?_⟩
  obtain rfl := Except.error.inj hstop
  exact .operator (.script _)

theorem bind {x : Run α} {f : α → Run β} (hx : Tame E x setup s)
    (hf : ∀ a t, x setup s = (.ok a, t) → Tame E (f a) setup t) : Tame E (x >>= f) setup s := by
  rcases hrun : x setup s with ⟨stop | a, t⟩
  · have hend : (x >>= f) setup s = (.error stop, t) := bind_of_error hrun
    have hsteps := hx.steps
    rw [hrun] at hsteps
    refine ⟨by rw [hend]; exact hsteps, fun {stop'} hstop => ?_⟩
    rw [hend] at hstop ⊢
    obtain rfl := Except.error.inj hstop
    have hhalts := hx.halts (congrArg Prod.fst hrun)
    rwa [hrun] at hhalts
  · have hend : (x >>= f) setup s = f a setup t := bind_of_ok hrun
    have hsteps := hx.steps
    rw [hrun] at hsteps
    have hrest := hf a t hrun
    refine ⟨by rw [hend]; exact hsteps.trans hrest.steps, fun {stop'} hstop => ?_⟩
    rw [hend] at hstop ⊢
    exact hrest.halts hstop

theorem op {op : Op α} (hop : Op.Tame E s.host setup.matcher op s.heap) :
    Tame E (liftM op : Run α) setup s := by
  refine ⟨.grown hop.grown, fun {stop} hstop => ?_⟩
  exact .operator (hop.halts hstop)

theorem ite {p : Prop} [Decidable p] {x y : Run α} (hx : Tame E x setup s)
    (hy : Tame E y setup s) : Tame E (if p then x else y) setup s := by
  split
  · exact hx
  · exact hy

/-- A check that fails in front of a computation. -/
theorem failIf {p : Prop} [Decidable p] {c : Cause} {x : Run α} (hx : Tame E x setup s) :
    Tame E (if p then (Vimscript.fail c : Run Unit) >>= fun _ => x else x) setup s := by
  refine .ite (.bind (.fail c) fun _ t hfail => ?_) hx
  cases hfail

/-- The setup, the host and the namespaces can be read at any time. -/
theorem read {x : Run α} {f : α → Run β} {a : α} (hx : x setup s = (.ok a, s))
    (hf : Tame E (f a) setup s) : Tame E (x >>= f) setup s := by
  refine .bind ⟨by rw [hx]; exact .refl, by rw [hx]; exact nofun⟩ fun b t hb => ?_
  rw [hx] at hb
  cases hb
  exact hf

end Tame

theorem makeLambda_tame (params : List Name) (body : Expr) (c : Context) :
    Tame E (makeLambda params body c) setup s := by
  refine .bind ⟨.single (.lambda params body c), nofun⟩ fun callee t _ => ?_
  exact .bind (.op (Op.list_tame [])) fun _ _ _ => .pure _

/-- Reading an option. -/
theorem option_tame {mark : Option Mark} {scope : Option String} {name : Name}
    (he : E (.option mark scope name)) (M : Machine) (c : Context) :
    Tame E (evalExpr M (.option mark scope name) c) setup s := by
  rw [evalExpr]
  refine .read (a := s.host) rfl ?_
  cases hfound : s.host.option? name with
  | error f =>
      refine ⟨.refl, fun {stop} hstop => ?_⟩
      obtain rfl := Except.error.inj hstop
      exact .unread he hfound
  | ok found =>
      refine .read (a := found) rfl ?_
      cases found with
      | none => exact .fail _
      | some d =>
          have hgrown : s.heap.Grown E s.host (Op.ofData d s.heap).2 :=
            Op.ofData_grown fun n hn h => .setting he hfound hn
          refine ⟨.grown hgrown, fun {stop} hstop => ?_⟩
          change (Op.ofData d s.heap).1 = .error stop at hstop
          rcases Op.ofData_gives d s.heap with ⟨-, r, h', hrun⟩ | ⟨hd, f, h', hrun, hkind⟩
          · rw [hrun] at hstop
            cases hstop
          · rw [hrun] at hstop
            obtain rfl := Except.error.inj hstop
            exact .unsupported he hfound hd hkind

end Run

/-! ## Expressions -/

/-- An expression in a part of a name is an operand. -/
theorem Expr.mem_operands_var {mark : Option Mark} {scope : Option Scope} {parts : List NamePart}
    {e : Expr} (he : .computed e ∈ parts) : e ∈ (Expr.var mark scope parts).operands :=
  List.mem_filterMap.mpr ⟨.computed e, he, rfl⟩

theorem Expr.mem_operands_dict {mark : Option Mark} {entries : List (Expr × Expr)}
    {entry : Expr × Expr} (he : entry ∈ entries) {e : Expr} (hentry : e = entry.1 ∨ e = entry.2) :
    e ∈ (Expr.dict mark entries).operands := by
  refine List.mem_flatMap.mpr ⟨entry, he, ?_⟩
  rcases hentry with rfl | rfl
  · exact List.mem_cons_self
  · exact List.mem_cons_of_mem _ List.mem_cons_self

section

open Run

variable (hE : Expr.Evaluated E) (M : Machine)
include hE

omit hE in
mutual

/-- Evaluating an expression without calls takes steps and stops short only in the known ways. -/
theorem evalExpr_tame (hE : Expr.Evaluated E) (M : Machine) :
    ∀ (e : Expr) (c : Context), E e → ∀ (setup : Setup) (s : State),
    Tame E (evalExpr M e c) setup s
  | .int mark n, c, he, setup, s => by
      rw [evalExpr]
      exact .op (.alloc (.literal he))
  | .truth _ b, c, _, setup, s => by
      rw [evalExpr]
      exact .op (Op.truth_tame b)
  | .float _ x, c, _, setup, s => by
      rw [evalExpr]
      exact .op (.alloc (.other nofun))
  | .text _ t, c, _, setup, s => by
      rw [evalExpr]
      exact .op (Op.string_tame t)
  | .list _ items, c, he, setup, s => by
      rw [evalExpr]
      refine .bind (evalAll_tame hE M items c (fun x hx => hE.operand he hx) setup s)
        fun _ _ _ => ?_
      exact .op (Op.list_tame _)
  | .dict _ entries, c, he, setup, s => by
      rw [evalExpr]
      have hentries : ∀ entry ∈ entries, E entry.1 ∧ E entry.2 := fun entry hentry =>
        ⟨hE.operand he (Expr.mem_operands_dict hentry (.inl rfl)),
          hE.operand he (Expr.mem_operands_dict hentry (.inr rfl))⟩
      refine .bind (evalEntries_tame hE M [] entries c hentries setup s) fun _ _ _ => ?_
      exact .op (.alloc (.other nofun))
  | .var mark scope parts, c, he, setup, s => by
      rw [evalExpr]
      refine .read (a := setup.spaces) rfl ?_
      refine .bind (evalName_tame hE M parts c
        (fun e hmem => hE.operand he (Expr.mem_operands_var hmem))
        (fun d hd => ⟨mark, scope, parts, he, hd⟩) setup s) fun _ _ _ => ?_
      exact .op (Op.getOrFail_tame _ _ _ c)
  | .option mark scope name, c, he, setup, s => option_tame he M c
  | .register _ name, c, _, setup, s => by
      rw [evalExpr]
      refine .ite (.read (a := s.host) rfl ?_) (.fail _)
      exact .op (Op.string_tame _)
  | .environment _ name, c, _, setup, s => by
      rw [evalExpr]
      exact .read (a := s.host) rfl (.op (Op.string_tame _))
  | .wholeScope _ scope, c, _, setup, s => by
      rw [evalExpr]
      exact .read (a := setup.spaces) rfl (.op (Op.space_tame _ scope c))
  | .binary mark .both left right, c, he, setup, s => by
      rw [evalExpr]
      obtain ⟨hleft, hright⟩ := hE.pair he rfl
      refine .bind (evalExpr_tame hE M left c hleft setup s) fun a t _ => ?_
      refine .bind (.op (Op.toBool_tame a)) fun holds u _ => .ite ?_ (.op (Op.truth_tame _))
      refine .bind (evalExpr_tame hE M right c hright setup u) fun b v _ => ?_
      exact .bind (.op (Op.toBool_tame b)) fun _ _ _ => .op (Op.truth_tame _)
  | .binary mark .either left right, c, he, setup, s => by
      rw [evalExpr]
      obtain ⟨hleft, hright⟩ := hE.pair he rfl
      refine .bind (evalExpr_tame hE M left c hleft setup s) fun a t _ => ?_
      refine .bind (.op (Op.toBool_tame a)) fun holds u _ => .ite (.op (Op.truth_tame _)) ?_
      refine .bind (evalExpr_tame hE M right c hright setup u) fun b v _ => ?_
      exact .bind (.op (Op.toBool_tame b)) fun _ _ _ => .op (Op.truth_tame _)
  | .binary mark (.arith op) left right, c, he, setup, s => by
      obtain ⟨hleft, hright⟩ := hE.pair he rfl
      rw [evalExpr]
      · refine .bind (evalExpr_tame hE M left c hleft setup s) fun a t _ => ?_
        refine .bind (evalExpr_tame hE M right c hright setup t) fun b u _ => ?_
        exact .read (a := setup) rfl (.op (Arith.apply_tame he a b))
      · exact nofun
      · exact nofun
  | .binary mark (.compare relation rule) left right, c, he, setup, s => by
      obtain ⟨hleft, hright⟩ := hE.pair he rfl
      rw [evalExpr]
      · refine .bind (evalExpr_tame hE M left c hleft setup s) fun a t _ => ?_
        refine .bind (evalExpr_tame hE M right c hright setup t) fun b u _ => ?_
        exact .read (a := setup) rfl (.op (compare_tame relation rule a b))
      · exact nofun
      · exact nofun
  | .unary mark op operand, c, he, setup, s => by
      rw [evalExpr]
      refine .bind (evalExpr_tame hE M operand c (hE.operand he List.mem_cons_self) setup s)
        fun a t _ => ?_
      exact .op (unary_tame he a)
  | .ternary _ condition then_ else_, c, he, setup, s => by
      rw [evalExpr]
      have hcondition : E condition := hE.operand he List.mem_cons_self
      have hthen : E then_ := hE.operand he (List.mem_cons_of_mem _ List.mem_cons_self)
      have helse : E else_ :=
        hE.operand he (List.mem_cons_of_mem _ (List.mem_cons_of_mem _ List.mem_cons_self))
      refine .bind (evalExpr_tame hE M condition c hcondition setup s) fun a t _ => ?_
      refine .bind (.op (Op.toBool_tame a)) fun holds u _ => .ite ?_ ?_
      · exact evalExpr_tame hE M then_ c hthen setup u
      · exact evalExpr_tame hE M else_ c helse setup u
  | .falsy _ left right, c, he, setup, s => by
      rw [evalExpr]
      obtain ⟨hleft, hright⟩ := hE.pair he rfl
      refine .bind (evalExpr_tame hE M left c hleft setup s) fun a t _ => ?_
      -- The value is read in the state in which it is used.
      refine .read (a := t.heap.value a) rfl ?_
      have hfalsy : Tame E (liftM (t.heap.value a).isFalsy : Run Bool) setup t := by
        refine ⟨.refl, fun {stop} hstop => .operator ?_⟩
        exact Heap.fails_of_refuses (t.heap.value a).isFalsy_fails stop hstop
      exact .bind hfalsy fun _ u _ => .ite (evalExpr_tame hE M right c hright setup u) (.pure a)
  | .index _ target key, c, he, setup, s => by
      rw [evalExpr]
      obtain ⟨htarget, hkey⟩ := hE.pair he rfl
      refine .bind (evalExpr_tame hE M target c htarget setup s) fun a t _ => ?_
      refine .bind (evalExpr_tame hE M key c hkey setup t) fun b u _ => ?_
      exact .op (Op.index_tame a b)
  | .slice _ target first last, c, he, setup, s => by
      rw [evalExpr]
      have htarget : E target := hE.operand he List.mem_cons_self
      have hbound : ∀ bound, bound ∈ first.toList ++ last.toList → E bound := fun bound hmem =>
        hE.operand he (List.mem_cons_of_mem _ hmem)
      have hfirst : ∀ e, first = some e → E e := by
        rintro e rfl
        exact hbound e List.mem_cons_self
      have hlast : ∀ e, last = some e → E e := by
        rintro e rfl
        exact hbound e (List.mem_append_right _ List.mem_cons_self)
      refine .bind (evalExpr_tame hE M target c htarget setup s) fun a t _ => ?_
      refine .bind (evalOption_tame hE M first c hfirst setup t) fun i u _ => ?_
      refine .bind (evalOption_tame hE M last c hlast setup u) fun j v _ => ?_
      exact .op (Op.slice_tame a i j)
  | .lambda _ params body, c, _, setup, s => by
      rw [evalExpr]
      exact .bind (makeLambda_tame params body c) fun _ _ _ => .op (.alloc (.other nofun))
  | .call .., _, he, _, _ | .funcrefCall .., _, he, _, _ | .lambdaCall .., _, he, _, _ =>
      absurd (hE.noCall he) nofun

theorem evalAll_tame (hE : Expr.Evaluated E) (M : Machine) :
    ∀ (items : List Expr) (c : Context), (∀ e ∈ items, E e) →
    ∀ (setup : Setup) (s : State), Tame E (evalAll M items c) setup s
  | [], c, _, setup, s => by
      rw [evalAll]
      exact .pure _
  | e :: rest, c, hitems, setup, s => by
      rw [evalAll]
      rw [List.forall_mem_cons] at hitems
      refine .bind (evalExpr_tame hE M e c hitems.1 setup s) fun r t _ => ?_
      exact .bind (evalAll_tame hE M rest c hitems.2 setup t) fun _ _ _ => .pure _

theorem evalOption_tame (hE : Expr.Evaluated E) (M : Machine) :
    ∀ (bound : Option Expr) (c : Context), (∀ e, bound = some e → E e) →
    ∀ (setup : Setup) (s : State), Tame E (evalOption M bound c) setup s
  | none, c, _, setup, s => by
      rw [evalOption]
      exact .pure _
  | some e, c, hbound, setup, s => by
      rw [evalOption]
      exact .bind (evalExpr_tame hE M e c (hbound e rfl) setup s) fun _ _ _ => .pure _

theorem evalEntries_tame (hE : Expr.Evaluated E) (M : Machine) :
    ∀ (made : Entries Ref) (entries : List (Expr × Expr)) (c : Context),
    (∀ entry ∈ entries, E entry.1 ∧ E entry.2) →
    ∀ (setup : Setup) (s : State), Tame E (evalEntries M made entries c) setup s
  | made, [], c, _, setup, s => by
      rw [evalEntries]
      exact .pure _
  | made, (key, value) :: rest, c, hentries, setup, s => by
      rw [evalEntries]
      rw [List.forall_mem_cons] at hentries
      refine .bind (evalExpr_tame hE M key c hentries.1.1 setup s) fun r t _ => ?_
      refine .bind (.op (Op.toText_tame r)) fun k u _ => .failIf ?_
      refine .bind (evalExpr_tame hE M value c hentries.1.2 setup u) fun v w _ => ?_
      exact evalEntries_tame hE M _ rest c hentries.2 setup w

theorem evalName_tame (hE : Expr.Evaluated E) (M : Machine) :
    ∀ (parts : List NamePart) (c : Context),
    (∀ e, .computed e ∈ parts → E e) →
    (∀ d, .misplaced d ∈ parts → ∃ mark scope names, E (.var mark scope names) ∧
      .misplaced d ∈ names) →
    ∀ (setup : Setup) (s : State), Tame E (evalName M parts c) setup s
  | [], c, _, _, setup, s => by
      rw [evalName]
      exact .pure _
  | .plain text :: rest, c, hparts, hmisplaced, setup, s => by
      rw [evalName]
      refine .bind (evalName_tame hE M rest c (fun e he => hparts e (List.mem_cons_of_mem _ he))
        (fun d hd => hmisplaced d (List.mem_cons_of_mem _ hd)) setup s) fun _ _ _ => .pure _
  | .computed e :: rest, c, hparts, hmisplaced, setup, s => by
      rw [evalName]
      refine .bind (evalExpr_tame hE M e c (hparts e List.mem_cons_self) setup s) fun r t _ => ?_
      refine .bind (.op (Op.toText_tame r)) fun text u _ => ?_
      refine .bind (evalName_tame hE M rest c (fun e he => hparts e (List.mem_cons_of_mem _ he))
        (fun d hd => hmisplaced d (List.mem_cons_of_mem _ hd)) setup u) fun _ _ _ => .pure _
  | .misplaced d :: rest, c, _, hmisplaced, setup, s => by
      rw [evalName]
      refine ⟨.refl, fun {stop} hstop => ?_⟩
      obtain rfl := Except.error.inj hstop
      obtain ⟨mark, scope, names, he, hd⟩ := hmisplaced d List.mem_cons_self
      exact .misplaced he hd

end

end

/-! ## What is left as it was -/

/-- The declared functions are the same, but for further lambdas, which have no names. -/
structure Registry.OnlyLambdas (r r' : Registry) : Prop where
  declaration {id : Nat} {d : Declaration} : r.declaration? id = some d →
    r'.declaration? id = some d
  globals : r'.globals = r.globals
  numbered : r'.numbered = r.numbered
  scripts : r'.scripts = r.scripts
  numberedCount : r'.numberedCount = r.numberedCount
  lambdaCount : r.lambdaCount ≤ r'.lambdaCount

/-- All that is in a state is in a later one as well, unchanged; there may be further objects and
further lambdas. -/
structure State.Undisturbed (s t : State) : Prop where
  heap : s.heap.Kept t.heap
  functions : s.registry.OnlyLambdas t.registry
  host : t.host = s.host
  calls : t.calls = s.calls
  site : t.site = s.site
  errors : t.errors = s.errors
  messages : t.messages = s.messages
  trace : t.trace = s.trace
  scriptCount : t.scriptCount = s.scriptCount

theorem Registry.OnlyLambdas.refl (r : Registry) : r.OnlyLambdas r :=
  ⟨fun hd => hd, rfl, rfl, rfl, rfl, Nat.le_refl _⟩

theorem Registry.OnlyLambdas.trans {r₁ r₂ r₃ : Registry} (h : r₁.OnlyLambdas r₂)
    (h' : r₂.OnlyLambdas r₃) : r₁.OnlyLambdas r₃ where
  declaration hd := h'.declaration (h.declaration hd)
  globals := h'.globals.trans h.globals
  numbered := h'.numbered.trans h.numbered
  scripts := h'.scripts.trans h.scripts
  numberedCount := h'.numberedCount.trans h.numberedCount
  lambdaCount := Nat.le_trans h.lambdaCount h'.lambdaCount

theorem Registry.onlyLambdas_declareLambda (r : Registry) (params : List Name) (body : Expr)
    (c : Context) : r.OnlyLambdas (r.declareLambda params body c).2 where
  declaration {id d} hd := by
    have hid : id < r.declarations.size := (Array.getElem?_eq_some_iff.mp hd).1
    change (r.declarations.push _)[id]? = some d
    rw [Array.getElem?_push_lt hid, ← Array.getElem?_eq_getElem hid]
    exact hd
  globals := rfl
  numbered := rfl
  scripts := rfl
  numberedCount := rfl
  lambdaCount := Nat.le_succ _

theorem State.Undisturbed.refl (s : State) : s.Undisturbed s :=
  ⟨Heap.kept_extending.refl _, .refl _, rfl, rfl, rfl, rfl, rfl, rfl, rfl⟩

theorem State.Undisturbed.trans {s t u : State} (h : s.Undisturbed t) (h' : t.Undisturbed u) :
    s.Undisturbed u where
  heap := Heap.kept_extending.trans h.heap h'.heap
  functions := h.functions.trans h'.functions
  host := h'.host.trans h.host
  calls := h'.calls.trans h.calls
  site := h'.site.trans h.site
  errors := h'.errors.trans h.errors
  messages := h'.messages.trans h.messages
  trace := h'.trace.trans h.trace
  scriptCount := h'.scriptCount.trans h.scriptCount

theorem Step.undisturbed {t : State} (h : Step E s t) : s.Undisturbed t := by
  cases h with
  | make _ =>
      exact ⟨Heap.kept_extending.alloc _ _, .refl _, rfl, rfl, rfl, rfl, rfl, rfl, rfl⟩
  | lambda params body c =>
      exact ⟨Heap.kept_extending.refl _, Registry.onlyLambdas_declareLambda _ params body c,
        rfl, rfl, rfl, rfl, rfl, rfl, rfl⟩

theorem Steps.undisturbed {t : State} (h : Steps E s t) : s.Undisturbed t := by
  induction h with
  | refl => exact .refl s
  | tail _ hstep ih => exact ih.trans hstep.undisturbed

/-- An expression that stands on its own is what is being executed; otherwise it is evaluated as it
is anywhere. -/
theorem evalTop_eq (M : Machine) (e : Expr) (c : Context) (setup : Setup) (s : State) :
    evalTop M e c setup s = evalExpr M e c setup { s with site := some e.site } :=
  Run.bind_of_ok (x := Run.setSite e.site) rfl

/-- Evaluating an expression that contains no call outside the body of a lambda leaves every object,
namespace, function, option, register and message as it was, whether it ends with a value or not. -/
theorem callFree_undisturbed (M : Machine) {e : Expr} (he : e.CallFree) (c : Context)
    (setup : Setup) (s : State) :
    s.Undisturbed (evalExpr M e c setup s).2 ∧
      ({ s with site := some e.site } : State).Undisturbed (evalTop M e c setup s).2 := by
  have hsteps (s : State) : Steps e.Evaluates s (evalExpr M e c setup s).2 :=
    (evalExpr_tame he.evaluated M e c .refl setup s).steps
  refine ⟨(hsteps s).undisturbed, ?_⟩
  rw [evalTop_eq]
  exact (hsteps _).undisturbed

/-- A List of a lambda that would call a function and of a sum. -/
def lambdaAndSum : Expr :=
  .list none [.lambda none [.text "x"] (.call none none (.text "F") []),
    .binary none (.arith .add) (.text none "3") (.int none 4)]

theorem lambdaAndSum_undisturbed :
    let s := (Session.start {}).state
    let setup := (Session.start {}).setup
    let result := evalTop Machine.halted lambdaAndSum { script := default } setup s
    lambdaAndSum.CallFree ∧
      ({ s with site := some lambdaAndSum.site } : State).Undisturbed result.2 := by
  have hfree : lambdaAndSum.CallFree := by
    refine .pair rfl rfl (.leaf rfl rfl) ?_
    exact .pair rfl rfl (.leaf rfl rfl) (.leaf rfl rfl)
  exact ⟨hfree, (callFree_undisturbed Machine.halted hfree _ _ _).2⟩

end Vimscript
