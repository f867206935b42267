import Vimscript.Eval.Stmt
import Vimscript.Proofs.Run.Keeping

/-!
# What evaluating and executing keep

Expressions, targets and statements, by recursion on the tree: whatever
the nested steps of a machine keep, evaluating an expression and executing
a statement with that machine keep as well. The relation stays arbitrary,
so that the case analysis over the forms of expressions and statements is
made here and nowhere else.

Every proof follows the definition it is about, one combinator of
`Run.Keeps` for each step. The only place where a step is known to be
steady because of what came before it is the selection of a handler, whose
result is one of the handlers it was given (`findHandler_yields`).
-/

namespace Vimscript

open Run

variable {R : State → State → Prop} (hR : Steady R) {M : Machine} (hM : M.Keeps R)
include hR hM

/-! ## Expressions -/

omit hR hM in
mutual

/-- Evaluating an expression keeps what the nested steps of its machine keep. -/
theorem evalExpr_keeps (hR : Steady R) (hM : M.Keeps R) :
    ∀ (e : Expr) (c : Context), Keeps R (evalExpr M e c)
  | .int _ n, c => by
      rw [evalExpr]; exact .op hR (Op.number_keeps Heap.grows_extending n)
  | .truth _ b, c => by
      rw [evalExpr]; exact .op hR (Op.truth_keeps Heap.grows_extending b)
  | .float _ x, c => by
      rw [evalExpr]; exact .op hR (Op.alloc_keeps Heap.grows_extending _)
  | .text _ s, c => by
      rw [evalExpr]; exact .op hR (Op.string_keeps Heap.grows_extending s)
  | .list _ items, c => by
      rw [evalExpr]
      exact .bind hR (evalAll_keeps hR hM items c) fun _ =>
        .op hR (Op.list_keeps Heap.grows_extending _)
  | .dict _ entries, c => by
      rw [evalExpr]
      exact .bind hR (evalEntries_keeps hR hM [] entries c) fun _ =>
        .op hR (Op.alloc_keeps Heap.grows_extending _)
  | .var _ scope parts, c => by
      rw [evalExpr]
      exact .bind hR (spaces_keeps hR) fun sp => .bind hR (evalName_keeps hR hM parts c) fun _ =>
        .op hR (Op.getOrFail_keeps Heap.grows_extending sp scope _ c)
  | .option _ _ name, c => by
      rw [evalExpr]
      refine .bind hR (host_keeps hR) fun h => .bind hR (.orFault hR _) fun found => ?_
      split
      · exact .op hR (Op.ofData_keeps Heap.grows_extending _)
      · exact .fail hR _
  | .register _ name, c => by
      rw [evalExpr]
      refine .ite (.bind hR (host_keeps hR) fun _ => ?_) (.fail hR _)
      exact .op hR (Op.string_keeps Heap.grows_extending _)
  | .environment _ name, c => by
      rw [evalExpr]
      exact .bind hR (host_keeps hR) fun _ => .op hR (Op.string_keeps Heap.grows_extending _)
  | .wholeScope _ scope, c => by
      rw [evalExpr]
      exact .bind hR (spaces_keeps hR) fun sp =>
        .op hR (Op.space_keeps Heap.grows_extending sp scope c)
  | .binary _ .both left right, c => by
      rw [evalExpr]
      refine .bind hR (evalExpr_keeps hR hM left c) fun a =>
        .bind hR (.op hR (Op.toBool_keeps Heap.grows_extending a)) fun _ => .ite ?_ ?_
      · exact .bind hR (evalExpr_keeps hR hM right c) fun b =>
          .bind hR (.op hR (Op.toBool_keeps Heap.grows_extending b)) fun _ =>
            .op hR (Op.truth_keeps Heap.grows_extending _)
      · exact .op hR (Op.truth_keeps Heap.grows_extending _)
  | .binary _ .either left right, c => by
      rw [evalExpr]
      refine .bind hR (evalExpr_keeps hR hM left c) fun a =>
        .bind hR (.op hR (Op.toBool_keeps Heap.grows_extending a)) fun _ => .ite ?_ ?_
      · exact .op hR (Op.truth_keeps Heap.grows_extending _)
      · exact .bind hR (evalExpr_keeps hR hM right c) fun b =>
          .bind hR (.op hR (Op.toBool_keeps Heap.grows_extending b)) fun _ =>
            .op hR (Op.truth_keeps Heap.grows_extending _)
  | .binary _ (.arith op) left right, c => by
      rw [evalExpr]
      · exact .bind hR (evalExpr_keeps hR hM left c) fun _ =>
        .bind hR (evalExpr_keeps hR hM right c) fun _ =>
          .bind hR (.read hR) fun _ => .op hR (Op.binary_keeps Heap.grows_extending _ _ _ _)
      · exact nofun
      · exact nofun
  | .binary _ (.compare relation rule) left right, c => by
      rw [evalExpr]
      · exact .bind hR (evalExpr_keeps hR hM left c) fun _ =>
        .bind hR (evalExpr_keeps hR hM right c) fun _ =>
          .bind hR (.read hR) fun _ => .op hR (Op.binary_keeps Heap.grows_extending _ _ _ _)
      · exact nofun
      · exact nofun
  | .unary _ op operand, c => by
      rw [evalExpr]
      exact .bind hR (evalExpr_keeps hR hM operand c) fun _ =>
        .op hR (Op.unary_keeps Heap.grows_extending op _)
  | .ternary _ condition then_ else_, c => by
      rw [evalExpr]
      exact .bind hR (evalExpr_keeps hR hM condition c) fun _ =>
        .bind hR (.op hR (Op.toBool_keeps Heap.grows_extending _)) fun _ =>
          .ite (evalExpr_keeps hR hM then_ c) (evalExpr_keeps hR hM else_ c)
  | .falsy _ left right, c => by
      rw [evalExpr]
      exact .bind hR (evalExpr_keeps hR hM left c) fun a =>
        .bind hR (.op hR (Op.value_keeps Heap.grows_extending a)) fun _ =>
          .bind hR (.result hR _) fun _ => .ite (evalExpr_keeps hR hM right c) (.pure hR a)
  | .index _ target key, c => by
      rw [evalExpr]
      exact .bind hR (evalExpr_keeps hR hM target c) fun _ =>
        .bind hR (evalExpr_keeps hR hM key c) fun _ =>
        .op hR (Op.index_keeps Heap.grows_extending _ _)
  | .slice _ target first last, c => by
      rw [evalExpr]
      exact .bind hR (evalExpr_keeps hR hM target c) fun _ =>
        .bind hR (evalOption_keeps hR hM first c) fun _ =>
        .bind hR (evalOption_keeps hR hM last c) fun _ =>
          .op hR (Op.slice_keeps Heap.grows_extending _ _ _)
  | .call _ scope name args, c => by
      rw [evalExpr]
      exact .bind hR (evalAll_keeps hR hM args c) fun _ => callByName_keeps hR hM _ _ _ _ _ c
  | .funcrefCall _ target args, c => by
      rw [evalExpr]
      exact .bind hR (evalExpr_keeps hR hM target c) fun _ =>
        .bind hR (toFuncref_keeps hR _) fun _ =>
        .bind hR (evalAll_keeps hR hM args c) fun _ => callFuncref_keeps hR hM _ _ _ c
  | .lambda _ params body, c => by
      rw [evalExpr]
      exact .bind hR (makeLambda_keeps hR params body c) fun _ =>
        .op hR (Op.alloc_keeps Heap.grows_extending _)
  | .lambdaCall _ _ params body args, c => by
      rw [evalExpr]
      exact .bind hR (makeLambda_keeps hR params body c) fun _ =>
        .bind hR (evalAll_keeps hR hM args c) fun _ => callFuncref_keeps hR hM _ _ _ c

theorem evalAll_keeps (hR : Steady R) (hM : M.Keeps R) :
    ∀ (items : List Expr) (c : Context), Keeps R (evalAll M items c)
  | [], c => by rw [evalAll]; exact .pure hR _
  | e :: rest, c => by
      rw [evalAll]
      exact .bind hR (evalExpr_keeps hR hM e c) fun _ =>
        .bind hR (evalAll_keeps hR hM rest c) fun _ =>
        .pure hR _

theorem evalOption_keeps (hR : Steady R) (hM : M.Keeps R) :
    ∀ (e : Option Expr) (c : Context), Keeps R (evalOption M e c)
  | none, c => by rw [evalOption]; exact .pure hR _
  | some e, c => by
      rw [evalOption]; exact .bind hR (evalExpr_keeps hR hM e c) fun _ => .pure hR _

theorem evalEntries_keeps (hR : Steady R) (hM : M.Keeps R) (made : Entries Ref) :
    ∀ (entries : List (Expr × Expr)) (c : Context), Keeps R (evalEntries M made entries c)
  | [], c => by rw [evalEntries]; exact .pure hR _
  | (key, value) :: rest, c => by
      rw [evalEntries]
      refine .bind hR (evalExpr_keeps hR hM key c) fun _ =>
        .bind hR (.op hR (Op.toText_keeps Heap.grows_extending _)) fun k => .failIf hR ?_
      exact .bind hR (evalExpr_keeps hR hM value c) fun _ => evalEntries_keeps hR hM _ rest c

theorem evalName_keeps (hR : Steady R) (hM : M.Keeps R) :
    ∀ (parts : List NamePart) (c : Context), Keeps R (evalName M parts c)
  | [], c => by rw [evalName]; exact .pure hR _
  | .plain s :: rest, c => by
      rw [evalName]; exact .bind hR (evalName_keeps hR hM rest c) fun _ => .pure hR _
  | .computed e :: rest, c => by
      rw [evalName]
      exact .bind hR (evalExpr_keeps hR hM e c) fun _ =>
        .bind hR (.op hR (Op.toText_keeps Heap.grows_extending _)) fun _ =>
          .bind hR (evalName_keeps hR hM rest c) fun _ => .pure hR _
  | .misplaced d :: _, c => by rw [evalName]; exact .faulty hR _

end

theorem evalTop_keeps (e : Expr) (c : Context) : Keeps R (evalTop M e c) :=
  .bind hR (setSite_keeps hR _) fun _ => evalExpr_keeps hR hM e c

theorem evalCall_keeps (range : Option (Int × Int)) (e : Expr) (c : Context) :
    Keeps R (evalCall M range e c) := by
  unfold evalCall
  split
  · exact .bind hR (evalAll_keeps hR hM _ _) fun _ => callByName_keeps hR hM _ _ _ _ _ _
  · exact .bind hR (evalExpr_keeps hR hM _ _) fun _ => .bind hR (toFuncref_keeps hR _) fun _ =>
      .bind hR (evalAll_keeps hR hM _ _) fun _ => callFuncref_keeps hR hM _ _ _ _
  · exact .bind hR (makeLambda_keeps hR _ _ _) fun _ =>
      .bind hR (evalAll_keeps hR hM _ _) fun _ => callFuncref_keeps hR hM _ _ _ _
  · exact .fail hR _

/-! ## Targets -/

theorem evalBound_keeps (fallback : Int) (bound : Option Expr) (c : Context) :
    Keeps R (evalBound M fallback bound c) := by
  cases bound with
  | some e =>
      exact .bind hR (evalExpr_keeps hR hM e c) fun _ =>
        .op hR (Op.toNumber_keeps Heap.grows_extending _)
  | none => exact .pure hR _

omit hM in
theorem requireList_keeps (r : Ref) (cause : Cause) : Keeps R (requireList r cause) := by
  refine .bind hR (.op hR (Op.value_keeps Heap.grows_extending r)) fun v => ?_
  split
  · exact .pure hR _
  · exact .fail hR _

theorem assignSlice_keeps (target : Expr) (first last : Option Expr) (op : LetOp) (value : Ref)
    (c : Context) : Keeps R (assignSlice M target first last op value c) := by
  refine .bind hR (evalExpr_keeps hR hM target c) fun container =>
    .bind hR (requireList_keeps hR container _) fun items =>
      .bind hR (requireList_keeps hR value _) fun _ =>
        .bind hR (evalBound_keeps hR hM 0 first c) fun start => ?_
  have hassign : ∀ (length i : Nat) (items : List Ref),
      Keeps R (liftM (Op.assignRun container op length i items) : Run Unit) := fun _ _ _ =>
    .op hR (Op.assignRun_keeps Heap.grows_mutating container op _ _ _)
  refine .ite (.bind hR (.orFault hR _) fun _ => .bind hR (.fail hR _) fun _ => ?_) ?_
  all_goals
    refine .bind hR (.get hR) fun s => ?_
    split
    · exact hassign _ _ _
    · exact .bind hR (evalExpr_keeps hR hM _ c) fun _ =>
        .bind hR (.op hR (Op.toNumber_keeps Heap.grows_extending _)) fun _ =>
          .bind hR (.result hR _) fun _ => hassign _ _ _

theorem assign_keeps (target : Expr) (op : LetOp) (value : Ref) (c : Context) :
    Keeps R (assign M target op value c) := by
  have hcombine : ∀ (op : Arith) (current : Ref) (name : String),
      Keeps R (liftM (Op.combine op current value name) : Run Ref) := fun _ _ _ =>
    .op hR (Op.combine_keeps Heap.grows_mutating _ _ _ _)
  unfold assign
  split
  case h_1 scope parts =>
    refine .bind hR (evalName_keeps hR hM parts c) fun name =>
      .bind hR (spaces_keeps hR) fun sp => ?_
    have hstore : ∀ r, Keeps R (liftM (sp.set scope name r c) : Run Unit) := fun r =>
      .op hR (Op.set_keeps Heap.grows_mutating sp scope name r c)
    cases op with
    | set => exact .bind hR (.pure hR value) hstore
    | update op =>
        exact .bind hR (.op hR (Op.getOrFail_keeps Heap.grows_extending sp scope name c))
          fun r => .bind hR (hcombine op r _) hstore
  case h_2 target key =>
    exact .bind hR (evalExpr_keeps hR hM target c) fun _ => .bind hR (evalExpr_keeps hR hM key c)
      fun _ => .bind hR (registry_keeps hR) fun _ =>
        .op hR (Op.assignItem_keeps Heap.grows_mutating _ _ _ op value)
  case h_3 => exact assignSlice_keeps hR hM _ _ _ op value c
  case h_4 name =>
    refine .bind hR (host_keeps hR) fun h => .bind hR (.orFault hR _) fun found => ?_
    split
    · exact .fail hR _
    · have hstore : ∀ r, Keeps R (do
          let data ← Op.toData r
          modifyHost (·.setOption name.asText data) : Run Unit) := fun r =>
        .bind hR (.op hR (Op.toData_keeps Heap.grows_extending r)) fun data =>
          modifyHost_keeps hR fun h => .setOption h _ data
      cases op with
      | set => exact .bind hR (.pure hR value) hstore
      | update op =>
          exact .bind hR (.op hR (Op.ofData_keeps Heap.grows_extending _)) fun r =>
            .bind hR (hcombine op r _) hstore
  case h_5 name =>
    have hstore : ∀ r, Keeps R (do
        let text ← Op.toText r
        modifyHost (·.setRegister name text) : Run Unit) := fun r =>
      .bind hR (.op hR (Op.toText_keeps Heap.grows_extending r)) fun text =>
        modifyHost_keeps hR fun h => .setRegister h name text
    refine .failIf hR ?_
    cases op with
    | set => exact .bind hR (.pure hR value) hstore
    | update op =>
        exact .bind hR (host_keeps hR) fun _ =>
          .bind hR (.op hR (Op.string_keeps Heap.grows_extending _)) fun r =>
            .bind hR (hcombine op r _) hstore
  case h_6 name =>
    have hstore : ∀ r, Keeps R (do
        let text ← Op.toText r
        modifyHost (·.setEnv name text) : Run Unit) := fun r =>
      .bind hR (.op hR (Op.toText_keeps Heap.grows_extending r)) fun text =>
        modifyHost_keeps hR fun h => .setEnv h name text
    cases op with
    | set => exact .bind hR (.pure hR value) hstore
    | update op =>
        exact .bind hR (host_keeps hR) fun _ =>
          .bind hR (.op hR (Op.string_keeps Heap.grows_extending _)) fun r =>
            .bind hR (hcombine op r _) hstore
  case h_7 => exact .faulty hR _

theorem assignEach_keeps (op : LetOp) (c : Context) (pairs : List (Expr × Ref)) :
    Keeps R (assignEach M op c pairs) := by
  induction pairs with
  | nil => exact .pure hR _
  | cons pair rest ih => exact .bind hR (assign_keeps hR hM _ op _ c) fun _ => ih

theorem unpack_keeps (targets : List Expr) (op : LetOp) (value : Ref) (c : Context) :
    Keeps R (unpack M targets op value c) := by
  refine .bind hR (requireList_keeps hR value _) fun items => .failIf hR (.failIf hR ?_)
  exact assignEach_keeps hR hM op c _

theorem letTarget_keeps (target : Expr) (op : LetOp) (value : Ref) (c : Context) :
    Keeps R (letTarget M target op value c) := by
  unfold letTarget
  split
  · exact unpack_keeps hR hM _ op value c
  · exact assign_keeps hR hM _ op value c

theorem unletTarget_keeps (target : Expr) (bang : Bool) (c : Context) :
    Keeps R (unletTarget M target bang c) := by
  unfold unletTarget
  split
  case h_1 scope parts =>
    exact .bind hR (evalName_keeps hR hM parts c) fun name => .bind hR (spaces_keeps hR) fun sp =>
      .op hR (Op.unlet_keeps Heap.grows_mutating sp scope name bang c)
  case h_2 target key =>
    exact .bind hR (evalExpr_keeps hR hM target c) fun _ => .bind hR (evalExpr_keeps hR hM key c)
      fun _ => .op hR (Op.unletItem_keeps Heap.grows_mutating _ _ bang)
  case h_3 target first last =>
    refine .bind hR (evalExpr_keeps hR hM target c) fun container =>
      .bind hR (requireList_keeps hR container _) fun items =>
        .bind hR (.op hR (Op.isLocked_keeps Heap.grows_extending container)) fun _ =>
          .failIf hR ?_
    exact .bind hR (evalBound_keeps hR hM 0 first c) fun _ =>
      .bind hR (evalBound_keeps hR hM _ last c) fun _ => .bind hR (.get hR) fun _ =>
        .op hR (Op.setValue_keeps Heap.grows_mutating container _)
  case h_4 => exact .faulty hR _

theorem lockTarget_keeps (isLocked : Bool) (depth : Int) (target : Expr) (c : Context) :
    Keeps R (lockTarget M isLocked depth target c) := by
  unfold lockTarget
  split
  · exact .bind hR (evalName_keeps hR hM _ c) fun name => .bind hR (spaces_keeps hR) fun sp =>
      .op hR (Op.setLock_keeps Heap.grows_mutating sp isLocked _ name depth c)
  · exact .bind hR (evalExpr_keeps hR hM _ c) fun r =>
      .onHeap hR (Op.lockTo_keeps Heap.grows_mutating isLocked depth r)

omit hM in
theorem forEachTarget_keeps {act : Expr → Run Unit} (hact : ∀ e, Keeps R (act e))
    (targets : List Expr) : Keeps R (forEachTarget act targets) := by
  induction targets with
  | nil => exact .pure hR _
  | cons e rest ih => exact .bind hR (hact e) fun _ => ih

/-! ## Control flow -/

section

omit hM

theorem whileLoop_keeps {condition : Run Bool} {body : Run Signal} (hcondition : Keeps R condition)
    (hbody : Keeps R body) : ∀ fuel, Keeps R (whileLoop condition body fuel)
  | 0 => .throw hR _
  | fuel + 1 => by
      refine .bind hR hcondition fun b => .ite ?_ (.pure hR _)
      refine .bind hR hbody fun signal => ?_
      have ih := whileLoop_keeps hcondition hbody fuel
      cases signal with
      | success | continuing => exact ih
      | breaking | returning _ | failed _ => exact .pure hR _

theorem forText_keeps {turn : Ref → Run Signal} (hturn : ∀ r, Keeps R (turn r)) (text : List Char) :
    Keeps R (forText turn text) := by
  induction text with
  | nil => exact .pure hR _
  | cons ch rest ih =>
      refine .bind hR (.op hR (Op.string_keeps Heap.grows_extending _)) fun r =>
        .bind hR (hturn r) fun signal => ?_
      cases signal with
      | success | continuing => exact ih
      | breaking | returning _ | failed _ => exact .pure hR _

theorem forList_keeps {again : Run Ref} {turn : Ref → Run Signal} (hagain : Keeps R again)
    (hturn : ∀ r, Keeps R (turn r)) :
    ∀ fuel list i, Keeps R (forList again turn fuel list i)
  | 0, _, _ => .throw hR _
  | fuel + 1, list, i => by
      refine .bind hR (.get hR) fun s => ?_
      split
      · exact .pure hR _
      · refine .bind hR (hturn _) fun signal => ?_
        cases signal with
        | success | continuing =>
            refine .bind hR hagain fun next =>
              .bind hR (.op hR (Op.value_keeps Heap.grows_extending next)) fun v => ?_
            split
            · exact forList_keeps hagain hturn fuel next (i + 1)
            · exact .fail hR _
        | breaking | returning _ | failed _ => exact .pure hR _

theorem forEach_keeps {again : Run Ref} {turn : Ref → Run Signal} (hagain : Keeps R again)
    (hturn : ∀ r, Keeps R (turn r)) (fuel : Nat) : Keeps R (forEach again turn fuel) := by
  refine .bind hR hagain fun first =>
    .bind hR (.op hR (Op.value_keeps Heap.grows_extending first)) fun v => ?_
  split
  · exact forText_keeps hR hturn _
  · exact .faulty hR _
  · exact forList_keeps hR hagain hturn fuel first 0
  · exact .fail hR _

/-- Selecting a handler only asks the matcher and writes to the trace. -/
theorem findHandler_keeps (message : String) (handlers : List Handler) :
    Keeps R (findHandler message handlers) := by
  induction handlers with
  | nil => exact .pure hR _
  | cons h rest ih =>
      refine .bind hR (.orFault hR _) fun pattern => ?_
      split
      · exact .pure hR _
      · refine .bind hR (.read hR) fun _ => .bind hR (.result hR _) fun _ => .ite ?_ ih
        exact .bind hR (trace_keeps hR _) fun _ => .pure hR _

theorem handle_keeps (e : ScriptError) {handler : Run Signal} (hhandler : Keeps R handler)
    (c : Context) : Keeps R (handle e handler c) :=
  .bind hR (setVimText_keeps hR _ _) fun _ => .bind hR (throwpoint_keeps hR c) fun _ =>
    .bind hR (setVimText_keeps hR _ _) fun _ => .bind hR (.attempt hhandler) fun _ =>
      .bind hR (setVimText_keeps hR _ _) fun _ => .pure hR _

theorem orderly_keeps (result : Except Stop Signal) : Keeps R (orderly result) := by
  cases result with
  | ok signal => exact .pure hR _
  | error stop => exact .ite (.pure hR _) (.throw hR _)

omit hR in
/-- The body a selection gives is that of one of the handlers. -/
theorem findHandler_yields (message : String) (handlers : List Handler) :
    Yields (fun found => ∀ body, found = some body → ∃ h ∈ handlers, h.body = body)
      (findHandler message handlers) := by
  induction handlers with
  | nil => exact .pure (by rintro body ⟨⟩)
  | cons h rest ih =>
      have hfirst : Yields (fun found => ∀ body, found = some body → ∃ g ∈ h :: rest, g.body = body)
          (pure (some h.body) : Run (Option (Run Signal))) := by
        refine .pure ?_
        rintro body ⟨⟩
        exact ⟨h, List.mem_cons_self, rfl⟩
      refine .after fun pattern => ?_
      split
      · exact hfirst
      · refine .after fun _ => .after fun _ => .ite (.after fun _ => hfirst) ?_
        intro setup s found t hfound body hbody
        obtain ⟨g, hg, hgbody⟩ := ih setup s found t hfound body hbody
        exact ⟨g, List.mem_cons_of_mem h hg, hgbody⟩

/-- What the handlers do about an error. -/
def handleBy (handlers : List Handler) (e : ScriptError) (c : Context) :
    Run (Except Stop Signal) := do
  match ← findHandler e.message handlers with
  | none => return .error (.error e)
  | some handler => do orderly (← handle e handler c)

theorem handleBy_keeps {handlers : List Handler} (hhandlers : ∀ h ∈ handlers, Keeps R h.body)
    (e : ScriptError) (c : Context) : Keeps R (handleBy handlers e c) := by
  refine .bindYields hR (findHandler_keeps hR e.message handlers)
    (findHandler_yields e.message handlers) fun found hfound => ?_
  cases found with
  | none => exact .pure hR _
  | some handler =>
      obtain ⟨h, hh, rfl⟩ := hfound handler rfl
      exact .bind hR (handle_keeps hR e (hhandlers h hh) c) fun _ => orderly_keeps hR _

theorem tryBody_keeps {body : Run Signal} {handlers : List Handler} (hbody : Keeps R body)
    (hhandlers : ∀ h ∈ handlers, Keeps R h.body) (c : Context) :
    Keeps R (tryBody body handlers c) := by
  refine .bind hR (.attempt hbody) fun result => ?_
  split
  · exact handleBy_keeps hR hhandlers _ c
  · exact handleBy_keeps hR hhandlers _ c
  · exact orderly_keeps hR _

theorem tryWith_keeps {body : Run Signal} {handlers : List Handler} {cleanup : Option (Run Signal)}
    (hbody : Keeps R body) (hhandlers : ∀ h ∈ handlers, Keeps R h.body)
    (hcleanup : ∀ x, cleanup = some x → Keeps R x) (c : Context) :
    Keeps R (tryWith body handlers cleanup c) := by
  refine .bind hR (tryBody_keeps hR hbody hhandlers c) fun result => ?_
  cases cleanup with
  | none => exact .ending hR _
  | some final =>
      refine .bind hR (hcleanup final rfl) fun signal => ?_
      split
      · exact .ending hR _
      · exact .pure hR _

end

/-! ## Statements -/

theorem echo_keeps (kind : EchoKind) (args : List Expr) (c : Context) :
    Keeps R (echo M kind args c) := by
  refine .bind hR (.bind hR (evalAll_keeps hR hM args c) fun _ =>
    .bind hR (.op hR (.reading Heap.grows_extending _)) fun _ => .pure hR _) fun text => ?_
  cases kind with
  | error => exact .fail hR _
  | echo | message => exact .bind hR (showMessage_keeps hR text) fun _ => .pure hR _

theorem callStatement_keeps (e : Expr) (range : Option (Expr × Expr)) (c : Context) :
    Keeps R (callStatement M e range c) := by
  have hcall : ∀ lines, Keeps R (do
      let _ ← evalCall M lines e c
      return .success : Run Signal) := fun lines =>
    .bind hR (evalCall_keeps hR hM lines e c) fun _ => .pure hR _
  unfold callStatement
  split
  · exact .bind hR (.pure hR none) hcall
  · exact .bind hR (evalExpr_keeps hR hM _ c) fun _ =>
      .bind hR (.op hR (Op.toNumber_keeps Heap.grows_extending _)) fun _ =>
        .bind hR (evalExpr_keeps hR hM _ c) fun _ =>
          .bind hR (.op hR (Op.toNumber_keeps Heap.grows_extending _)) fun _ =>
            .bind hR (.pure hR _) hcall

omit hM in
theorem parseStatements_keeps (text : String) : Keeps R (parseStatements text) := by
  refine .bind hR (.read hR) fun setup => ?_
  split
  · exact .fail hR _
  · exact .bind hR (.orFault hR _) fun _ => .bind hR (.orFault hR _) fun _ => .pure hR _

omit hM in
theorem texts_keeps (values : List Ref) :
    Keeps R (values.mapM fun r => (Op.toText r : Run String)) := by
  induction values with
  | nil => exact .pure hR _
  | cons r rest ih =>
      rw [List.mapM_cons]
      exact .bind hR (.op hR (Op.toText_keeps Heap.grows_extending r)) fun _ =>
        .bind hR ih fun _ => .pure hR _

theorem executeText_keeps (args : List Expr) (c : Context) : Keeps R (executeText M args c) :=
  .bind hR (evalAll_keeps hR hM args c) fun values => .bind hR (texts_keeps hR values) fun _ =>
    .bind hR (trace_keeps hR _) fun _ => .bind hR (parseStatements_keeps hR _) fun body =>
      hM.execute body c

theorem throwText_keeps (value : Expr) (c : Context) : Keeps R (throwText M value c) :=
  .bind hR (evalExpr_keeps hR hM value c) fun _ =>
    .bind hR (.op hR (Op.toText_keeps Heap.grows_extending _)) fun _ =>
      .ite (.fail hR _) (.fail hR _)

theorem returnValue_keeps (value : Option Expr) (c : Context) :
    Keeps R (returnValue M value c) := by
  refine .failIf hR ?_
  cases value with
  | some e => exact .bind hR (evalExpr_keeps hR hM e c) fun _ => .pure hR _
  | none => exact .bind hR (.op hR (Op.number_keeps Heap.grows_extending 0)) fun _ => .pure hR _

omit hM in
theorem declareEntry_keeps (dict : Ref) (key : String) (signature : Signature) (bang : Bool)
    (body : List Stmt) (c : Context) : Keeps R (declareEntry dict key signature bang body c) := by
  have hdeclare : Keeps R (do
      if ← Op.isLocked dict then fail (.locked key)
      let callee ← modifyGet fun s => ((s.registry.declareNumbered signature body c).1,
        { s with registry := (s.registry.declareNumbered signature body c).2 })
      let f ← Op.alloc (.funcref { callee, arguments := ← Op.list [], self := some dict })
      Run.onHeap (modify fun h => h.modifyTable dict (·.insert key f)) : Run Unit) :=
    .bind hR (.op hR (Op.isLocked_keeps Heap.grows_extending dict)) fun _ => .failIf hR <|
      .bind hR (modifyGetRegistry_keeps hR fun r =>
        r.declareNumbered_changes signature body c) fun _ =>
        .bind hR (.op hR (Op.list_keeps Heap.grows_extending [])) fun _ =>
          .bind hR (.op hR (Op.alloc_keeps Heap.grows_extending _)) fun _ =>
            .onHeap hR (Op.modifyTable_keeps Heap.grows_mutating dict _)
  refine .bind hR (.op hR (Op.value_keeps Heap.grows_extending dict)) fun v => ?_
  split
  · split
    · exact hdeclare
    · refine .bind hR (.op hR (Op.value_keeps Heap.grows_extending _)) fun held => ?_
      split
      · exact .failIf hR hdeclare
      · exact .failBind hR _ _
  · exact .fail hR _

omit hM in
theorem hostCommand_keeps (name : Name) (argument : String) (bang : Bool) :
    Keeps R (hostCommand name argument bang) := by
  refine .bind hR (modifyGetHost_keeps hR fun h => .runCommand h name argument bang) fun r =>
    .bind hR (.orFault hR r) fun answer => ?_
  split
  · exact .pure hR _
  · exact .pure hR _
  · exact .fail hR _

omit hR hM in
mutual

/-- Executing a statement keeps what the nested steps of its machine keep. -/
theorem perform_keeps (hR : Steady R) (hM : M.Keeps R) (c : Context) :
    ∀ s : Stmt, Keeps R (perform M c s)
  | .assign _ target op value => by
      rw [perform]
      exact .bind hR (evalExpr_keeps hR hM value c) fun _ =>
        .bind hR (letTarget_keeps hR hM target op _ c) fun _ => .pure hR _
  | .unlet _ targets bang => by
      rw [perform]
      exact .bind hR (forEachTarget_keeps hR (fun e => unletTarget_keeps hR hM e bang c) targets)
        fun _ => .pure hR _
  | .lock _ targets depth => by
      rw [perform]
      exact .bind hR
        (forEachTarget_keeps hR (fun e => lockTarget_keeps hR hM true depth e c) targets)
        fun _ => .pure hR _
  | .unlock _ targets depth => by
      rw [perform]
      exact .bind hR
        (forEachTarget_keeps hR (fun e => lockTarget_keeps hR hM false depth e c) targets)
        fun _ => .pure hR _
  | .echo _ kind args => by rw [perform]; exact echo_keeps hR hM kind args c
  | .call _ e range => by rw [perform]; exact callStatement_keeps hR hM e range c
  | .execute _ args => by rw [perform]; exact executeText_keeps hR hM args c
  | .conditional _ branches otherwise => by
      rw [perform]; exact execBranches_keeps hR hM c (execOption_keeps hR hM c otherwise) branches
  | .whileLoop _ condition body => by
      rw [perform]
      refine whileLoop_keeps hR ?_ (execAll_keeps hR hM c body) M.fuel
      exact .bind hR (evalExpr_keeps hR hM condition c) fun _ =>
        .op hR (Op.toBool_keeps Heap.grows_extending _)
  | .forLoop _ target iterable body => by
      rw [perform]
      refine forEach_keeps hR (evalExpr_keeps hR hM iterable c) (fun item => ?_) M.fuel
      exact .bind hR (assign_keeps hR hM target .set item c) fun _ => execAll_keeps hR hM c body
  | .forUnpack _ targets iterable body => by
      rw [perform]
      refine forEach_keeps hR (evalExpr_keeps hR hM iterable c) (fun item => ?_) M.fuel
      exact .bind hR (unpack_keeps hR hM targets .set item c) fun _ => execAll_keeps hR hM c body
  | .tryCatch _ body clauses cleanup => by
      rw [perform]
      exact tryWith_keeps hR (execAll_keeps hR hM c body) (execClauses_keeps hR hM c clauses)
        (execCleanup_keeps hR hM c cleanup) c
  | .throw _ value => by rw [perform]; exact throwText_keeps hR hM value c
  | .returning _ value => by rw [perform]; exact returnValue_keeps hR hM value c
  | .breaking => by rw [perform]; exact .pure hR _
  | .continuing => by rw [perform]; exact .pure hR _
  | .finish => by rw [perform]; exact .throw hR _
  | .function _ scope name signature bang body => by
      rw [perform]
      exact changeRegistry_keeps hR (fun r => r.declare_changes scope name signature bang body c)
        (.pure hR _)
  | .dictFunction _ target key signature bang body => by
      rw [perform]
      exact .bind hR (evalExpr_keeps hR hM target c) fun _ =>
        .bind hR (declareEntry_keeps hR _ _ signature bang body c) fun _ => .pure hR _
  | .delFunction _ scope name bang => by
      rw [perform]
      exact changeRegistry_keeps hR (fun r => r.delete_changes scope name bang c.script)
        (.pure hR _)
  | .command _ name argument bang => by
      rw [perform]; exact hostCommand_keeps hR name argument bang

theorem execAll_keeps (hR : Steady R) (hM : M.Keeps R) (c : Context) :
    ∀ body : List Stmt, Keeps R (execAll M c body)
  | [] => by rw [execAll]; exact .pure hR _
  | s :: rest => by
      rw [execAll]
      refine .bind hR (setSite_keeps hR _) fun _ =>
        .bind hR (perform_keeps hR hM c s) fun signal => ?_
      split
      · exact execAll_keeps hR hM c rest
      · exact .pure hR _

theorem execOption_keeps (hR : Steady R) (hM : M.Keeps R) (c : Context) :
    ∀ body : Option (List Stmt), Keeps R (execOption M c body)
  | none => by rw [execOption]; exact .pure hR _
  | some body => by rw [execOption]; exact execAll_keeps hR hM c body

theorem execBranches_keeps (hR : Steady R) (hM : M.Keeps R) (c : Context)
    {otherwise : Run Signal} (hother : Keeps R otherwise) :
    ∀ branches : List Branch, Keeps R (execBranches M c otherwise branches)
  | [] => by rw [execBranches]; exact hother
  | .mk condition body :: rest => by
      rw [execBranches]
      exact .bind hR (evalExpr_keeps hR hM condition c) fun _ =>
        .bind hR (.op hR (Op.toBool_keeps Heap.grows_extending _)) fun _ =>
          .ite (execAll_keeps hR hM c body) (execBranches_keeps hR hM c hother rest)

theorem execClauses_keeps (hR : Steady R) (hM : M.Keeps R) (c : Context) :
    ∀ (clauses : List Clause), ∀ h ∈ execClauses M c clauses, Keeps R h.body
  | [], h, hh => by simp [execClauses] at hh
  | .mk pattern body :: rest, h, hh => by
      rw [execClauses, List.mem_cons] at hh
      rcases hh with rfl | hh
      · exact execAll_keeps hR hM c body
      · exact execClauses_keeps hR hM c rest h hh

theorem execCleanup_keeps (hR : Steady R) (hM : M.Keeps R) (c : Context) :
    ∀ (cleanup : Option (List Stmt)) (x : Run Signal), execCleanup M c cleanup = some x → Keeps R x
  | none, x, hx => by simp [execCleanup] at hx
  | some body, x, hx => by
      rw [execCleanup, Option.some.injEq] at hx
      rw [← hx]
      exact execAll_keeps hR hM c body

end

theorem exec_keeps (c : Context) (s : Stmt) : Keeps R (exec M c s) :=
  .bind hR (setSite_keeps hR _) fun _ => perform_keeps hR hM c s

end Vimscript
