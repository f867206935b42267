import Vimscript.Eval.Call
import Vimscript.Proofs.Eval.Keeping
import Vimscript.Proofs.Library.Keeping

/-!
# What calls keep

The built-in functions that call others, the calls of declared functions,
and with them the whole interpreter. A call adds its name to the stack and
takes it off again; `Steady.call` is what a relation has to allow for that.

The machine of `n + 1` nested steps makes each of them with the machine of
`n`, so that what a relation needs is proved for all of them by induction
on the number of steps (`Machine.ofFuel_keeps`): every steady relation is
kept by every run.
-/

namespace Vimscript

open Run

variable {R : State → State → Prop} (hR : Steady R) {M : Machine} (hM : M.Keeps R)
include hR

namespace Library

/-! ## Making and calling Funcrefs -/

theorem makeFuncref_keeps (kind : FuncrefKind) (name : Ref) (arguments self : Option Ref)
    (c : Context) : Keeps R (makeFuncref kind name arguments self c) := by
  refine .bind hR (.op hR (funcrefOptions_keeps Heap.grows_mutating arguments self)) ?_
  rintro ⟨arguments, self⟩
  refine .bind hR (.op hR (listArgument_keeps Heap.grows_mutating arguments)) fun items =>
    .bind hR (.op hR (dictArgument_keeps Heap.grows_mutating self)) fun _ =>
      .bind hR (.op hR (Op.value_keeps Heap.grows_extending name)) fun v => ?_
  -- Whether a Dictionary is given only decides what the Funcref looks like in the end.
  cases self with
  | none | some d =>
      cases v with
      | funcref f =>
          cases items with
          | none => exact .bind hR (.pure hR _) fun _ => .pure hR _
          | some items =>
              exact .bind hR (.get hR) fun _ =>
                .bind hR (.op hR (Op.list_keeps Heap.grows_extending _)) fun _ =>
                  .bind hR (.pure hR _) fun _ => .pure hR _
      | _ =>
          refine .bind hR (.result hR _) fun text => ?_
          obtain ⟨scope, bare⟩ := splitScope text
          refine .bind hR (registry_keeps hR) fun r => ?_
          cases r.lookup? scope (.text bare) c.script with
          | none => exact .failBind hR _ _
          | some callee =>
              exact .bind hR (.op hR (Op.list_keeps Heap.grows_extending _)) fun _ =>
                .bind hR (.pure hR _) fun _ => .pure hR _

theorem newFuncref_keeps (kind : FuncrefKind) (name : Ref) (arguments self : Option Ref)
    (c : Context) : Keeps R (newFuncref kind name arguments self c) :=
  .bind hR (makeFuncref_keeps hR kind name arguments self c) fun _ =>
    .op hR (Op.alloc_keeps Heap.grows_extending _)

include hM in
theorem call_keeps (function arguments : Ref) (self : Option Ref) (c : Context) :
    Keeps R (call M function arguments self c) := by
  refine .bind hR (.op hR (Op.value_keeps Heap.grows_extending arguments)) fun given => ?_
  split
  · refine .bind hR (.pure hR _) fun args =>
      .bind hR (.op hR (dictArgument_keeps Heap.grows_mutating self)) fun _ =>
        .bind hR (.op hR (Op.value_keeps Heap.grows_extending function)) fun v => ?_
    split
    · exact callFuncref_keeps hR hM _ args none c
    · exact callByName_keeps hR hM _ _ args self none c
    · exact .fail hR _
  · exact .failBind hR _ _

/-! ## Callbacks -/

theorem parseExpression_keeps (text : String) : Keeps R (parseExpression text) := by
  refine .bind hR (.read hR) fun setup => ?_
  split
  · exact .fail hR _
  · exact .bind hR (.orFault hR _) fun _ => .orFault hR _

theorem dropVim_keeps (name : String) : Keeps R (dropVim name) := by
  refine .bind hR (spaces_keeps hR) fun sp => .bind hR (.get hR) fun s => .ite ?_ (.faulty hR _)
  exact .op hR (Op.setValue_keeps Heap.grows_mutating sp.vim _)

include hM in
theorem evalWithItem_keeps (e : Expr) (c : Context) (key value : Ref) :
    Keeps R (evalWithItem M e c key value) :=
  .bind hR (spaces_keeps hR) fun sp =>
    .bind hR (.op hR (Op.setVim_keeps Heap.grows_mutating sp "key" key)) fun _ =>
      .bind hR (.op hR (Op.setVim_keeps Heap.grows_mutating sp "val" value)) fun _ =>
        .bind hR (.attempt (hM.evaluate e c)) fun _ => .bind hR (dropVim_keeps hR _) fun _ =>
          .bind hR (dropVim_keeps hR _) fun _ => .ending hR _

theorem callback_keeps (function : Ref) (c : Context) : Keeps R (callback M function c) := by
  refine .bind hR (.op hR (Op.value_keeps Heap.grows_extending function)) fun v => ?_
  split
  · exact .pure hR _
  · exact .bind hR (.result hR _) fun _ => .bind hR (parseExpression_keeps hR _) fun _ => .pure hR _

include hM in
/-- Every callback is a call or an evaluation of the machine. -/
theorem callback_yields (function : Ref) (c : Context) :
    Yields (fun act => ∀ key value, Keeps R (act key value)) (callback M function c) := by
  refine .after fun v => ?_
  split
  · exact .pure fun key value => callFuncref_keeps hR hM _ [key, value] none c
  · exact .after fun _ => .after fun e => .pure fun key value =>
      evalWithItem_keeps hR hM e c key value

variable {act : Ref → Ref → Run Ref} (hact : ∀ key value, Keeps R (act key value))

section

include hact

theorem mapItems_keeps : ∀ (i : Nat) (items : List Ref), Keeps R (mapItems act i items)
  | _, [] => .pure hR _
  | i, item :: rest =>
      .bind hR (.op hR (Op.number_keeps Heap.grows_extending _)) fun _ =>
        .bind hR (hact _ item) fun _ => .bind hR (mapItems_keeps (i + 1) rest) fun _ => .pure hR _

theorem filterItems_keeps : ∀ (i : Nat) (items : List Ref), Keeps R (filterItems act i items)
  | _, [] => .pure hR _
  | i, item :: rest =>
      .bind hR (.op hR (Op.number_keeps Heap.grows_extending _)) fun _ =>
        .bind hR (hact _ item) fun _ =>
          .bind hR (.op hR (Op.toBool_keeps Heap.grows_extending _)) fun _ =>
            .bind hR (filterItems_keeps (i + 1) rest) fun _ => .pure hR _

theorem mapEntries_keeps (r : Ref) (entries : List (String × Ref)) :
    Keeps R (mapEntries act r entries) := by
  induction entries with
  | nil => exact .pure hR _
  | cons entry rest ih =>
      exact .bind hR (.op hR (Op.string_keeps Heap.grows_extending _)) fun _ =>
        .bind hR (hact _ _) fun _ =>
          .bind hR (.onHeap hR (Op.modifyTable_keeps Heap.grows_mutating r _)) fun _ => ih

theorem filterEntries_keeps (r : Ref) (entries : List (String × Ref)) :
    Keeps R (filterEntries act r entries) := by
  induction entries with
  | nil => exact .pure hR _
  | cons entry rest ih =>
      refine .bind hR (.op hR (Op.string_keeps Heap.grows_extending _)) fun _ =>
        .bind hR (hact _ _) fun _ =>
          .bind hR (.op hR (Op.toBool_keeps Heap.grows_extending _)) fun keep => .ite ?_ ih
      refine .bind hR (.get hR) fun _ => .ite ?_ (.bind hR (.faulty hR _) fun _ => ih)
      exact .bind hR (.onHeap hR (Op.modifyTable_keeps Heap.grows_mutating r _)) fun _ => ih

end

include hM in
theorem overContainer_keeps (fname : String) (r function : Ref) (c : Context)
    {onItems : (Ref → Ref → Run Ref) → Nat → List Ref → Run (List Ref)}
    {onEntries : (Ref → Ref → Run Ref) → Ref → List (String × Ref) → Run Unit}
    (hitems : ∀ {act}, (∀ key value, Keeps R (act key value)) → ∀ i items,
      Keeps R (onItems act i items))
    (hentries : ∀ {act}, (∀ key value, Keeps R (act key value)) → ∀ r entries,
      Keeps R (onEntries act r entries)) :
    Keeps R (overContainer M fname r function c onItems onEntries) := by
  have hcallback : ∀ {α : Type} {f : (Ref → Ref → Run Ref) → Run α},
      (∀ act, (∀ key value, Keeps R (act key value)) → Keeps R (f act)) →
        Keeps R (callback M function c >>= f) :=
    .bindYields hR (callback_keeps hR function c) (callback_yields hR hM function c)
  refine .bind hR (.op hR (Op.value_keeps Heap.grows_extending r)) fun v => ?_
  split
  · refine .bind hR (.op hR (Op.isLocked_keeps Heap.grows_extending r)) fun _ =>
      .failIf hR (hcallback fun act hact => ?_)
    exact .bind hR (hitems hact _ _) fun _ =>
      .bind hR (.op hR (Op.setValue_keeps Heap.grows_mutating r _)) fun _ => .pure hR _
  · refine .bind hR (.op hR (Op.isLocked_keeps Heap.grows_extending r)) fun _ =>
      .failIf hR (hcallback fun act hact => ?_)
    exact .bind hR (hentries hact r _) fun _ => .pure hR _
  · exact .fail hR _

include hM in
theorem map_keeps (r function : Ref) (c : Context) : Keeps R (map M r function c) :=
  overContainer_keeps hR hM _ r function c (mapItems_keeps hR) (mapEntries_keeps hR)

include hM in
theorem filter_keeps (r function : Ref) (c : Context) : Keeps R (filter M r function c) :=
  overContainer_keeps hR hM _ r function c (filterItems_keeps hR) (filterEntries_keeps hR)

/-! ## Sorting -/

theorem mergeM_keeps {le : Ref → Ref → Run Bool} (hle : ∀ a b, Keeps R (le a b))
    (as bs : List Ref) : Keeps R (mergeM le as bs) := by
  fun_induction mergeM le as bs with
  | case1 bs => exact .pure hR _
  | case2 as => exact .pure hR _
  | case3 a as b bs ih₁ ih₂ =>
      refine .bind hR (hle a b) fun _ => .ite ?_ ?_
      · exact .bind hR ih₁ fun _ => .pure hR _
      · exact .bind hR ih₂ fun _ => .pure hR _

theorem mergeSortM_keeps {le : Ref → Ref → Run Bool} (hle : ∀ a b, Keeps R (le a b))
    (items : List Ref) : Keeps R (mergeSortM le items) := by
  fun_induction mergeSortM le items with
  | case1 items => exact .pure hR _
  | case2 items _ ih₁ ih₂ =>
      exact .bind hR ih₁ fun _ => .bind hR ih₂ fun _ => mergeM_keeps hR hle _ _

theorem sortMode_keeps (how : Option Ref) : Keeps R (sortMode how) := by
  cases how with
  | none => exact .pure hR _
  | some r =>
      refine .bind hR (.op hR (Op.value_keeps Heap.grows_extending r)) fun v => ?_
      split
      · exact .pure hR _
      · exact .pure hR _
      · exact .bind hR (.result hR _) fun _ => .bind hR (.orFault hR _) fun _ => .pure hR _

theorem comparator_keeps (how : Ref) (self : Option Ref) (c : Context) :
    Keeps R (comparator how self c) := by
  have hfinish : ∀ f : Funcref, Keeps R (do
      dictArgument self
      return { f with self := self <|> f.self } : Run Funcref) := fun f =>
    .bind hR (.op hR (dictArgument_keeps Heap.grows_mutating self)) fun _ => .pure hR _
  refine .bind hR (.op hR (Op.value_keeps Heap.grows_extending how)) fun v => ?_
  split
  · exact .bind hR (.pure hR _) hfinish
  · exact .bind hR (makeFuncref_keeps hR _ how none none c) hfinish

include hM in
theorem sort_keeps (r : Ref) (how self : Option Ref) (c : Context) :
    Keeps R (sort M r how self c) := by
  have hstore : ∀ sorted : List Ref, Keeps R (do
      Op.setValue r (.list sorted)
      return r : Run Ref) := fun sorted =>
    .bind hR (.op hR (Op.setValue_keeps Heap.grows_mutating r _)) fun _ => .pure hR _
  refine .bind hR (.op hR (Op.value_keeps Heap.grows_extending r)) fun v => ?_
  split
  · refine .bind hR (.op hR (Op.isLocked_keeps Heap.grows_extending r)) fun _ =>
      .failIf hR (.bind hR (sortMode_keeps hR how) fun key => ?_)
    split
    · refine .bind hR (comparator_keeps hR _ self c) fun f =>
        .bind hR (mergeSortM_keeps hR (fun a b => ?_) _) hstore
      exact .bind hR (callFuncref_keeps hR hM f [a, b] none c) fun _ =>
        .bind hR (.op hR (Op.toNumber_keeps Heap.grows_extending _)) fun _ => .pure hR _
    · exact .bind hR (.op hR (.reading Heap.grows_extending _)) hstore
  · exact .fail hR _

/-! ## Variables and the host -/

theorem islocked_keeps (r : Ref) (c : Context) : Keeps R (islocked r c) := by
  refine .bind hR (.op hR (Op.toText_keeps Heap.grows_extending r)) fun text => ?_
  cases readPlace? text with
  | none => exact .fail hR _
  | some place =>
      obtain ⟨written, steps⟩ := place
      refine .bind hR (spaces_keeps hR) fun sp => ?_
      obtain ⟨scope, name⟩ := splitScope written
      refine .bind hR (.op hR (Op.get?_keeps Heap.grows_extending sp scope name c)) fun found => ?_
      cases found with
      | none => exact .op hR (Op.number_keeps Heap.grows_extending _)
      | some held =>
          refine .ite ?_ ?_
          · exact .bind hR (.op hR (Op.isNameLocked_keeps Heap.grows_extending sp scope name c))
              fun _ => .op hR (Op.truth_keeps Heap.grows_extending _)
          · exact .bind hR (.op hR (follow_keeps Heap.grows_mutating held steps)) fun _ =>
              .bind hR (.op hR (Op.isLocked_keeps Heap.grows_extending _)) fun _ =>
                .op hR (Op.truth_keeps Heap.grows_extending _)

theorem existsName_keeps (r : Ref) (c : Context) : Keeps R (existsName r c) := by
  have htruth : ∀ b, Keeps R (liftM (Op.truth b) : Run Ref) := fun b =>
    .op hR (Op.truth_keeps Heap.grows_extending b)
  refine .bind hR (.op hR (Op.toText_keeps Heap.grows_extending r)) fun text => ?_
  split
  · exact .bind hR (host_keeps hR) fun _ => htruth _
  · exact .bind hR (host_keeps hR) fun _ => htruth _
  · exact .bind hR (registry_keeps hR) fun _ => htruth _
  · exact .bind hR (spaces_keeps hR) fun sp =>
      .bind hR (.op hR (Op.isDefined_keeps Heap.grows_extending sp _ _ c)) htruth

theorem line_keeps (r : Ref) : Keeps R (line r) :=
  .bind hR (.op hR (Op.toText_keeps Heap.grows_extending r)) fun _ => .bind hR (host_keeps hR)
    fun _ => .op hR (Op.number_keeps Heap.grows_extending _)

theorem col_keeps (r : Ref) : Keeps R (col r) :=
  .bind hR (.op hR (Op.toText_keeps Heap.grows_extending r)) fun _ => .bind hR (host_keeps hR)
    fun _ => .op hR (Op.number_keeps Heap.grows_extending _)

theorem input_keeps (prompt fallback : Option Ref) : Keeps R (input prompt fallback) :=
  .bind hR (.op hR (Op.toTextD_keeps Heap.grows_extending "" prompt)) fun prompt =>
    .bind hR (.op hR (Op.toTextD_keeps Heap.grows_extending "" fallback)) fun fallback =>
      .bind hR (modifyGetHost_keeps hR fun h => .ask h prompt fallback) fun _ =>
        .op hR (Op.string_keeps Heap.grows_extending _)

end Library

include hM in
/-- A built-in function keeps what the nested steps of its machine keep. -/
theorem Builtin.apply_keeps (b : Builtin) (args : List Ref) (c : Context) :
    Keeps R (b.apply M args c) := by
  unfold Builtin.apply
  split
  · exact Library.input_keeps hR _ _
  · exact .op hR (Library.abs_keeps Heap.grows_mutating _)
  · exact .op hR (Library.add_keeps Heap.grows_mutating _ _)
  · exact Library.call_keeps hR hM _ _ _ c
  · exact Library.col_keeps hR _
  · exact .op hR (Op.copy_keeps Heap.grows_mutating _ _)
  · exact .op hR (Library.count_keeps Heap.grows_mutating _ _ _ _)
  · exact .op hR (Op.copy_keeps Heap.grows_mutating _ _)
  · exact .op hR (Library.empty_keeps Heap.grows_mutating _)
  · exact Library.existsName_keeps hR _ c
  · exact .op hR (Library.extend_keeps Heap.grows_mutating _ _ _)
  · exact Library.filter_keeps hR hM _ _ c
  · exact .op hR (Library.float2nr_keeps Heap.grows_mutating _)
  · exact Library.newFuncref_keeps hR _ _ _ _ c
  · exact Library.newFuncref_keeps hR _ _ _ _ c
  · exact .op hR (Library.getItem_keeps Heap.grows_mutating _ _ _)
  · exact .op hR (Library.hasKey_keeps Heap.grows_mutating _ _)
  · exact .op hR (Library.index_keeps Heap.grows_mutating _ _ _ _)
  · exact .op hR (Library.insert_keeps Heap.grows_mutating _ _ _)
  · exact Library.islocked_keeps hR _ c
  · exact .op hR (Library.items_keeps Heap.grows_mutating _)
  · exact .op hR (Library.join_keeps Heap.grows_mutating _ _)
  · exact .op hR (Library.keys_keeps Heap.grows_mutating _)
  · exact .op hR (Library.len_keeps Heap.grows_mutating _)
  · exact Library.line_keeps hR _
  · exact Library.map_keeps hR hM _ _ c
  · exact .op hR (Library.maximum_keeps Heap.grows_mutating _)
  · exact .op hR (Library.minimum_keeps Heap.grows_mutating _)
  · exact .op hR (Library.range_keeps Heap.grows_mutating _ _ _)
  · exact .op hR (Library.remove_keeps Heap.grows_mutating _ _ _)
  · exact .op hR (Library.replicate_keeps Heap.grows_mutating _ _)
  · exact .op hR (Library.reverse_keeps Heap.grows_mutating _)
  · exact Library.sort_keeps hR hM _ _ _ c
  · exact .op hR (Library.split_keeps Heap.grows_mutating _ _ _)
  · exact .op hR (Library.str2float_keeps Heap.grows_mutating _)
  · exact .op hR (Library.str2nr_keeps Heap.grows_mutating _ _)
  · exact .op hR (Library.stringOf_keeps Heap.grows_mutating _)
  · exact .op hR (Library.tolower_keeps Heap.grows_mutating _)
  · exact .op hR (Library.toupper_keeps Heap.grows_mutating _)
  · exact .op hR (Library.trim_keeps Heap.grows_mutating _ _ _)
  · exact .op hR (Library.typeOf_keeps Heap.grows_mutating _)
  · exact .op hR (Library.values_keeps Heap.grows_mutating _)
  · exact .op hR (Op.number_keeps Heap.grows_extending 0)

/-! ## Calling declared functions -/

omit hR in
theorem bindArgument_keeps (arguments : Ref) (name : String) (value : Ref) :
    Op.Keeps Heap.Grows (bindArgument arguments name value) :=
  Op.modifyTable_keeps Heap.grows_mutating arguments _

omit hR in
theorem bindEach_keeps (arguments : Ref) (pairs : List (String × Ref)) :
    Op.Keeps Heap.Grows (bindEach arguments pairs) := by
  induction pairs with
  | nil => exact .pure Heap.grows_extending _
  | cons pair rest ih =>
      exact .bind Heap.grows_extending (bindArgument_keeps arguments _ _) fun _ => ih

omit hR in
theorem bindExtra_keeps (arguments : Ref) (extra : List Ref) :
    Op.Keeps Heap.Grows (bindExtra arguments extra) :=
  .bind Heap.grows_extending (Op.list_keeps Heap.grows_extending extra) fun _ =>
    .bind Heap.grows_extending (bindArgument_keeps arguments _ _) fun _ =>
      .bind Heap.grows_extending (Op.number_keeps Heap.grows_extending _) fun _ =>
        .bind Heap.grows_extending (bindArgument_keeps arguments _ _) fun _ =>
          bindEach_keeps arguments _

omit hR in
theorem makeFrame_keeps (d : Declaration) (self : Option Ref) :
    Op.Keeps Heap.Grows (makeFrame d self) :=
  .bind Heap.grows_extending (Op.alloc_keeps Heap.grows_extending _) fun _ =>
    .bind Heap.grows_extending (Op.alloc_keeps Heap.grows_extending _) fun _ =>
      .pure Heap.grows_extending _

include hM in
theorem bindDefaults_keeps (arguments : Ref) (c : Context) :
    ∀ (defaults : List (Name × Expr)) (left : List Ref),
      Keeps R (bindDefaults M arguments c defaults left)
  | [], _ => by rw [bindDefaults]; exact .pure hR _
  | (name, _) :: rest, value :: left => by
      rw [bindDefaults]
      exact .bind hR (.op hR (bindArgument_keeps arguments _ value)) fun _ =>
        bindDefaults_keeps arguments c rest left
  | (name, e) :: rest, [] => by
      rw [bindDefaults]
      exact .bind hR (evalTop_keeps hR hM e c) fun _ =>
        .bind hR (.op hR (bindArgument_keeps arguments _ _)) fun _ =>
          bindDefaults_keeps arguments c rest []

include hM in
theorem bindArguments_keeps (d : Declaration) (args : List Ref) (arguments : Ref)
    (lines : Int × Int) (c : Context) : Keeps R (bindArguments M d args arguments lines c) := by
  have hlines : Keeps R (do
      bindArgument arguments "firstline" (← Op.number lines.1)
      bindArgument arguments "lastline" (← Op.number lines.2)
      let bound := ((← get).heap.table arguments).keys
      trace ["Bind arguments", d.name.asText,
        "[" ++ ", ".intercalate (bound.map Text.quoted) ++ "]"] : Run Unit) :=
    .bind hR (.op hR (Op.number_keeps Heap.grows_extending _)) fun _ =>
      .bind hR (.op hR (bindArgument_keeps arguments _ _)) fun _ =>
        .bind hR (.op hR (Op.number_keeps Heap.grows_extending _)) fun _ =>
          .bind hR (.op hR (bindArgument_keeps arguments _ _)) fun _ =>
            .bind hR (.get hR) fun _ => trace_keeps hR _
  refine .bind hR (.op hR (bindEach_keeps arguments _)) fun _ =>
    .bind hR (bindDefaults_keeps hR hM arguments c _ _) fun _ => .ite ?_ hlines
  exact .bind hR (.op hR (bindExtra_keeps arguments _)) fun _ => hlines

theorem runThrough_keeps {body : List (Run Signal)} (hbody : ∀ x ∈ body, Keeps R x) :
    Keeps R (runThrough body) := by
  induction body with
  | nil => exact .op hR (Op.number_keeps Heap.grows_extending 0)
  | cons x rest ih =>
      have hrest := ih fun y hy => hbody y (List.mem_cons_of_mem x hy)
      refine .bind hR (.attempt (hbody x List.mem_cons_self)) fun result => ?_
      split
      · exact hrest
      · exact .pure hR _
      · exact .bind hR (report_keeps hR _) fun _ => hrest
      · exact .bind hR (report_keeps hR _) fun _ => hrest
      · exact .bind hR (report_keeps hR _) fun _ => hrest
      · exact .bind hR (report_keeps hR _) fun _ => hrest
      · exact .throw hR _

theorem abortValue_keeps (signal : Signal) : Keeps R (abortValue signal) := by
  cases signal with
  | success => exact .op hR (Op.number_keeps Heap.grows_extending 0)
  | returning value => exact .pure hR _
  | breaking | continuing => exact .fail hR _
  | failed e =>
      exact .bind hR (report_keeps hR e) fun _ => .op hR (Op.number_keeps Heap.grows_extending 0)

include hM in
theorem runBody_keeps (d : Declaration) (c : Context) : Keeps R (runBody M d c) := by
  refine .ite (.bind hR (execAll_keeps hR hM c d.body) fun _ => abortValue_keeps hR _) ?_
  refine runThrough_keeps hR fun x hx => ?_
  obtain ⟨s, -, rfl⟩ := List.mem_map.1 hx
  exact exec_keeps hR hM c s

omit hR in
/-- A call that would be nested too deeply does nothing. -/
theorem withCall_of_full (name : String) (c : Context) (x : Run Ref) {setup : Setup} {s : State}
    (h : setup.maxDepth ≤ s.calls.length) :
    withCall name c x setup s = (.error (.ofCause .callDepth), s) := by
  change (if setup.maxDepth ≤ s.calls.length then _ else _ : Run Ref) setup s = _
  rw [if_pos h]
  rfl

omit hR in
/-- Any other call runs with its name on the stack, which is taken off again however the call
ends. -/
theorem withCall_of_room (name : String) (c : Context) (x : Run Ref) {setup : Setup} {s : State}
    (h : s.calls.length < setup.maxDepth) :
    withCall name c x setup s =
      let (result, t) := x setup { s with calls := name :: s.calls }
      (result.mapError (Stop.leaving (placeOf c t)), { t with calls := t.calls.tail }) := by
  rcases hx : x setup { s with calls := name :: s.calls } with ⟨result, t⟩
  have hlocated :
      located c result setup t = (.ok (result.mapError (Stop.leaving (placeOf c t))), t) :=
    bind_of_ok (throwpoint_eq c setup t)
  change (if setup.maxDepth ≤ s.calls.length then _ else _ : Run Ref) setup s = _
  rw [if_neg (Int.not_le.2 h)]
  rw [bind_of_ok (t := { s with calls := name :: s.calls }) rfl, bind_of_ok (attempt_eq hx),
    bind_of_ok hlocated]
  rfl

theorem withCall_keeps (name : String) (c : Context) {x : Run Ref} (hx : Keeps R x) :
    Keeps R (withCall name c x) := by
  intro setup s
  by_cases h : setup.maxDepth ≤ s.calls.length
  · rw [withCall_of_full name c x h]
    exact hR.refl s
  · rw [withCall_of_room name c x (Int.not_le.1 h)]
    exact hR.call name (hx setup { s with calls := name :: s.calls })

include hM in
theorem runDeclared_keeps (d : Declaration) (args : List Ref) (self : Option Ref)
    (lines : Int × Int) : Keeps R (runDeclared M d args self lines) := by
  refine .bind hR (.op hR (makeFrame_keeps d self)) fun frame => withCall_keeps hR _ _ ?_
  exact .bind hR (bindArguments_keeps hR hM d args _ lines _) fun _ => runBody_keeps hR hM d _

theorem forLines_keeps {once : Run Ref} (honce : Keeps R once) :
    ∀ (count : Nat) (line : Int) (last : Ref), Keeps R (forLines once count line last)
  | 0, _, _ => .pure hR _
  | count + 1, line, _ =>
      .bind hR (modifyHost_keeps hR fun h => .setCurrentLine h line) fun _ =>
        .bind hR honce fun _ => forLines_keeps honce count (line + 1) _

include hM in
theorem callDeclared_keeps (d : Declaration) (call : Call) : Keeps R (callDeclared M d call) := by
  refine .failIf hR ?_
  cases call.range with
  | none => exact .bind hR (host_keeps hR) fun _ => runDeclared_keeps hR hM d _ _ _
  | some lines =>
      refine .ite (runDeclared_keeps hR hM d _ _ _) ?_
      exact .bind hR (.op hR (Op.number_keeps Heap.grows_extending 0)) fun _ =>
        forLines_keeps hR (runDeclared_keeps hR hM d _ _ _) _ _ _

include hM in
theorem callFunction_keeps (call : Call) : Keeps R (callFunction M call) := by
  refine .bind hR (registry_keeps hR) fun r => .bind hR (.orFail hR _) fun _ => ?_
  split
  · exact Builtin.apply_keeps hR hM _ _ _
  · split
    · exact callDeclared_keeps hR hM _ call
    · exact .fail hR _

/-- A relation that allows every step is kept by every run, whatever the number of nested steps. -/
theorem Machine.ofFuel_keeps (n : Nat) : (Machine.ofFuel n).Keeps R := by
  induction n with
  | zero => exact Machine.halted_keeps hR
  | succ n ih =>
      exact {
        invoke := fun call => callFunction_keeps hR ih call
        evaluate := fun e c => evalTop_keeps hR ih e c
        execute := fun body c => execAll_keeps hR ih c body }

end Vimscript
