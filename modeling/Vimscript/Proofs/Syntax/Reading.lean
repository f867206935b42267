import Vimscript.Proofs.Syntax.Written

/-!
# Reading the trees of code

A tree of some code is read as exactly this code, with its places. Each
field has a lemma that says what the reader makes of it; the rest is an
induction over the code. Every case opens the node, says how each of its
parts is read, and then runs the reader on its tag.

The reader counts the levels that it may still descend. The depth of the
data is enough: the fields of a node are one level less deep than the node
(`Tagged.parts`), so the count never ends before the tree does.
-/

namespace Vimscript

open Reader (Fields Read)

/-! ## The depth of fields -/

namespace Data

theorem one_le_depthEntries : ∀ fields : Fields, 1 ≤ depthEntries fields
  | [] => Nat.le_refl 1
  | (_, _) :: rest => by
      rw [depthEntries]
      exact Nat.le_trans (one_le_depthEntries rest) (Nat.le_max_right _ _)

theorem depth_le_of_lookup? {name : String} {d : Data} : ∀ {fields : Fields},
    lookup? name fields = some d → d.depth ≤ depthEntries fields
  | (key, value) :: rest, h => by
      have hrest : lookup? name rest = some d → d.depth ≤ max value.depth (depthEntries rest) :=
        fun h => Nat.le_trans (depth_le_of_lookup? h) (Nat.le_max_right _ _)
      rw [depthEntries]
      cases key with
      | text k =>
          rw [lookup?] at h
          split at h
          · cases h
            exact Nat.le_max_left _ _
          · exact hrest h
      | null | bool _ | int _ | float _ => exact hrest h

theorem depthAll_le_of_list {ds : List Data} {n : Nat} (h : (Data.list ds).depth ≤ n) :
    depthAll ds ≤ n := by
  rw [depth] at h
  exact Nat.le_of_succ_le h

theorem depthEntries_le_of_map {fields : Fields} {n : Nat} (h : (Data.map fields).depth ≤ n) :
    depthEntries fields ≤ n := by
  rw [depth] at h
  exact Nat.le_of_succ_le h

theorem depthAll_cons_le {d : Data} {ds : List Data} {n : Nat} (h : depthAll (d :: ds) ≤ n) :
    d.depth ≤ n ∧ depthAll ds ≤ n := by
  rw [depthAll] at h
  exact Nat.max_le.mp h

theorem one_le_depth (d : Data) : 1 ≤ d.depth := by
  cases d <;> simp [depth]

theorem depthAll_singleton_le {d : Data} {n : Nat} (h : d.depth ≤ n) : depthAll [d] ≤ n :=
  Nat.max_le.mpr ⟨h, Nat.le_trans d.one_le_depth h⟩

end Data

/-! ## Fields -/

theorem ok_bind {α β : Type} (a : α) (g : α → Read β) : (Except.ok a >>= g) = g a := rfl

section Fields

variable {fields : Fields} {name : String} {n : Nat} {α : Type} {a : α}

theorem Omitted.optional? (h : Omitted fields name) : Reader.optional? fields name = none := by
  rw [Reader.optional?]
  rcases h with h | h <;> rw [h]

theorem Omitted.items (h : Omitted fields name) : Reader.items fields name = .ok [] := by
  rw [Reader.items]
  rcases h with h | h <;> rw [h]
  rfl

theorem Omitted.flag (h : Omitted fields name) : Reader.flag fields name = false := by
  rw [Reader.flag]
  rcases h with h | h <;> rw [h] <;> rfl

/-- A part that is there is read as a reader of such parts reads it. -/
theorem Given.subtree {P : Data → Prop} {read : Data → Read α} (h : Given fields name P)
    (hn : Data.depthEntries fields ≤ n) (hread : ∀ d, P d → d.depth ≤ n → read d = .ok a) :
    (Reader.subtree fields name >>= read) = .ok a := by
  obtain ⟨d, hd, hP⟩ := h
  rw [Reader.subtree, hd]
  exact hread d hP (Nat.le_trans (Data.depth_le_of_lookup? hd) hn)

theorem Given.required {d : Data} (h : Given fields name (· = d)) :
    Reader.required fields name = .ok d := by
  obtain ⟨d, hd, rfl⟩ := h
  rw [Reader.required, hd]

theorem Named.required {n : Name} (h : Named fields name n) :
    Reader.required fields name = .ok n :=
  h.2.required

/-- Items are read as a reader of such items reads them. -/
theorem Listed.items {P : List Data → Prop} {read : List Data → Read α}
    (h : Listed fields name P) (hn : Data.depthEntries fields ≤ n)
    (hread : ∀ ds, P ds → Data.depthAll ds ≤ n → read ds = .ok a) :
    (Reader.items fields name >>= read) = .ok a := by
  have hnil : Data.depthAll [] ≤ n := Nat.le_trans (Data.one_le_depthEntries fields) hn
  rcases h with ⟨homitted, hP⟩ | ⟨d, hd, ds, rfl, hP⟩
  · rw [homitted.items]
    exact hread [] hP hnil
  · have hds : Data.depthAll ds ≤ n :=
      Data.depthAll_le_of_list (Nat.le_trans (Data.depth_le_of_lookup? hd) hn)
    rw [Reader.items, hd]
    cases ds with
    | nil => exact hread [] hP hnil
    | cons d ds => exact hread _ hP hds

theorem NamesListed.items {names : List Name} (h : NamesListed fields name names) :
    Reader.items fields name = .ok names := by
  rcases h.2 with ⟨homitted, rfl⟩ | ⟨d, hd, ds, rfl, rfl⟩
  · exact homitted.items
  · rw [Reader.items, hd]
    cases ds <;> rfl

theorem Flagged.flag {b : Bool} (h : Flagged fields name b) : Reader.flag fields name = b := by
  rcases h with ⟨d, hd, rfl⟩ | ⟨rfl, h⟩
  · rw [Reader.flag, hd]
    rfl
  · exact h.flag

theorem Reader.optional?_of_lookup? {d : Data} (h : Data.lookup? name fields = some d)
    (hd : d ≠ .null) : Reader.optional? fields name = some d := by
  rw [Reader.optional?, h]
  split
  · rename_i heq
    exact absurd (Option.some.inj heq) hd
  · rfl

theorem Scoped.scope {scope : Option Scope} (h : Scoped fields scope) :
    Reader.scope fields = .ok scope := by
  cases scope with
  | none =>
      rw [Reader.scope, Omitted.optional? h]
  | some scope =>
      obtain ⟨hknown, d, hd, rfl⟩ := h
      have hletter : ∀ scope ∈ Scope.known,
          Scope.ofText? (Reader.dropColons scope.text) = some scope := by decide +kernel
      rw [Reader.scope, Reader.optional?, hd]
      dsimp only [Data.asText]
      rw [hletter scope hknown]

theorem Reader.dropColons_eq {s : String} (h : s.toList.getLast? ≠ some ':') :
    Reader.dropColons s = s := by
  have hdrop : s.toList.reverse.dropWhile (· == ':') = s.toList.reverse := by
    rw [← List.head?_reverse] at h
    cases hs : s.toList.reverse with
    | nil => rfl
    | cons c cs =>
        rw [hs, List.head?_cons] at h
        rw [List.dropWhile_cons, if_neg fun hc => h (congrArg some (eq_of_beq hc))]
  rw [Reader.dropColons, Text.dropRightWhile, hdrop, List.reverse_reverse, String.ofList_toList]

/-- The scope of an option is read as it is, since it ends with no colon. -/
theorem OptionScoped.scope {scope : Option String} (h : OptionScoped fields scope) :
    (match Data.lookup? "scope" fields with
      | some d => if d.isTruthy then some (Reader.dropColons d.asText) else none
      | none => none) = scope := by
  cases scope with
  | none =>
      rcases h with h | h
      · rw [h]
      · rw [h]
        rfl
  | some scope =>
      obtain ⟨hne, hlast, d, hd, rfl⟩ := h
      have htruthy : (Data.text scope).isTruthy = true := bne_iff_ne.mpr hne
      rw [hd]
      dsimp only [Data.asText]
      rw [if_pos htruthy, Reader.dropColons_eq hlast]

theorem Placing.exact.mark {place : Option Mark} (h : Placing.exact fields place) :
    Reader.mark fields = place := by
  cases place with
  | none => rw [Reader.mark, Omitted.optional? h]; rfl
  | some place =>
      obtain ⟨hline, hgiven, hcolumn⟩ := h
      rw [Reader.mark, Reader.optional?_of_lookup? hgiven hline, Option.map_some, ← hcolumn]

/-- What a node of some depth consists of. -/
theorem Tagged.parts {tag : String} {P : Fields → Prop} {d : Data} (h : Tagged tag P d)
    (hn : d.depth ≤ n) :
    ∃ fields k, n = k + 1 ∧ d = .map fields ∧ Data.lookup? "tag" fields = some (.text tag) ∧
      Data.depthEntries fields ≤ k ∧ P fields := by
  obtain ⟨fields, rfl, htag, hP⟩ := h
  rw [Data.depth] at hn
  cases n with
  | zero => exact absurd hn (Nat.not_succ_le_zero _)
  | succ k => exact ⟨fields, k, rfl, rfl, htag, Nat.le_of_succ_le_succ hn, hP⟩

theorem Node.parts {tag : String} {place : Option Mark} {P : Fields → Prop} {d : Data}
    (h : Node .exact tag place P d) (hn : d.depth ≤ n) :
    ∃ fields k, n = k + 1 ∧ d = .map fields ∧ Data.lookup? "tag" fields = some (.text tag) ∧
      Reader.mark fields = place ∧ Data.depthEntries fields ≤ k ∧ P fields := by
  obtain ⟨fields, k, rfl, rfl, htag, hk, hplace, hP⟩ := Tagged.parts h hn
  exact ⟨fields, k, rfl, rfl, htag, hplace.mark, hk, hP⟩

end Fields

/-! ## Operators -/

theorem BinaryOp.ofText?_text (op : BinaryOp) : BinaryOp.ofText? op.text = some op := by
  have hall : ∀ op ∈ BinaryOp.all, BinaryOp.ofText? op.text = some op := by decide +kernel
  apply hall
  cases op with
  | arith op => cases op <;> decide
  | both | either => decide
  | compare relation rule => cases relation <;> cases rule <;> decide

theorem UnaryOp.ofText?_text (op : UnaryOp) : UnaryOp.ofText? op.text = some op := by
  cases op <;> decide +kernel

theorem LetOp.ofText?_text (op : LetOp) : LetOp.ofText? op.text = some op := by
  cases op with
  | set => decide +kernel
  | update op => cases op <;> decide +kernel

/-! ## Expressions -/

theorem Expr.WrittenAs.map {placing : Placing} {e : Expr} {d : Data} (h : e.WrittenAs placing d) :
    ∃ fields, d = .map fields := by
  cases e <;> exact ⟨_, h.choose_spec.1⟩

theorem partsWritten.not_list {placing : Placing} {ps : List NamePart} {d : Data}
    (h : partsWritten placing ps [d]) (ds : List Data) : d ≠ .list ds := by
  rintro rfl
  rcases ps with _ | ⟨s | e | d, ps⟩
  · exact h
  · cases h.1
  · cases h.1.map.choose_spec
  · exact h

/-- A lambda is read as it is wherever its body is. A call has its lambda's parts but not the lambda
itself among its own, so this is needed apart from the induction. -/
theorem Reader.expr_lambda {place : Option Mark} {params : List Name} {body : Expr} {d : Data}
    {n : Nat}
    (h : Node .exact "lambda" place (fun f => NamesListed f "params" params ∧
      Given f "body" (body.WrittenAs .exact)) d) (hn : d.depth ≤ n)
    (hbody : ∀ {d n}, body.WrittenAs .exact d → d.depth ≤ n → Reader.expr n d = .ok body) :
    Reader.expr n d = .ok (.lambda place params body) := by
  obtain ⟨f, k, rfl, rfl, htag, rfl, hk, hparams, hgiven⟩ := Node.parts h hn
  have hb := hgiven.subtree hk fun _ hd => hbody hd
  simp only [Reader.expr, htag, hparams.items, hb, ok_bind]
  rfl

mutual

/-- A tree of an expression is read as this expression. -/
theorem Expr.WrittenAs.expr : ∀ {e : Expr} {d : Data} {n : Nat},
    e.WrittenAs .exact d → d.depth ≤ n → Reader.expr n d = .ok e
  | .int m value, d, n, h, hn => by
      obtain ⟨f, k, rfl, rfl, htag, rfl, hk, hvalue⟩ := Node.parts h hn
      simp only [Reader.expr, htag, hvalue.required, ok_bind, Reader.intLiteral]
  | .truth m value, d, n, h, hn => by
      obtain ⟨f, k, rfl, rfl, htag, rfl, hk, hvalue⟩ := Node.parts h hn
      simp only [Reader.expr, htag, hvalue.required, ok_bind, Reader.intLiteral]
  | .float m value, d, n, h, hn => by
      obtain ⟨f, k, rfl, rfl, htag, rfl, hk, hvalue⟩ := Node.parts h hn
      simp only [Reader.expr, htag, hvalue.required, ok_bind, Reader.floatValue]
      rfl
  | .text m value, d, n, h, hn => by
      obtain ⟨f, k, rfl, rfl, htag, rfl, hk, hvalue⟩ := Node.parts h hn
      simp only [Reader.expr, htag, hvalue.required, ok_bind, Data.asText]
      rfl
  | .list m items, d, n, h, hn => by
      obtain ⟨f, k, rfl, rfl, htag, rfl, hk, hitems⟩ := Node.parts h hn
      have hi := hitems.items hk fun _ hds => hds.exprs
      simp only [Reader.expr, htag, hi, ok_bind]
      rfl
  | .dict m entries, d, n, h, hn => by
      obtain ⟨f, k, rfl, rfl, htag, rfl, hk, hentries⟩ := Node.parts h hn
      simp only [Reader.expr, htag]
      refine hentries.items hk fun ds hds hdepth => ?_
      rw [hds.pairs (fun _ _ => rfl) hdepth]
      rfl
  | .var m scope parts, d, n, h, hn => by
      obtain ⟨f, k, rfl, rfl, htag, rfl, hk, hscope, d, hname, hparts⟩ := Node.parts h hn
      have hd := Nat.le_trans (Data.depth_le_of_lookup? hname) hk
      rcases hparts with ⟨ds, rfl, hds⟩ | hds
      · simp only [Reader.expr, htag, Reader.required, hname, ok_bind, Scoped.scope hscope]
        rw [hds.parts (fun _ => rfl) (fun _ => rfl) (Data.depthAll_le_of_list hd)]
        rfl
      · have hlist := hds.not_list
        simp only [Reader.expr, htag, Reader.required, hname, ok_bind, Scoped.scope hscope]
        rw [hds.parts (fun _ => rfl) (fun _ => rfl) (Data.depthAll_singleton_le hd)]
        rfl
  | .option m scope name, d, n, h, hn => by
      obtain ⟨f, k, rfl, rfl, htag, rfl, hk, hscope, hname⟩ := Node.parts h hn
      simp only [Reader.expr, htag, hname.required, ok_bind]
      exact congrArg (fun scope => (Except.ok (Expr.option _ scope name) : Read Expr))
        (OptionScoped.scope hscope)
  | .register m name, d, n, h, hn => by
      obtain ⟨f, k, rfl, rfl, htag, rfl, hk, hname⟩ := Node.parts h hn
      simp only [Reader.expr, htag, hname.required, ok_bind, Data.asText]
      rfl
  | .environment m name, d, n, h, hn => by
      obtain ⟨f, k, rfl, rfl, htag, rfl, hk, hname⟩ := Node.parts h hn
      simp only [Reader.expr, htag, hname.required, ok_bind, Data.asText]
      rfl
  | .wholeScope m scope, d, n, h, hn => by
      obtain ⟨f, k, rfl, rfl, htag, rfl, hk, hscope⟩ := Node.parts h hn
      simp only [Reader.expr, htag, Scoped.scope hscope, ok_bind]
      rfl
  | .binary m op left right, d, n, h, hn => by
      obtain ⟨f, k, rfl, rfl, htag, rfl, hk, hop, hleft, hright⟩ := Node.parts h hn
      have hl := hleft.subtree hk fun _ hd => hd.expr
      have hr := hright.subtree hk fun _ hd => hd.expr
      simp only [Reader.expr, htag, hop.required, ok_bind, Data.asText, BinaryOp.ofText?_text,
        hl, hr]
      rfl
  | .unary m op operand, d, n, h, hn => by
      obtain ⟨f, k, rfl, rfl, htag, rfl, hk, hop, hoperand⟩ := Node.parts h hn
      have ho := hoperand.subtree hk fun _ hd => hd.expr
      simp only [Reader.expr, htag, hop.required, ok_bind, Data.asText, UnaryOp.ofText?_text, ho]
      rfl
  | .ternary m condition then_ else_, d, n, h, hn => by
      obtain ⟨f, k, rfl, rfl, htag, rfl, hk, hcondition, hthen, helse⟩ := Node.parts h hn
      have hc := hcondition.subtree hk fun _ hd => hd.expr
      have ht := hthen.subtree hk fun _ hd => hd.expr
      have he := helse.subtree hk fun _ hd => hd.expr
      simp only [Reader.expr, htag, hc, ht, he, ok_bind]
      rfl
  | .falsy m left right, d, n, h, hn => by
      obtain ⟨f, k, rfl, rfl, htag, rfl, hk, hleft, hright⟩ := Node.parts h hn
      have hl := hleft.subtree hk fun _ hd => hd.expr
      have hr := hright.subtree hk fun _ hd => hd.expr
      simp only [Reader.expr, htag, hl, hr, ok_bind]
      rfl
  | .index m target key, d, n, h, hn => by
      obtain ⟨f, k, rfl, rfl, htag, rfl, hk, htarget, hkey⟩ := Node.parts h hn
      have ht := htarget.subtree hk fun _ hd => hd.expr
      have hi := hkey.subtree hk fun _ hd => hd.expr
      simp only [Reader.expr, htag, ht, hi, ok_bind]
      rfl
  | .slice m target first last, d, n, h, hn => by
      obtain ⟨f, k, rfl, rfl, htag, rfl, hk, htarget, hfirst, hlast⟩ := Node.parts h hn
      have ht := htarget.subtree hk fun _ hd => hd.expr
      simp only [Reader.expr, htag, ht, hfirst.expr? hk, hlast.expr? hk, ok_bind]
      rfl
  | .call m scope name args, d, n, h, hn => by
      obtain ⟨f, k, rfl, rfl, htag, rfl, hk, hscope, hname, hargs⟩ := Node.parts h hn
      have ha := hargs.items hk fun _ hds => hds.exprs
      simp only [Reader.expr, htag, Scoped.scope hscope, hname.required, ha, ok_bind]
      rfl
  | .funcrefCall m target args, d, n, h, hn => by
      obtain ⟨f, k, rfl, rfl, htag, rfl, hk, htarget, hargs⟩ := Node.parts h hn
      have ht := htarget.subtree hk fun _ hd => hd.expr
      have ha := hargs.items hk fun _ hds => hds.exprs
      simp only [Reader.expr, htag, ht, ha, ok_bind]
      rfl
  | .lambda m params body, d, n, h, hn => Reader.expr_lambda h hn Expr.WrittenAs.expr
  | .lambdaCall m lambdaMark params body args, d, n, h, hn => by
      obtain ⟨f, k, rfl, rfl, htag, rfl, hk, hlambda, hargs⟩ := Node.parts h hn
      have hl := hlambda.subtree hk fun _ hd hn => Reader.expr_lambda hd hn Expr.WrittenAs.expr
      have ha := hargs.items hk fun _ hds => hds.exprs
      simp only [Reader.expr, htag, hl, ha, ok_bind]
      rfl

/-- Trees of expressions are read as these expressions. -/
theorem exprsWritten.exprs : ∀ {es : List Expr} {ds : List Data} {n : Nat},
    exprsWritten .exact es ds → Data.depthAll ds ≤ n → ds.mapM (Reader.expr n) = .ok es
  | [], [], n, h, hn => rfl
  | e :: es, d :: ds, n, h, hn => by
      obtain ⟨hd, hds⟩ := h
      obtain ⟨hnd, hnds⟩ := Data.depthAll_cons_le hn
      rw [List.mapM_cons, hd.expr hnd, ok_bind, hds.exprs hnds]
      rfl

/-- Trees of pairs are read as these pairs. Of the function that reads one pair, only what it makes
of a list of two matters. -/
theorem pairsWritten.pairs : ∀ {es : List (Expr × Expr)} {ds : List Data} {n : Nat}
    {read : Data → Read (Expr × Expr)}, pairsWritten .exact es ds →
      (∀ dk dv, read (.list [dk, dv]) = do return (← Reader.expr n dk, ← Reader.expr n dv)) →
      Data.depthAll ds ≤ n → ds.mapM read = .ok es
  | [], [], n, read, h, hread, hn => rfl
  | (k, v) :: es, .list [dk, dv] :: ds, n, read, h, hread, hn => by
      obtain ⟨hk, hv, hds⟩ := h
      obtain ⟨hnd, hnds⟩ := Data.depthAll_cons_le hn
      obtain ⟨hnk, hnv⟩ := Data.depthAll_cons_le (Data.depthAll_le_of_list hnd)
      rw [List.mapM_cons, hds.pairs hread hnds, hread, hk.expr hnk,
        hv.expr (Data.depthAll_cons_le hnv).1]
      rfl

/-- The parts of a name are read as these parts. -/
theorem partsWritten.parts : ∀ {ps : List NamePart} {ds : List Data} {n : Nat}
    {read : Data → Read NamePart}, partsWritten .exact ps ds →
      (∀ s, read (.text s) = .ok (.plain s)) →
      (∀ f, read (.map f) = NamePart.computed <$> Reader.expr n (.map f)) →
      Data.depthAll ds ≤ n → ds.mapM read = .ok ps
  | [], [], n, read, h, hplain, hcomputed, hn => rfl
  | .plain s :: ps, d :: ds, n, read, h, hplain, hcomputed, hn => by
      obtain ⟨rfl, hds⟩ := h
      rw [List.mapM_cons, hds.parts hplain hcomputed (Data.depthAll_cons_le hn).2, hplain]
      rfl
  | .computed e :: ps, d :: ds, n, read, h, hplain, hcomputed, hn => by
      obtain ⟨hd, hds⟩ := h
      obtain ⟨hnd, hnds⟩ := Data.depthAll_cons_le hn
      obtain ⟨f, rfl⟩ := hd.map
      rw [List.mapM_cons, hds.parts hplain hcomputed hnds, hcomputed, hd.expr hnd]
      rfl

/-- An expression that may be missing is read as it is. -/
theorem exprWritten?.expr? : ∀ {e : Option Expr} {fields : Fields} {name : String} {n : Nat},
    exprWritten? .exact fields name e → Data.depthEntries fields ≤ n →
      (Reader.optional? fields name).mapM (Reader.expr n) = .ok e
  | none, fields, name, n, h, hn => by
      rw [Omitted.optional? h]
      rfl
  | some e, fields, name, n, h, hn => by
      obtain ⟨d, hd, he⟩ := h
      obtain ⟨f, rfl⟩ := he.map
      rw [Reader.optional?_of_lookup? hd nofun, Option.mapM_some,
        he.expr (Nat.le_trans (Data.depth_le_of_lookup? hd) hn)]
      rfl

end

theorem Expr.WrittenAs.expression {e : Expr} {d : Data} (h : e.WrittenAs .exact d) :
    Reader.expression d = .ok e :=
  h.expr (Nat.le_refl _)

theorem exprsWritten.expressions : ∀ {es : List Expr} {ds : List Data},
    exprsWritten .exact es ds → ds.mapM Reader.expression = .ok es
  | [], [], _ => rfl
  | e :: es, d :: ds, h => by
      obtain ⟨hd, hds⟩ := h
      rw [List.mapM_cons, hd.expression, ok_bind, hds.expressions]
      rfl

/-! ## Statements -/

namespace FunctionFlags

/-- The flags that are set or among some names. -/
def adding (flags : FunctionFlags) (names : List String) : FunctionFlags where
  abort := flags.abort || names.contains "abort"
  range := flags.range || names.contains "range"
  dict := flags.dict || names.contains "dict"
  closure := flags.closure || names.contains "closure"

/-- Every flag that there is. -/
def all : FunctionFlags := ⟨true, true, true, true⟩

theorem names_subset_all (flags : FunctionFlags) : flags.names ⊆ all.names := by
  obtain ⟨a, r, d, c⟩ := flags
  cases a <;> cases r <;> cases d <;> cases c <;> decide

theorem setFlag_eq_adding (flags : FunctionFlags) {name : String} (h : name ∈ all.names) :
    Reader.setFlag flags name = .ok (flags.adding [name]) := by
  obtain ⟨a, r, d, c⟩ := flags
  have hname : name = "abort" ∨ name = "range" ∨ name = "dict" ∨ name = "closure" := by
    simpa [names, all] using h
  rcases hname with rfl | rfl | rfl | rfl <;> simp [Reader.setFlag, adding]

theorem adding_cons (flags : FunctionFlags) (name : String) (names : List String) :
    (flags.adding [name]).adding names = flags.adding (name :: names) := by
  simp [adding, Bool.or_assoc]

theorem foldlM_setFlag : ∀ (names : List String) (flags : FunctionFlags),
    names ⊆ all.names →
      (names.map Data.text).foldlM (fun flags d => Reader.setFlag flags d.asText) flags =
        .ok (flags.adding names)
  | [], flags, _ => by simp [adding]; rfl
  | name :: names, flags, h => by
      obtain ⟨hname, hnames⟩ := List.cons_subset.mp h
      rw [List.map_cons, List.foldlM_cons, Data.asText, setFlag_eq_adding flags hname, ok_bind,
        foldlM_setFlag names _ hnames, adding_cons]

/-- The names of flags are read as these flags. -/
theorem WrittenAs.flags {flags : FunctionFlags} {ds : List Data} (h : flags.WrittenAs ds) :
    ds.foldlM (fun flags d => Reader.setFlag flags d.asText) ({} : FunctionFlags) = .ok flags := by
  obtain ⟨names, rfl, hnames⟩ := h
  rw [foldlM_setFlag names {} fun n hn => flags.names_subset_all ((hnames n).mp hn)]
  have hset : ({} : FunctionFlags).adding names = ({} : FunctionFlags).adding flags.names := by
    simp only [adding, List.contains_eq_mem, hnames]
  rw [hset]
  obtain ⟨a, r, d, c⟩ := flags
  cases a <;> cases r <;> cases d <;> cases c <;> rfl

end FunctionFlags

theorem defaultsWritten.defaults : ∀ {es : List (Name × Expr)} {ds : List Data}
    {read : Data → Read (Name × Expr)}, defaultsWritten .exact es ds →
      (∀ n d, read (.list [n, d]) = do return (n, ← Reader.expression d)) →
      ds.mapM read = .ok es
  | [], [], read, h, hread => rfl
  | (n, e) :: es, .list [dn, de] :: ds, read, h, hread => by
      obtain ⟨-, rfl, he, hds⟩ := h
      rw [List.mapM_cons, hds.defaults hread, hread, he.expression]
      rfl

section Fields

variable {fields : Fields}

theorem Signature.WrittenIn.signature {signature : Signature}
    (h : signature.WrittenIn .exact fields) : Reader.signature fields = .ok signature := by
  obtain ⟨hparams, hdefaults, hvarargs, hflags⟩ := h
  rw [Reader.signature]
  refine hflags.items (Nat.le_refl _) fun ds hds _ => ?_
  rw [hds.flags, ok_bind]
  refine hdefaults.items (Nat.le_refl _) fun ds hds _ => ?_
  rw [hds.defaults fun _ _ => rfl, ok_bind, hparams.items, ok_bind, hvarargs.flag]
  rfl

theorem Assigned.op {op : LetOp} (h : Assigned fields op) :
    ((Data.lookup? "op" fields).getD (.text "=")).asText = op.text := by
  rcases h with ⟨d, hd, rfl⟩ | ⟨rfl, h⟩
  · rw [hd]
    rfl
  · rw [h]
    rfl

theorem Deep.lockDepth {depth : Int} (h : Deep fields depth) :
    Reader.lockDepth fields = .ok depth := by
  rcases h with ⟨d, hd, rfl⟩ | ⟨rfl, h⟩
  · rw [Reader.lockDepth, hd]
  · rw [Reader.lockDepth, h]

theorem rangeWritten?.range {range : Option (Expr × Expr)}
    {read : Data → Read (Expr × Expr)} (h : rangeWritten? .exact fields range)
    (hread : ∀ x y, read (.list [x, y]) =
      do return (← Reader.expression x, ← Reader.expression y)) :
    (Reader.optional? fields "range").mapM read = .ok range := by
  cases range with
  | none =>
      rw [Omitted.optional? h]
      rfl
  | some range =>
      obtain ⟨d, hd, x, y, rfl, hx, hy⟩ := h
      rw [Reader.optional?_of_lookup? hd nofun, Option.mapM_some, hread, hx.expression,
        hy.expression]
      rfl

theorem exprWritten?.expression? {e : Option Expr} {name : String}
    (h : exprWritten? .exact fields name e) :
    (Reader.optional? fields name).mapM Reader.expression = .ok e := by
  cases e with
  | none =>
      rw [Omitted.optional? h]
      rfl
  | some e =>
      obtain ⟨d, hd, he⟩ := h
      obtain ⟨f, rfl⟩ := he.map
      rw [Reader.optional?_of_lookup? hd nofun, Option.mapM_some, he.expression]
      rfl

theorem Patterned.pattern {pattern : Data} (h : Patterned fields pattern) :
    (Data.lookup? "pattern" fields).getD .null = pattern := by
  rcases h with ⟨rfl, h | h⟩ | ⟨-, d, hd, rfl⟩
  · rw [h]
    rfl
  · rw [h]
    rfl
  · rw [hd]
    rfl

theorem Argued.argument {argument : String} (h : Argued fields argument) :
    (match Data.lookup? "argument" fields with
      | some d => if d.isTruthy then d.asText else ""
      | none => "") = argument := by
  rcases h with ⟨d, hd, rfl⟩ | ⟨rfl, h | h⟩
  · rw [hd]
    by_cases hempty : argument = ""
    · subst hempty
      rfl
    · exact if_pos (bne_iff_ne.mpr hempty)
  · rw [h]
  · rw [h]
    rfl

end Fields

mutual

/-- A tree of a statement is read as this statement. -/
theorem Stmt.WrittenAs.stmt : ∀ {s : Stmt} {d : Data} {n : Nat},
    s.WrittenAs .exact d → d.depth ≤ n → Reader.stmt n d = .ok s
  | .assign m target op value, d, n, h, hn => by
      obtain ⟨f, k, rfl, rfl, htag, rfl, hk, hop, htarget, hvalue⟩ := Node.parts h hn
      have ht := htarget.subtree hk fun _ hd _ => hd.expression
      have hv := hvalue.subtree hk fun _ hd _ => hd.expression
      simp only [Reader.stmt, htag, hop.op, LetOp.ofText?_text, ht, hv, ok_bind]
      rfl
  | .unlet m targets bang, d, n, h, hn => by
      obtain ⟨f, k, rfl, rfl, htag, rfl, hk, htargets, hbang⟩ := Node.parts h hn
      have ht := htargets.items hk fun _ hds _ => hds.expressions
      simp only [Reader.stmt, htag, ht, hbang.flag, ok_bind]
      rfl
  | .lock m targets depth, d, n, h, hn => by
      obtain ⟨f, k, rfl, rfl, htag, rfl, hk, htargets, hdepth⟩ := Node.parts h hn
      have ht := htargets.items hk fun _ hds _ => hds.expressions
      simp only [Reader.stmt, htag, ht, hdepth.lockDepth, ok_bind]
      rfl
  | .unlock m targets depth, d, n, h, hn => by
      obtain ⟨f, k, rfl, rfl, htag, rfl, hk, htargets, hdepth⟩ := Node.parts h hn
      have ht := htargets.items hk fun _ hds _ => hds.expressions
      simp only [Reader.stmt, htag, ht, hdepth.lockDepth, ok_bind]
      rfl
  | .echo m kind args, d, n, h, hn => by
      obtain ⟨f, k, rfl, rfl, htag, rfl, hk, hargs⟩ := Node.parts h hn
      have ha := hargs.items hk fun _ hds _ => hds.expressions
      cases kind <;> simp only [EchoKind.tag] at htag <;>
        simp only [Reader.stmt, htag, ha, ok_bind] <;> rfl
  | .call m e range, d, n, h, hn => by
      obtain ⟨f, k, rfl, rfl, htag, rfl, hk, hexpr, hrange⟩ := Node.parts h hn
      have he := hexpr.subtree hk fun _ hd _ => hd.expression
      simp only [Reader.stmt, htag, he]
      rw [hrange.range fun _ _ => rfl]
      rfl
  | .execute m args, d, n, h, hn => by
      obtain ⟨f, k, rfl, rfl, htag, rfl, hk, hargs⟩ := Node.parts h hn
      have ha := hargs.items hk fun _ hds _ => hds.expressions
      simp only [Reader.stmt, htag, ha, ok_bind]
      rfl
  | .conditional m branches otherwise, d, n, h, hn => by
      obtain ⟨f, k, rfl, rfl, htag, rfl, hk, hne, hbranches, hotherwise⟩ := Node.parts h hn
      simp only [Reader.stmt, htag]
      refine hbranches.items hk fun ds hds hdepth => ?_
      rw [hds.branches (fun _ items => by cases items <;> rfl) hdepth, ok_bind,
        hotherwise.block? (fun items => by cases items <;> rfl) hk,
        if_neg (by rwa [List.isEmpty_iff])]
      rfl
  | .whileLoop m condition body, d, n, h, hn => by
      obtain ⟨f, k, rfl, rfl, htag, rfl, hk, hcondition, hbody⟩ := Node.parts h hn
      have hc := hcondition.subtree hk fun _ hd _ => hd.expression
      have hb := hbody.items hk fun _ hds => hds.stmts
      simp only [Reader.stmt, htag, hc, hb, ok_bind]
      rfl
  | .forLoop m target iterable body, d, n, h, hn => by
      obtain ⟨f, k, rfl, rfl, htag, rfl, hk, htarget, hone, hiterable, hbody⟩ := Node.parts h hn
      obtain ⟨d, hd, ht⟩ := htarget
      have hi := hiterable.subtree hk fun _ hd _ => hd.expression
      have hb := hbody.items hk fun _ hds => hds.stmts
      simp only [Reader.stmt, htag, hi, hb, hone, Reader.required, hd, ht.expression, ok_bind]
      rfl
  | .forUnpack m targets iterable body, d, n, h, hn => by
      obtain ⟨f, k, rfl, rfl, htag, rfl, hk, htargets, hiterable, hbody⟩ := Node.parts h hn
      obtain ⟨d, hd, ds, rfl, hds⟩ := htargets
      have hi := hiterable.subtree hk fun _ hd _ => hd.expression
      have hb := hbody.items hk fun _ hds => hds.stmts
      simp only [Reader.stmt, htag, hi, hb, hd, Reader.elements, hds.expressions, ok_bind]
      rfl
  | .tryCatch m body clauses cleanup, d, n, h, hn => by
      obtain ⟨f, k, rfl, rfl, htag, rfl, hk, hbody, hclauses, hcleanup⟩ := Node.parts h hn
      have hb := hbody.items hk fun _ hds => hds.stmts
      simp only [Reader.stmt, htag, hb]
      refine hclauses.items hk fun ds hds hdepth => ?_
      rw [hds.clauses (fun _ => rfl) hdepth, ok_bind, ok_bind,
        hcleanup.block? (fun items => by cases items <;> rfl) hk]
      rfl
  | .throw m value, d, n, h, hn => by
      obtain ⟨f, k, rfl, rfl, htag, rfl, hk, hvalue⟩ := Node.parts h hn
      have hv := hvalue.subtree hk fun _ hd _ => hd.expression
      simp only [Reader.stmt, htag, hv, ok_bind]
      rfl
  | .returning m value, d, n, h, hn => by
      obtain ⟨f, k, rfl, rfl, htag, rfl, hk, hvalue⟩ := Node.parts h hn
      simp only [Reader.stmt, htag, hvalue.expression?, ok_bind]
      rfl
  | .breaking, d, n, h, hn => by
      obtain ⟨f, k, rfl, rfl, htag, -⟩ := Tagged.parts h hn
      simp only [Reader.stmt, htag]
      rfl
  | .continuing, d, n, h, hn => by
      obtain ⟨f, k, rfl, rfl, htag, -⟩ := Tagged.parts h hn
      simp only [Reader.stmt, htag]
      rfl
  | .finish, d, n, h, hn => by
      obtain ⟨f, k, rfl, rfl, htag, -⟩ := Tagged.parts h hn
      simp only [Reader.stmt, htag]
      rfl
  | .function m scope name signature bang body, d, n, h, hn => by
      obtain ⟨f, k, rfl, rfl, htag, rfl, hk, hscope, hname, hsignature, hbang, hbody⟩ :=
        Node.parts h hn
      have hb := hbody.items hk fun _ hds => hds.stmts
      simp only [Reader.stmt, htag, Scoped.scope hscope, hname.required, hsignature.signature,
        hbang.flag, hb, ok_bind]
      rfl
  | .dictFunction m target key signature bang body, d, n, h, hn => by
      obtain ⟨f, k, rfl, rfl, htag, rfl, hk, htarget, hkey, hsignature, hbang, hbody⟩ :=
        Node.parts h hn
      have ht := htarget.subtree hk fun _ hd _ => hd.expression
      have hb := hbody.items hk fun _ hds => hds.stmts
      simp only [Reader.stmt, htag, ht, hkey.required, hsignature.signature, hbang.flag, hb,
        ok_bind]
      rfl
  | .delFunction m scope name bang, d, n, h, hn => by
      obtain ⟨f, k, rfl, rfl, htag, rfl, hk, hscope, hname, hbang⟩ := Node.parts h hn
      simp only [Reader.stmt, htag, Scoped.scope hscope, hname.required, hbang.flag, ok_bind]
      rfl
  | .command m name argument bang, d, n, h, hn => by
      obtain ⟨f, k, rfl, rfl, htag, rfl, hk, hname, hargument, hbang⟩ := Node.parts h hn
      simp only [Reader.stmt, htag, hname.required, hbang.flag, ok_bind]
      exact congrArg (fun argument => (Except.ok (Stmt.command _ name argument bang) : Read Stmt))
        hargument.argument

/-- Trees of statements are read as these statements. -/
theorem stmtsWritten.stmts : ∀ {ss : List Stmt} {ds : List Data} {n : Nat},
    stmtsWritten .exact ss ds → Data.depthAll ds ≤ n → ds.mapM (Reader.stmt n) = .ok ss
  | [], [], n, h, hn => rfl
  | s :: ss, d :: ds, n, h, hn => by
      obtain ⟨hd, hds⟩ := h
      obtain ⟨hnd, hnds⟩ := Data.depthAll_cons_le hn
      rw [List.mapM_cons, hd.stmt hnd, ok_bind, hds.stmts hnds]
      rfl

/-- Branches are read as they are. -/
theorem branchesWritten.branches : ∀ {bs : List Branch} {ds : List Data} {n : Nat}
    {read : Data → Read Branch}, branchesWritten .exact bs ds →
      (∀ d items, read (.list [d, .list items]) =
        do return .mk (← Reader.expression d) (← items.mapM (Reader.stmt n))) →
      Data.depthAll ds ≤ n → ds.mapM read = .ok bs
  | [], [], n, read, h, hread, hn => rfl
  | .mk condition body :: bs, .list [d, .list items] :: ds, n, read, h, hread, hn => by
      obtain ⟨hd, hitems, hds⟩ := h
      obtain ⟨hnd, hnds⟩ := Data.depthAll_cons_le hn
      obtain ⟨-, hnitems⟩ := Data.depthAll_cons_le (Data.depthAll_le_of_list hnd)
      have hi := hitems.stmts (Data.depthAll_le_of_list (Data.depthAll_cons_le hnitems).1)
      rw [List.mapM_cons, hds.branches hread hnds, hread, hd.expression, hi]
      rfl

/-- Clauses are read as they are. -/
theorem clausesWritten.clauses : ∀ {cs : List Clause} {ds : List Data} {n : Nat}
    {read : Data → Read Clause}, clausesWritten .exact cs ds →
      (∀ f, read (.map f) = do
        let body ← (← Reader.items f "body").mapM (Reader.stmt n)
        return .mk ((Data.lookup? "pattern" f).getD .null) body) →
      Data.depthAll ds ≤ n → ds.mapM read = .ok cs
  | [], [], n, read, h, hread, hn => rfl
  | .mk pattern body :: cs, .map f :: ds, n, read, h, hread, hn => by
      obtain ⟨hpattern, hbody, hds⟩ := h
      obtain ⟨hnd, hnds⟩ := Data.depthAll_cons_le hn
      have hclause : read (.map f) = .ok (.mk pattern body) := by
        rw [hread, hpattern.pattern]
        refine hbody.items (Data.depthEntries_le_of_map hnd) fun items hitems hdepth => ?_
        rw [hitems.stmts hdepth]
        rfl
      rw [List.mapM_cons, hds.clauses hread hnds, hclause]
      rfl

/-- Statements that may be missing are read as they are. -/
theorem blockWritten?.block? : ∀ {body : Option (List Stmt)} {fields : Fields} {name : String}
    {n : Nat} {read : Data → Read (List Stmt)}, blockWritten? .exact fields name body →
      (∀ items, read (.list items) = items.mapM (Reader.stmt n)) →
      Data.depthEntries fields ≤ n → (Reader.optional? fields name).mapM read = .ok body
  | none, fields, name, n, read, h, hread, hn => by
      rw [Omitted.optional? h]
      rfl
  | some body, fields, name, n, read, h, hread, hn => by
      obtain ⟨d, hd, items, rfl, hitems⟩ := h
      have hdepth := Data.depthAll_le_of_list (Nat.le_trans (Data.depth_le_of_lookup? hd) hn)
      rw [Reader.optional?_of_lookup? hd nofun, Option.mapM_some, hread, hitems.stmts hdepth]
      rfl

end

theorem Stmt.WrittenAs.statement {s : Stmt} {d : Data} (h : s.WrittenAs .exact d) :
    Reader.statement d = .ok s :=
  h.stmt (Nat.le_refl _)

theorem stmtsWritten.statements : ∀ {ss : List Stmt} {ds : List Data},
    stmtsWritten .exact ss ds → ds.mapM Reader.statement = .ok ss
  | [], [], _ => rfl
  | s :: ss, d :: ds, h => by
      obtain ⟨hd, hds⟩ := h
      rw [List.mapM_cons, hd.statement, ok_bind, hds.statements]
      rfl

/-- A tree of a script is read as this script. -/
theorem Program.WrittenAs.program {program : Program} {d : Data} (h : program.WrittenAs .exact d) :
    Reader.program d = .ok program := by
  rcases h with ⟨f, rfl, htag, hplace, hbody⟩ | ⟨hplace, items, rfl, hitems⟩
  · simp only [Reader.program, Data.field?, htag]
    refine hbody.items (Nat.le_refl _) fun ds hds _ => ?_
    rw [hds.statements, ok_bind, hplace.mark]
    rfl
  · have hmark : none = program.mark := hplace.mark
    simp only [Reader.program, hitems.statements, ok_bind, hmark]
    rfl

end Vimscript
