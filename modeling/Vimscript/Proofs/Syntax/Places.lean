import Vimscript.Proofs.Syntax.Reading
import Vimscript.Syntax.Same

/-!
# Trees with places put in

Places take no part in the comparison of code. A tree of some code with
places put in anywhere is, place by place, the tree of other code, which
is the same but for its places. It also compares as the same, unless a
decimal literal is not a number: such a literal differs from itself.
-/

namespace Vimscript

open Reader (Fields)

/-! ## Literals that differ from themselves -/

mutual

/-- Whether a literal of an expression is not a number. -/
def Expr.hasNaN : Expr → Bool
  | .float _ x => x.isNaN
  | .list _ items => exprsHaveNaN items
  | .dict _ entries => pairsHaveNaN entries
  | .var _ _ parts => partsHaveNaN parts
  | .binary _ _ left right => left.hasNaN || right.hasNaN
  | .unary _ _ operand => operand.hasNaN
  | .ternary _ condition then_ else_ => condition.hasNaN || then_.hasNaN || else_.hasNaN
  | .falsy _ left right => left.hasNaN || right.hasNaN
  | .index _ target key => target.hasNaN || key.hasNaN
  | .slice _ target first last => target.hasNaN || exprHasNaN? first || exprHasNaN? last
  | .call _ _ _ args => exprsHaveNaN args
  | .funcrefCall _ target args => target.hasNaN || exprsHaveNaN args
  | .lambda _ _ body => body.hasNaN
  | .lambdaCall _ _ _ body args => body.hasNaN || exprsHaveNaN args
  | .int .. | .truth .. | .text .. | .option .. | .register .. | .environment ..
  | .wholeScope .. => false

/-- Whether a literal of some expressions is not a number. -/
def exprsHaveNaN : List Expr → Bool
  | [] => false
  | e :: es => e.hasNaN || exprsHaveNaN es

/-- Whether a literal of some pairs is not a number. -/
def pairsHaveNaN : List (Expr × Expr) → Bool
  | [] => false
  | (k, v) :: es => k.hasNaN || v.hasNaN || pairsHaveNaN es

/-- Whether a literal of a name is not a number. -/
def partsHaveNaN : List NamePart → Bool
  | [] => false
  | .computed e :: ps => e.hasNaN || partsHaveNaN ps
  | .plain _ :: ps | .misplaced _ :: ps => partsHaveNaN ps

/-- Whether a literal of an expression that may be missing is not a number. -/
def exprHasNaN? : Option Expr → Bool
  | none => false
  | some e => e.hasNaN

end

/-- Whether a literal of a default is not a number. -/
def Signature.hasNaN (signature : Signature) : Bool :=
  signature.defaults.any fun d => d.2.hasNaN

mutual

/-- Whether a literal of a statement is not a number. -/
def Stmt.hasNaN : Stmt → Bool
  | .assign _ target _ value => target.hasNaN || value.hasNaN
  | .unlet _ targets _ | .lock _ targets _ | .unlock _ targets _ => exprsHaveNaN targets
  | .echo _ _ args | .execute _ args => exprsHaveNaN args
  | .call _ e range => e.hasNaN || range.any fun r => r.1.hasNaN || r.2.hasNaN
  | .conditional _ branches otherwise => branchesHaveNaN branches || blockHasNaN? otherwise
  | .whileLoop _ condition body => condition.hasNaN || stmtsHaveNaN body
  | .forLoop _ target iterable body => target.hasNaN || iterable.hasNaN || stmtsHaveNaN body
  | .forUnpack _ targets iterable body =>
    exprsHaveNaN targets || iterable.hasNaN || stmtsHaveNaN body
  | .tryCatch _ body clauses cleanup =>
    stmtsHaveNaN body || clausesHaveNaN clauses || blockHasNaN? cleanup
  | .throw _ value => value.hasNaN
  | .returning _ value => exprHasNaN? value
  | .function _ _ _ signature _ body => signature.hasNaN || stmtsHaveNaN body
  | .dictFunction _ target _ signature _ body =>
    target.hasNaN || signature.hasNaN || stmtsHaveNaN body
  | .breaking | .continuing | .finish | .delFunction .. | .command .. => false

/-- Whether a literal of some statements is not a number. -/
def stmtsHaveNaN : List Stmt → Bool
  | [] => false
  | s :: ss => s.hasNaN || stmtsHaveNaN ss

/-- Whether a literal of some branches is not a number. -/
def branchesHaveNaN : List Branch → Bool
  | [] => false
  | .mk condition body :: bs => condition.hasNaN || stmtsHaveNaN body || branchesHaveNaN bs

/-- Whether a literal of some clauses is not a number. -/
def clausesHaveNaN : List Clause → Bool
  | [] => false
  | .mk _ body :: cs => stmtsHaveNaN body || clausesHaveNaN cs

/-- Whether a literal of statements that may be missing is not a number. -/
def blockHasNaN? : Option (List Stmt) → Bool
  | none => false
  | some body => stmtsHaveNaN body

end

/-- A number equals itself, and only a number does. -/
theorem Decimal.beq_self (x : Float) : (x == x) = !x.isNaN := by
  change x.toModel.unpack.beq x.toModel.unpack = !x.toModel.unpack.isNaN
  cases x.toModel.unpack with
  | infinity sign => cases sign <;> rfl
  | notANumber | zero _ => rfl
  | finite sign m e _ =>
      have hcompare : (compare e e).then (compare m m) = .eq := by simp
      cases sign with
      | positive =>
          change (some ((compare e e).then (compare m m)) == some .eq) = true
          rw [hcompare]
          rfl
      | negative =>
          change (some ((compare e e).then (compare m m)).swap == some .eq) = true
          rw [hcompare]
          rfl

/-! ## Fields -/

theorem Data.IsText.same_self {d : Data} (h : d.IsText) : d.same d = true := by
  obtain ⟨s, rfl⟩ := h
  simp [Data.same]

theorem Data.sameAll_self : ∀ {ds : List Data}, (∀ d ∈ ds, d.IsText) → Data.sameAll ds ds = true
  | [], _ => rfl
  | d :: ds, h => by
      rw [Data.sameAll, (h d (List.mem_cons_self ..)).same_self,
        Data.sameAll_self fun d hd => h d (List.mem_cons_of_mem _ hd)]
      rfl

section Fields

variable {fields : Fields} {name : String} {β : Type}

theorem Given.pick {P : Data → Prop} {Q : β → Data → Prop} {R : β → Prop}
    (h : Given fields name P) (hP : ∀ d, P d → ∃ b, Q b d ∧ R b) :
    ∃ b, Given fields name (Q b) ∧ R b := by
  obtain ⟨d, hd, hPd⟩ := h
  obtain ⟨b, hQ, hR⟩ := hP d hPd
  exact ⟨b, ⟨d, hd, hQ⟩, hR⟩

theorem Listed.pick {P : List Data → Prop} {Q : β → List Data → Prop} {R : β → Prop}
    (h : Listed fields name P) (hP : ∀ ds, P ds → ∃ b, Q b ds ∧ R b) :
    ∃ b, Listed fields name (Q b) ∧ R b := by
  rcases h with ⟨homitted, hnil⟩ | ⟨d, hd, ds, rfl, hds⟩
  · obtain ⟨b, hQ, hR⟩ := hP [] hnil
    exact ⟨b, .inl ⟨homitted, hQ⟩, hR⟩
  · obtain ⟨b, hQ, hR⟩ := hP ds hds
    exact ⟨b, .inr ⟨_, hd, ds, rfl, hQ⟩, hR⟩

/-- The place the reader finds is the one that the fields give. -/
theorem Placing.exact_mark (fields : Fields) : Placing.exact fields (Reader.mark fields) := by
  cases hline : Data.lookup? "line" fields with
  | none =>
      have homitted : Omitted fields "line" := .inl hline
      rw [Reader.mark, homitted.optional?]
      exact homitted
  | some line =>
      by_cases hnull : line = .null
      · have homitted : Omitted fields "line" := .inr (hnull ▸ hline)
        rw [Reader.mark, homitted.optional?]
        exact homitted
      · rw [Reader.mark, Reader.optional?_of_lookup? hline hnull]
        exact ⟨hnull, hline, rfl⟩

theorem Node.place {tag : String} {P : Fields → Prop}
    (htag : Data.lookup? "tag" fields = some (.text tag)) (hP : P fields) :
    Node .exact tag (Reader.mark fields) P (.map fields) :=
  ⟨fields, rfl, htag, Placing.exact_mark fields, hP⟩

end Fields

/-! ## Expressions -/

mutual

/-- A tree of an expression with places put in is the tree of that expression with these places. -/
theorem Expr.WrittenAs.place : ∀ {e : Expr} {d : Data}, e.WrittenAs .any d →
    ∃ e' : Expr, e'.WrittenAs .exact d ∧ e'.same e = !e.hasNaN
  | .int m value, d, h => by
      obtain ⟨f, rfl, htag, -, hvalue⟩ := h
      exact ⟨.int _ value, Node.place htag hvalue, by simp [Expr.same, Expr.hasNaN]⟩
  | .truth m value, d, h => by
      obtain ⟨f, rfl, htag, -, hvalue⟩ := h
      exact ⟨.truth _ value, Node.place htag hvalue, by simp [Expr.same, Expr.hasNaN]⟩
  | .float m value, d, h => by
      obtain ⟨f, rfl, htag, -, hvalue⟩ := h
      exact ⟨.float _ value, Node.place htag hvalue,
        by simp [Expr.same, Expr.hasNaN, Decimal.beq_self]⟩
  | .text m value, d, h => by
      obtain ⟨f, rfl, htag, -, hvalue⟩ := h
      exact ⟨.text _ value, Node.place htag hvalue, by simp [Expr.same, Expr.hasNaN]⟩
  | .list m items, d, h => by
      obtain ⟨f, rfl, htag, -, hitems⟩ := h
      obtain ⟨items', hitems', hs⟩ := hitems.pick fun _ => exprsWritten.place
      exact ⟨.list _ items', Node.place htag hitems', by simp [Expr.same, Expr.hasNaN, hs]⟩
  | .dict m entries, d, h => by
      obtain ⟨f, rfl, htag, -, hentries⟩ := h
      obtain ⟨entries', hentries', hs⟩ := hentries.pick fun _ => pairsWritten.place
      exact ⟨.dict _ entries', Node.place htag hentries', by simp [Expr.same, Expr.hasNaN, hs]⟩
  | .var m scope parts, d, h => by
      obtain ⟨f, rfl, htag, -, hscope, hname⟩ := h
      obtain ⟨parts', hparts', hs⟩ := hname.pick (Q := fun parts d =>
        (∃ items, d = .list items ∧ partsWritten .exact parts items) ∨
          partsWritten .exact parts [d]) fun d hd => by
        rcases hd with ⟨items, rfl, hitems⟩ | hone
        · obtain ⟨parts', hparts', hs⟩ := hitems.place
          exact ⟨parts', .inl ⟨items, rfl, hparts'⟩, hs⟩
        · obtain ⟨parts', hparts', hs⟩ := hone.place
          exact ⟨parts', .inr hparts', hs⟩
      exact ⟨.var _ scope parts', Node.place htag ⟨hscope, hparts'⟩,
        by simp [Expr.same, Expr.hasNaN, hs]⟩
  | .option m scope name, d, h => by
      obtain ⟨f, rfl, htag, -, hscope, hname⟩ := h
      exact ⟨.option _ scope name, Node.place htag ⟨hscope, hname⟩,
        by simp [Expr.same, Expr.hasNaN, hname.1.same_self]⟩
  | .register m name, d, h => by
      obtain ⟨f, rfl, htag, -, hname⟩ := h
      exact ⟨.register _ name, Node.place htag hname, by simp [Expr.same, Expr.hasNaN]⟩
  | .environment m name, d, h => by
      obtain ⟨f, rfl, htag, -, hname⟩ := h
      exact ⟨.environment _ name, Node.place htag hname, by simp [Expr.same, Expr.hasNaN]⟩
  | .wholeScope m scope, d, h => by
      obtain ⟨f, rfl, htag, -, hscope⟩ := h
      exact ⟨.wholeScope _ scope, Node.place htag hscope, by simp [Expr.same, Expr.hasNaN]⟩
  | .binary m op left right, d, h => by
      obtain ⟨f, rfl, htag, -, hop, hleft, hright⟩ := h
      obtain ⟨left', hleft', hl⟩ := hleft.pick fun _ => Expr.WrittenAs.place
      obtain ⟨right', hright', hr⟩ := hright.pick fun _ => Expr.WrittenAs.place
      exact ⟨.binary _ op left' right', Node.place htag ⟨hop, hleft', hright'⟩,
        by simp [Expr.same, Expr.hasNaN, hl, hr]⟩
  | .unary m op operand, d, h => by
      obtain ⟨f, rfl, htag, -, hop, hoperand⟩ := h
      obtain ⟨operand', hoperand', ho⟩ := hoperand.pick fun _ => Expr.WrittenAs.place
      exact ⟨.unary _ op operand', Node.place htag ⟨hop, hoperand'⟩,
        by simp [Expr.same, Expr.hasNaN, ho]⟩
  | .ternary m condition then_ else_, d, h => by
      obtain ⟨f, rfl, htag, -, hcondition, hthen, helse⟩ := h
      obtain ⟨condition', hcondition', hc⟩ := hcondition.pick fun _ => Expr.WrittenAs.place
      obtain ⟨then', hthen', ht⟩ := hthen.pick fun _ => Expr.WrittenAs.place
      obtain ⟨else', helse', he⟩ := helse.pick fun _ => Expr.WrittenAs.place
      exact ⟨.ternary _ condition' then' else', Node.place htag ⟨hcondition', hthen', helse'⟩,
        by simp [Expr.same, Expr.hasNaN, hc, ht, he]⟩
  | .falsy m left right, d, h => by
      obtain ⟨f, rfl, htag, -, hleft, hright⟩ := h
      obtain ⟨left', hleft', hl⟩ := hleft.pick fun _ => Expr.WrittenAs.place
      obtain ⟨right', hright', hr⟩ := hright.pick fun _ => Expr.WrittenAs.place
      exact ⟨.falsy _ left' right', Node.place htag ⟨hleft', hright'⟩,
        by simp [Expr.same, Expr.hasNaN, hl, hr]⟩
  | .index m target key, d, h => by
      obtain ⟨f, rfl, htag, -, htarget, hkey⟩ := h
      obtain ⟨target', htarget', ht⟩ := htarget.pick fun _ => Expr.WrittenAs.place
      obtain ⟨key', hkey', hk⟩ := hkey.pick fun _ => Expr.WrittenAs.place
      exact ⟨.index _ target' key', Node.place htag ⟨htarget', hkey'⟩,
        by simp [Expr.same, Expr.hasNaN, ht, hk]⟩
  | .slice m target first last, d, h => by
      obtain ⟨f, rfl, htag, -, htarget, hfirst, hlast⟩ := h
      obtain ⟨target', htarget', ht⟩ := htarget.pick fun _ => Expr.WrittenAs.place
      obtain ⟨first', hfirst', hf⟩ := hfirst.place
      obtain ⟨last', hlast', hl⟩ := hlast.place
      exact ⟨.slice _ target' first' last', Node.place htag ⟨htarget', hfirst', hlast'⟩,
        by simp [Expr.same, Expr.hasNaN, ht, hf, hl]⟩
  | .call m scope name args, d, h => by
      obtain ⟨f, rfl, htag, -, hscope, hname, hargs⟩ := h
      obtain ⟨args', hargs', ha⟩ := hargs.pick fun _ => exprsWritten.place
      exact ⟨.call _ scope name args', Node.place htag ⟨hscope, hname, hargs'⟩,
        by simp [Expr.same, Expr.hasNaN, hname.1.same_self, ha]⟩
  | .funcrefCall m target args, d, h => by
      obtain ⟨f, rfl, htag, -, htarget, hargs⟩ := h
      obtain ⟨target', htarget', ht⟩ := htarget.pick fun _ => Expr.WrittenAs.place
      obtain ⟨args', hargs', ha⟩ := hargs.pick fun _ => exprsWritten.place
      exact ⟨.funcrefCall _ target' args', Node.place htag ⟨htarget', hargs'⟩,
        by simp [Expr.same, Expr.hasNaN, ht, ha]⟩
  | .lambda m params body, d, h => by
      obtain ⟨f, rfl, htag, -, hparams, hbody⟩ := h
      obtain ⟨body', hbody', hb⟩ := hbody.pick fun _ => Expr.WrittenAs.place
      exact ⟨.lambda _ params body', Node.place htag ⟨hparams, hbody'⟩,
        by simp [Expr.same, Expr.hasNaN, Data.sameAll_self hparams.1, hb]⟩
  | .lambdaCall m lambdaMark params body args, d, h => by
      obtain ⟨f, rfl, htag, -, ⟨d, hd, g, rfl, hlambda, -, hparams, hbody⟩, hargs⟩ := h
      obtain ⟨body', hbody', hb⟩ := hbody.pick fun _ => Expr.WrittenAs.place
      obtain ⟨args', hargs', ha⟩ := hargs.pick fun _ => exprsWritten.place
      exact ⟨.lambdaCall _ _ params body' args',
        Node.place htag ⟨⟨_, hd, Node.place hlambda ⟨hparams, hbody'⟩⟩, hargs'⟩,
        by simp [Expr.same, Expr.hasNaN, Data.sameAll_self hparams.1, hb, ha]⟩

theorem exprsWritten.place : ∀ {es : List Expr} {ds : List Data}, exprsWritten .any es ds →
    ∃ es', exprsWritten .exact es' ds ∧ sameExprs es' es = !exprsHaveNaN es
  | [], [], _ => ⟨[], trivial, by simp [sameExprs, exprsHaveNaN]⟩
  | e :: es, d :: ds, h => by
      obtain ⟨e', he', hs⟩ := h.1.place
      obtain ⟨es', hes', hss⟩ := h.2.place
      exact ⟨e' :: es', ⟨he', hes'⟩, by simp [sameExprs, exprsHaveNaN, hs, hss]⟩

theorem pairsWritten.place : ∀ {es : List (Expr × Expr)} {ds : List Data},
    pairsWritten .any es ds →
      ∃ es', pairsWritten .exact es' ds ∧ samePairs es' es = !pairsHaveNaN es
  | [], [], _ => ⟨[], trivial, by simp [samePairs, pairsHaveNaN]⟩
  | (k, v) :: es, .list [dk, dv] :: ds, h => by
      obtain ⟨k', hk', hsk⟩ := h.1.place
      obtain ⟨v', hv', hsv⟩ := h.2.1.place
      obtain ⟨es', hes', hss⟩ := h.2.2.place
      exact ⟨(k', v') :: es', ⟨hk', hv', hes'⟩, by simp [samePairs, pairsHaveNaN, hsk, hsv, hss]⟩

theorem partsWritten.place : ∀ {ps : List NamePart} {ds : List Data}, partsWritten .any ps ds →
    ∃ ps', partsWritten .exact ps' ds ∧ sameParts ps' ps = !partsHaveNaN ps
  | [], [], _ => ⟨[], trivial, by simp [sameParts, partsHaveNaN]⟩
  | .plain s :: ps, d :: ds, h => by
      obtain ⟨ps', hps', hss⟩ := h.2.place
      exact ⟨.plain s :: ps', ⟨h.1, hps'⟩, by simp [sameParts, partsHaveNaN, hss]⟩
  | .computed e :: ps, d :: ds, h => by
      obtain ⟨e', he', hs⟩ := h.1.place
      obtain ⟨ps', hps', hss⟩ := h.2.place
      exact ⟨.computed e' :: ps', ⟨he', hps'⟩, by simp [sameParts, partsHaveNaN, hs, hss]⟩

theorem exprWritten?.place : ∀ {e : Option Expr} {fields : Fields} {name : String},
    exprWritten? .any fields name e →
      ∃ e', exprWritten? .exact fields name e' ∧ sameOption e' e = !exprHasNaN? e
  | none, fields, name, h => ⟨none, h, by simp [sameOption, exprHasNaN?]⟩
  | some e, fields, name, h => by
      obtain ⟨e', he', hs⟩ := Given.pick h fun _ => Expr.WrittenAs.place
      exact ⟨some e', he', by simp [sameOption, exprHasNaN?, hs]⟩

end

/-! ## Statements -/

theorem defaultsWritten.place : ∀ {es : List (Name × Expr)} {ds : List Data},
    defaultsWritten .any es ds →
      ∃ es', defaultsWritten .exact es' ds ∧
        sameDefaults es' es = !es.any fun d => d.2.hasNaN
  | [], [], _ => ⟨[], trivial, by simp [sameDefaults]⟩
  | (n, e) :: es, .list [dn, de] :: ds, h => by
      obtain ⟨htext, hname, he, hes⟩ := h
      obtain ⟨e', he', hs⟩ := he.place
      obtain ⟨es', hes', hss⟩ := hes.place
      exact ⟨(n, e') :: es', ⟨htext, hname, he', hes'⟩,
        by simp [sameDefaults, htext.same_self, hs, hss]⟩

section Fields

variable {fields : Fields}

theorem Signature.WrittenIn.place {signature : Signature} (h : signature.WrittenIn .any fields) :
    ∃ signature' : Signature, signature'.WrittenIn .exact fields ∧
      signature'.same signature = !signature.hasNaN := by
  obtain ⟨hparams, hdefaults, hvarargs, hflags⟩ := h
  obtain ⟨defaults', hdefaults', hs⟩ := hdefaults.pick fun _ => defaultsWritten.place
  exact ⟨{ signature with defaults := defaults' }, ⟨hparams, hdefaults', hvarargs, hflags⟩,
    by simp [Signature.same, Signature.hasNaN, Data.sameAll_self hparams.1, hs]⟩

theorem rangeWritten?.place {range : Option (Expr × Expr)}
    (h : rangeWritten? .any fields range) :
    ∃ range', rangeWritten? .exact fields range' ∧
      sameRange range' range = !range.any fun r => r.1.hasNaN || r.2.hasNaN := by
  cases range with
  | none => exact ⟨none, h, rfl⟩
  | some range =>
      obtain ⟨d, hd, x, y, rfl, hx, hy⟩ := h
      obtain ⟨first', hfirst', hf⟩ := hx.place
      obtain ⟨last', hlast', hl⟩ := hy.place
      exact ⟨some (first', last'), ⟨_, hd, x, y, rfl, hfirst', hlast'⟩,
        by simp [sameRange, hf, hl]⟩

theorem Patterned.same_self {pattern : Data} (h : Patterned fields pattern) :
    pattern.same pattern = true := by
  rcases h with ⟨rfl, -⟩ | ⟨htext, -⟩
  · simp [Data.same]
  · exact htext.same_self

end Fields

mutual

/-- A tree of a statement with places put in is the tree of that statement with these places. -/
theorem Stmt.WrittenAs.place : ∀ {s : Stmt} {d : Data}, s.WrittenAs .any d →
    ∃ s' : Stmt, s'.WrittenAs .exact d ∧ s'.same s = !s.hasNaN
  | .assign m target op value, d, h => by
      obtain ⟨f, rfl, htag, -, hop, htarget, hvalue⟩ := h
      obtain ⟨target', htarget', ht⟩ := htarget.pick fun _ => Expr.WrittenAs.place
      obtain ⟨value', hvalue', hv⟩ := hvalue.pick fun _ => Expr.WrittenAs.place
      exact ⟨.assign _ target' op value', Node.place htag ⟨hop, htarget', hvalue'⟩,
        by simp [Stmt.same, Stmt.hasNaN, ht, hv]⟩
  | .unlet m targets bang, d, h => by
      obtain ⟨f, rfl, htag, -, htargets, hbang⟩ := h
      obtain ⟨targets', htargets', ht⟩ := htargets.pick fun _ => exprsWritten.place
      exact ⟨.unlet _ targets' bang, Node.place htag ⟨htargets', hbang⟩,
        by simp [Stmt.same, Stmt.hasNaN, ht]⟩
  | .lock m targets depth, d, h => by
      obtain ⟨f, rfl, htag, -, htargets, hdepth⟩ := h
      obtain ⟨targets', htargets', ht⟩ := htargets.pick fun _ => exprsWritten.place
      exact ⟨.lock _ targets' depth, Node.place htag ⟨htargets', hdepth⟩,
        by simp [Stmt.same, Stmt.hasNaN, ht]⟩
  | .unlock m targets depth, d, h => by
      obtain ⟨f, rfl, htag, -, htargets, hdepth⟩ := h
      obtain ⟨targets', htargets', ht⟩ := htargets.pick fun _ => exprsWritten.place
      exact ⟨.unlock _ targets' depth, Node.place htag ⟨htargets', hdepth⟩,
        by simp [Stmt.same, Stmt.hasNaN, ht]⟩
  | .echo m kind args, d, h => by
      obtain ⟨f, rfl, htag, -, hargs⟩ := h
      obtain ⟨args', hargs', ha⟩ := hargs.pick fun _ => exprsWritten.place
      exact ⟨.echo _ kind args', Node.place htag hargs', by simp [Stmt.same, Stmt.hasNaN, ha]⟩
  | .call m e range, d, h => by
      obtain ⟨f, rfl, htag, -, hexpr, hrange⟩ := h
      obtain ⟨e', he', he⟩ := hexpr.pick fun _ => Expr.WrittenAs.place
      obtain ⟨range', hrange', hr⟩ := hrange.place
      exact ⟨.call _ e' range', Node.place htag ⟨he', hrange'⟩,
        by simp [Stmt.same, Stmt.hasNaN, he, hr]⟩
  | .execute m args, d, h => by
      obtain ⟨f, rfl, htag, -, hargs⟩ := h
      obtain ⟨args', hargs', ha⟩ := hargs.pick fun _ => exprsWritten.place
      exact ⟨.execute _ args', Node.place htag hargs', by simp [Stmt.same, Stmt.hasNaN, ha]⟩
  | .conditional m branches otherwise, d, h => by
      obtain ⟨f, rfl, htag, -, hne, hbranches, hotherwise⟩ := h
      obtain ⟨branches', hbranches', hb, hlength⟩ :=
        hbranches.pick fun _ => branchesWritten.place
      obtain ⟨otherwise', hotherwise', ho⟩ := hotherwise.place
      have hne' : branches' ≠ [] := fun hnil => hne (List.eq_nil_of_length_eq_zero
        (hlength ▸ congrArg List.length hnil))
      exact ⟨.conditional _ branches' otherwise', Node.place htag ⟨hne', hbranches', hotherwise'⟩,
        by simp [Stmt.same, Stmt.hasNaN, hb, ho]⟩
  | .whileLoop m condition body, d, h => by
      obtain ⟨f, rfl, htag, -, hcondition, hbody⟩ := h
      obtain ⟨condition', hcondition', hc⟩ := hcondition.pick fun _ => Expr.WrittenAs.place
      obtain ⟨body', hbody', hb⟩ := hbody.pick fun _ => stmtsWritten.place
      exact ⟨.whileLoop _ condition' body', Node.place htag ⟨hcondition', hbody'⟩,
        by simp [Stmt.same, Stmt.hasNaN, hc, hb]⟩
  | .forLoop m target iterable body, d, h => by
      obtain ⟨f, rfl, htag, -, htarget, hone, hiterable, hbody⟩ := h
      obtain ⟨target', htarget', ht⟩ := htarget.pick fun _ => Expr.WrittenAs.place
      obtain ⟨iterable', hiterable', hi⟩ := hiterable.pick fun _ => Expr.WrittenAs.place
      obtain ⟨body', hbody', hb⟩ := hbody.pick fun _ => stmtsWritten.place
      exact ⟨.forLoop _ target' iterable' body',
        Node.place htag ⟨htarget', hone, hiterable', hbody'⟩,
        by simp [Stmt.same, Stmt.hasNaN, ht, hi, hb]⟩
  | .forUnpack m targets iterable body, d, h => by
      obtain ⟨f, rfl, htag, -, ⟨d, hd, items, rfl, hitems⟩, hiterable, hbody⟩ := h
      obtain ⟨targets', htargets', ht⟩ := hitems.place
      obtain ⟨iterable', hiterable', hi⟩ := hiterable.pick fun _ => Expr.WrittenAs.place
      obtain ⟨body', hbody', hb⟩ := hbody.pick fun _ => stmtsWritten.place
      exact ⟨.forUnpack _ targets' iterable' body',
        Node.place htag ⟨⟨_, hd, items, rfl, htargets'⟩, hiterable', hbody'⟩,
        by simp [Stmt.same, Stmt.hasNaN, ht, hi, hb]⟩
  | .tryCatch m body clauses cleanup, d, h => by
      obtain ⟨f, rfl, htag, -, hbody, hclauses, hcleanup⟩ := h
      obtain ⟨body', hbody', hb⟩ := hbody.pick fun _ => stmtsWritten.place
      obtain ⟨clauses', hclauses', hc⟩ := hclauses.pick fun _ => clausesWritten.place
      obtain ⟨cleanup', hcleanup', hu⟩ := hcleanup.place
      exact ⟨.tryCatch _ body' clauses' cleanup', Node.place htag ⟨hbody', hclauses', hcleanup'⟩,
        by simp [Stmt.same, Stmt.hasNaN, hb, hc, hu]⟩
  | .throw m value, d, h => by
      obtain ⟨f, rfl, htag, -, hvalue⟩ := h
      obtain ⟨value', hvalue', hv⟩ := hvalue.pick fun _ => Expr.WrittenAs.place
      exact ⟨.throw _ value', Node.place htag hvalue', by simp [Stmt.same, Stmt.hasNaN, hv]⟩
  | .returning m value, d, h => by
      obtain ⟨f, rfl, htag, -, hvalue⟩ := h
      obtain ⟨value', hvalue', hv⟩ := hvalue.place
      exact ⟨.returning _ value', Node.place htag hvalue', by simp [Stmt.same, Stmt.hasNaN, hv]⟩
  | .breaking, d, h => ⟨.breaking, h, by simp [Stmt.same, Stmt.hasNaN]⟩
  | .continuing, d, h => ⟨.continuing, h, by simp [Stmt.same, Stmt.hasNaN]⟩
  | .finish, d, h => ⟨.finish, h, by simp [Stmt.same, Stmt.hasNaN]⟩
  | .function m scope name signature bang body, d, h => by
      obtain ⟨f, rfl, htag, -, hscope, hname, hsignature, hbang, hbody⟩ := h
      obtain ⟨signature', hsignature', hg⟩ := hsignature.place
      obtain ⟨body', hbody', hb⟩ := hbody.pick fun _ => stmtsWritten.place
      exact ⟨.function _ scope name signature' bang body',
        Node.place htag ⟨hscope, hname, hsignature', hbang, hbody'⟩,
        by simp [Stmt.same, Stmt.hasNaN, hname.1.same_self, hg, hb]⟩
  | .dictFunction m target key signature bang body, d, h => by
      obtain ⟨f, rfl, htag, -, htarget, hkey, hsignature, hbang, hbody⟩ := h
      obtain ⟨target', htarget', ht⟩ := htarget.pick fun _ => Expr.WrittenAs.place
      obtain ⟨signature', hsignature', hg⟩ := hsignature.place
      obtain ⟨body', hbody', hb⟩ := hbody.pick fun _ => stmtsWritten.place
      exact ⟨.dictFunction _ target' key signature' bang body',
        Node.place htag ⟨htarget', hkey, hsignature', hbang, hbody'⟩,
        by simp [Stmt.same, Stmt.hasNaN, hkey.1.same_self, ht, hg, hb]⟩
  | .delFunction m scope name bang, d, h => by
      obtain ⟨f, rfl, htag, -, hscope, hname, hbang⟩ := h
      exact ⟨.delFunction _ scope name bang, Node.place htag ⟨hscope, hname, hbang⟩,
        by simp [Stmt.same, Stmt.hasNaN, hname.1.same_self]⟩
  | .command m name argument bang, d, h => by
      obtain ⟨f, rfl, htag, -, hname, hargument, hbang⟩ := h
      exact ⟨.command _ name argument bang, Node.place htag ⟨hname, hargument, hbang⟩,
        by simp [Stmt.same, Stmt.hasNaN, hname.1.same_self]⟩

theorem stmtsWritten.place : ∀ {ss : List Stmt} {ds : List Data}, stmtsWritten .any ss ds →
    ∃ ss', stmtsWritten .exact ss' ds ∧ sameStmts ss' ss = !stmtsHaveNaN ss
  | [], [], _ => ⟨[], trivial, by simp [sameStmts, stmtsHaveNaN]⟩
  | s :: ss, d :: ds, h => by
      obtain ⟨s', hs', hs⟩ := h.1.place
      obtain ⟨ss', hss', hss⟩ := h.2.place
      exact ⟨s' :: ss', ⟨hs', hss'⟩, by simp [sameStmts, stmtsHaveNaN, hs, hss]⟩

theorem branchesWritten.place : ∀ {bs : List Branch} {ds : List Data}, branchesWritten .any bs ds →
    ∃ bs', branchesWritten .exact bs' ds ∧ sameBranches bs' bs = (!branchesHaveNaN bs) ∧
      bs'.length = bs.length
  | [], [], _ => ⟨[], trivial, by simp [sameBranches, branchesHaveNaN], rfl⟩
  | .mk condition body :: bs, .list [d, .list items] :: ds, h => by
      obtain ⟨hcondition, hbody, hbs⟩ := h
      obtain ⟨condition', hcondition', hc⟩ := hcondition.place
      obtain ⟨body', hbody', hb⟩ := hbody.place
      obtain ⟨bs', hbs', hs, hlength⟩ := hbs.place
      exact ⟨.mk condition' body' :: bs', ⟨hcondition', hbody', hbs'⟩,
        by simp [sameBranches, branchesHaveNaN, hc, hb, hs], congrArg Nat.succ hlength⟩

theorem clausesWritten.place : ∀ {cs : List Clause} {ds : List Data}, clausesWritten .any cs ds →
    ∃ cs', clausesWritten .exact cs' ds ∧ sameClauses cs' cs = !clausesHaveNaN cs
  | [], [], _ => ⟨[], trivial, by simp [sameClauses, clausesHaveNaN]⟩
  | .mk pattern body :: cs, .map f :: ds, h => by
      obtain ⟨hpattern, hbody, hcs⟩ := h
      obtain ⟨body', hbody', hb⟩ := hbody.pick fun _ => stmtsWritten.place
      obtain ⟨cs', hcs', hs⟩ := hcs.place
      exact ⟨.mk pattern body' :: cs', ⟨hpattern, hbody', hcs'⟩,
        by simp [sameClauses, clausesHaveNaN, hpattern.same_self, hb, hs]⟩

theorem blockWritten?.place : ∀ {body : Option (List Stmt)} {fields : Fields} {name : String},
    blockWritten? .any fields name body →
      ∃ body', blockWritten? .exact fields name body' ∧ sameBody? body' body = !blockHasNaN? body
  | none, fields, name, h => ⟨none, h, by simp [sameBody?, blockHasNaN?]⟩
  | some body, fields, name, h => by
      obtain ⟨d, hd, items, rfl, hitems⟩ := h
      obtain ⟨body', hbody', hb⟩ := hitems.place
      exact ⟨some body', ⟨_, hd, items, rfl, hbody'⟩, by simp [sameBody?, blockHasNaN?, hb]⟩

end

/-- Whether a literal of a script is not a number. -/
def Program.hasNaN (program : Program) : Bool := stmtsHaveNaN program.body

/-- A tree of a script with places put in is the tree of that script with these places. -/
theorem Program.WrittenAs.place {program : Program} {d : Data} (h : program.WrittenAs .any d) :
    ∃ program' : Program, program'.WrittenAs .exact d ∧
      program'.same program = !program.hasNaN := by
  rcases h with ⟨f, rfl, htag, -, hbody⟩ | ⟨-, items, rfl, hitems⟩
  · obtain ⟨body', hbody', hb⟩ := hbody.pick fun _ => stmtsWritten.place
    exact ⟨⟨_, body'⟩, .inl (Node.place htag hbody'), hb⟩
  · obtain ⟨body', hbody', hb⟩ := hitems.place
    exact ⟨⟨none, body'⟩, .inr ⟨.inl rfl, items, rfl, hbody'⟩, hb⟩

end Vimscript
