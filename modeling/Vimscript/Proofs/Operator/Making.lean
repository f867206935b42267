import Mathlib.Logic.Relation
import Vimscript.Proofs.Heap.Exchange
import Vimscript.Proofs.Operator.Stopping
import Vimscript.Proofs.Run.Result
import Vimscript.Operator.Subscript
import Vimscript.Host.Basic
import Vimscript.Syntax.Tree
import Vimscript.Variables.Store

/-!
# What operators make

An operator changes no object: it makes new ones, one after the other, and
gives one of them or one that was there before. `Made` says where a new
value can come from. It is precise about Numbers, since for those it matters
whether they are within the range of 64 bits: they are, except that a literal,
an option, the remainder of two operands and a String with a plus sign may
bring in any Number.

`Op.Tame` is the account of one operation: the heap has `Grown` by such
values, and if the operation stopped short it did so in one of the ways an
operator can.
-/

namespace Vimscript

/-- The value of an expression of `E` with a host may make such a value. -/
inductive Made (E : Expr → Prop) (host : Host) (h : Heap) : Value → Prop
  | other {v : Value} : (∀ n, v ≠ .number n) → Made E host h v
  | ranged {n : Int} : Number.minValue ≤ n → n ≤ Number.maxValue → Made E host h (.number n)
  | literal {mark : Option Mark} {n : Int} : E (.int mark n) → Made E host h (.number n)
  | setting {mark : Option Mark} {scope : Option String} {name : Name} {d : Data} {n : Int} :
      E (.option mark scope name) → host.option? name = .ok (some d) → (Data.int n).Occurs d →
      Made E host h (.number n)
  | remainder {mark : Option Mark} {left right : Expr} {a b : Ref} {m n : Int} :
      E (.binary mark (.arith .modulo) left right) → (h.value a).toNumber = .ok m →
      (h.value b).toNumber = .ok n → Made E host h (.number (Number.remainder m n))
  | leading {mark : Option Mark} {operand : Expr} {a : Ref} {s : String} :
      E (.unary mark .plus operand) → h.value a = .string s →
      Made E host h (.number (Number.leading s))

/-- A heap has grown by values that expressions make. -/
def Heap.Grown (E : Expr → Prop) (host : Host) : Heap → Heap → Prop :=
  Relation.ReflTransGen fun h h' => ∃ v, Made E host h v ∧ h' = (h.alloc v).2

namespace Made

variable {E : Expr → Prop} {host : Host} {h : Heap}

theorem truth (b : Bool) : Made E host h (.number (if b then 1 else 0)) := by
  cases b <;> exact .ranged (by decide) (by decide)

theorem byte (b : UInt8) : Made E host h (.number b.toNat) := by
  have hlt : b.toNat < 256 := b.toNat_lt
  refine .ranged ?_ ?_
  · unfold Number.minValue
    omega
  · unfold Number.maxValue
    omega

theorem wrapped (n : Int) : Made E host h (.number (Number.wrap n)) :=
  .ranged (Number.wrap_mem_range n).1 (Number.wrap_mem_range n).2

theorem quotient (m n : Int) : Made E host h (.number (Number.quotient m n)) := by
  unfold Number.quotient
  split
  · split
    · exact .ranged (by decide) (by decide)
    · split
      · exact .ranged (by decide) (by decide)
      · exact .ranged (by decide) (by decide)
  · exact wrapped _

end Made

theorem Heap.Grown.alloc {E : Expr → Prop} {host : Host} {h : Heap} {v : Value}
    (hv : Made E host h v) : h.Grown E host (Op.alloc v h).2 := .single ⟨v, hv, rfl⟩

theorem Heap.Grown.bind {α β : Type} {E : Expr → Prop} {host : Host} {h : Heap} {op : Op α}
    {f : α → Op β} (hop : h.Grown E host (op h).2)
    (hf : ∀ a h', op h = (.ok a, h') → h'.Grown E host (f a h').2) :
    h.Grown E host ((op >>= f) h).2 := by
  rcases hrun : op h with ⟨stop | a, h'⟩
  · rw [hrun] at hop
    rw [Op.bind_of_error hrun]
    exact hop
  · rw [hrun] at hop
    rw [Op.bind_of_ok hrun]
    exact hop.trans (hf a h' hrun)

namespace Op

/-- What an operation does to a heap, and how it ends there. -/
structure Tame {α : Type} (E : Expr → Prop) (host : Host) (m : Matcher) (op : Op α)
    (h : Heap) : Prop where
  grown : h.Grown E host (op h).2
  halts {stop : Stop} : (op h).1 = .error stop → (op h).2.Halts m stop

variable {α β : Type} {E : Expr → Prop} {host : Host} {m : Matcher} {h : Heap}

namespace Tame

theorem pure (a : α) : Tame E host m (Pure.pure a) h := ⟨.refl, nofun⟩

theorem result {r : Result α} (hr : Fails (h.Halts m) r) : Tame E host m (liftM r) h :=
  ⟨.refl, fun {stop} => hr stop⟩

theorem fail (c : Cause) : Tame E host m (Vimscript.fail c : Op α) h :=
  ⟨.refl, fun {stop} => Heap.fails_script c stop⟩

theorem orFault {r : Except Fault α} (hr : Fails (h.Halts m) (Vimscript.orFault r)) :
    Tame E host m (Vimscript.orFault r) h := by
  cases r with
  | ok a => exact .pure a
  | error f => exact ⟨.refl, fun {stop} => hr stop⟩

theorem alloc {v : Value} (hv : Made E host h v) : Tame E host m (Op.alloc v) h :=
  ⟨.alloc hv, nofun⟩

theorem bind {op : Op α} {f : α → Op β} (hop : Tame E host m op h)
    (hf : ∀ a h', op h = (.ok a, h') → Tame E host m (f a) h') : Tame E host m (op >>= f) h := by
  refine ⟨.bind hop.grown fun a h' hrun => (hf a h' hrun).grown, fun {stop} hstop => ?_⟩
  rcases hrun : op h with ⟨stop' | a, h'⟩
  · rw [bind_of_error hrun] at hstop ⊢
    obtain rfl := Except.error.inj hstop
    rw [← congrArg Prod.snd hrun]
    exact hop.halts (congrArg Prod.fst hrun)
  · rw [bind_of_ok hrun] at hstop ⊢
    exact (hf a h' hrun).halts hstop

/-- Reading an object, with what is done with it. -/
theorem value {r : Ref} {f : Value → Op α} (hf : Tame E host m (f (h.value r)) h) :
    Tame E host m (Op.value r >>= f) h := by
  refine .bind ⟨.refl, nofun⟩ fun v h' hv => ?_
  obtain ⟨hvalue, rfl⟩ := Prod.mk.inj hv
  obtain rfl := Except.ok.inj hvalue
  exact hf

/-- A result that was computed from the heap, with what is done with it. -/
theorem computed {r : Result α} {f : α → Op β} (hr : Fails (h.Halts m) r)
    (hf : ∀ a, r = .ok a → Tame E host m (f a) h) : Tame E host m (liftM r >>= f) h := by
  refine .bind (.result hr) fun a h' hrun => ?_
  obtain ⟨ha, rfl⟩ := Prod.mk.inj hrun
  exact hf a ha

end Tame

/-! ## Conversions -/

theorem toNumber_tame (r : Ref) : Tame E host m (toNumber r) h :=
  .value (.result (Heap.fails_of_refuses (h.value r).toNumber_fails))

theorem toText_tame (r : Ref) : Tame E host m (toText r) h :=
  .value (.result (Heap.fails_of_refuses (h.value r).toText_fails))

theorem toBool_tame (r : Ref) : Tame E host m (toBool r) h :=
  .value (.result (Heap.fails_of_refuses (h.value r).toBool_fails))

theorem toNumberD_tame (n : Int) : ∀ r : Option Ref, Tame E host m (toNumberD n r) h
  | some r => toNumber_tame r
  | none => .pure n

theorem truth_tame (b : Bool) : Tame E host m (truth b) h := .alloc (.truth b)

theorem string_tame (s : String) : Tame E host m (string s) h := .alloc (.other nofun)

theorem list_tame (items : List Ref) : Tame E host m (list items) h := .alloc (.other nofun)

end Op

/-! ## Operators -/

variable {E : Expr → Prop} {host : Host} {m : Matcher} {h : Heap} {mark : Option Mark}

namespace Arith

/-- The Number an operator gives is in the range of 64 bits, unless it is a remainder. -/
theorem onNumbers_made {op : Arith} {left right : Expr}
    (he : E (.binary mark (.arith op) left right)) {a b : Ref} {i j : Int}
    (ha : (h.value a).toNumber = .ok i) (hb : (h.value b).toNumber = .ok j) (hop : op ≠ .dot)
    (hop' : op ≠ .dotDot) : Made E host h (.number (op.onNumbers i j)) := by
  cases op with
  | add | subtract | multiply => exact .wrapped _
  | divide => exact .quotient i j
  | modulo => exact .remainder he ha hb
  | dot => exact absurd rfl hop
  | dotDot => exact absurd rfl hop'

theorem onValues_made {op : Arith} {left right : Expr}
    (he : E (.binary mark (.arith op) left right)) {a b : Ref} :
    Run.Gives (Made E host h) (op.onValues (h.value a) (h.value b)) := by
  generalize ha : h.value a = x
  generalize hb : h.value b = y
  unfold onValues
  split
  · exact .after fun _ => .after fun _ => Run.gives_ok (.other nofun)
  · exact .after fun _ => .after fun _ => Run.gives_ok (.other nofun)
  · exact Run.gives_ok (.other nofun)
  · exact Run.gives_ok (.other nofun)
  · rename_i hdot hdotDot _ _
    refine .ite (.ite (Run.gives_error _ _) ?_) ?_
    · exact .after fun _ => .after fun _ => .after fun _ => Run.gives_ok (.other nofun)
    · refine .following fun i hi => .following fun j hj => Run.gives_ok ?_
      exact onNumbers_made he (by rw [ha, hi]) (by rw [hb, hj]) hdot hdotDot

theorem apply_tame {op : Arith} {left right : Expr}
    (he : E (.binary mark (.arith op) left right)) (a b : Ref) :
    Op.Tame E host m (op.apply a b) h := by
  refine .value (.value ?_)
  have hfails : Fails (h.Halts m) (op.onValues (h.value a) (h.value b)) := by
    refine (onValues_fails op _ _).mono fun stop hstop => ?_
    exact hstop.elim Heap.halts_of_refuses Heap.halts_of_refuses
  exact .computed hfails fun v hv => .alloc (onValues_made he v hv)

end Arith

theorem compare_tame (relation : Relation) (rule : CaseRule) (a b : Ref) :
    Op.Tame E host m ((BinaryOp.compare relation rule).apply (some m) a b) h := by
  refine .bind ?_ fun holds h' _ => Op.truth_tame holds
  have hread : Op.reading (fun h => h.compares (some m) relation rule a b) h
      = (h.compares (some m) relation rule a b, h) := by
    unfold Op.reading
    rw [Op.bind_of_ok (show (get : Op Heap) h = (.ok h, h) from rfl)]
    dsimp only
    cases h.compares (some m) relation rule a b <;> rfl
  constructor
  · rw [hread]
    exact .refl
  · intro stop hstop
    rw [hread] at hstop ⊢
    exact Heap.compares_fails relation rule a b stop hstop

theorem unary_tame {op : UnaryOp} {operand : Expr} (he : E (.unary mark op operand)) (a : Ref) :
    Op.Tame E host m (op.apply a) h := by
  refine .value ?_
  generalize hv : h.value a = v
  have hrefuses : ∀ {α : Type} {r : Result α}, Fails v.Refuses r → Fails (h.Halts m) r := by
    intro α r hr
    rw [← hv] at hr
    exact Heap.fails_of_refuses hr
  split
  · exact .computed (hrefuses v.toBool_fails) fun b _ => Op.truth_tame _
  · exact .alloc (.other nofun)
  · exact .computed (hrefuses v.toNumber_fails) fun n _ => .alloc (.wrapped _)
  · exact .pure a
  · exact .pure a
  · rename_i hnumber
    refine .computed (hrefuses v.toNumber_fails) fun n hn => .alloc ?_
    rcases Value.toNumber_eq_ok hn with rfl | ⟨s, rfl, rfl⟩
    · exact absurd rfl (hnumber n)
    · exact .leading he hv

namespace Op

/-! ## Items and slices -/

theorem boundTo_tame (dict r : Ref) : Tame E host m (boundTo dict r) h := by
  refine .value ?_
  split
  · split
    · exact .pure r
    · exact .alloc (.other nofun)
  · exact .pure r

/-- Refusing an index, which is shown in the error. -/
theorem refuseIndex_tame {key : Ref} {i : Int} (hi : (h.value key).toNumber = .ok i)
    (cause : String → Cause) :
    Tame E host m (do Vimscript.fail (cause (← orFault (Number.write i))) : Op Ref) h := by
  refine .bind ?_ fun text h' _ => .fail _
  exact .orFault (Heap.fails_of_refuses (Value.write_fails hi))

theorem index_tame (target key : Ref) : Tame E host m (index target key) h := by
  refine .value ?_
  split
  · refine .bind (toText_tame key) fun k h' _ => ?_
    split
    · exact boundTo_tame _ _
    · exact .fail _
  · refine .bind (toNumber_tame key) fun i h' hrun => ?_
    obtain ⟨hi, rfl⟩ := Prod.mk.inj hrun
    split
    · exact .pure _
    · exact refuseIndex_tame hi _
  · refine .bind (toNumber_tame key) fun i h' hrun => ?_
    obtain ⟨hi, rfl⟩ := Prod.mk.inj hrun
    split
    · exact .alloc (.byte _)
    · exact refuseIndex_tame hi _
  · exact .fail _
  · exact .fail _
  · refine .bind (.result (Heap.fails_of_refuses (h.value target).toText_fails)) fun s h' _ => ?_
    refine .bind (toNumber_tame key) fun i h'' _ => ?_
    split
    · exact string_tame _
    · exact string_tame _

theorem sliceOf_tame {α : Type} (items : List α) (first last : Option Ref) :
    Tame E host m (sliceOf items first last) h :=
  .bind (toNumberD_tame _ first) fun _ _ _ => .bind (toNumberD_tame _ last) fun _ _ _ => .pure _

theorem slice_tame (target : Ref) (first last : Option Ref) :
    Tame E host m (slice target first last) h := by
  refine .value ?_
  split
  · exact .bind (sliceOf_tame _ _ _) fun _ _ _ => list_tame _
  · exact .bind (sliceOf_tame _ _ _) fun _ _ _ => .alloc (.other nofun)
  · exact .fail _
  · exact .fail _
  · exact .fail _
  · refine .bind (.result (Heap.fails_of_refuses (h.value target).toText_fails)) fun s h' _ => ?_
    exact .bind (sliceOf_tame _ _ _) fun _ _ _ => string_tame _

/-! ## Variables -/

theorem space_tame (sp : Spaces) (scope : Option Scope) (c : Context) :
    Tame E host m (sp.space scope c) h := by
  unfold Spaces.space
  split
  · exact .pure _
  · exact .fail _

theorem getOrFail_tame (sp : Spaces) (scope : Option Scope) (name : String) (c : Context) :
    Tame E host m (sp.getOrFail scope name c) h := by
  have hsearched : Tame E host m (sp.searched scope name c) h := by
    unfold Spaces.searched
    split
    · exact .pure _
    · exact .fail _
  have hget : Tame E host m (sp.get? scope name c) h :=
    .bind hsearched fun namespaces h' _ => .bind ⟨.refl, nofun⟩ fun _ _ _ => .pure _
  refine .bind hget fun found h' _ => ?_
  split
  · exact .pure _
  · exact .fail _

/-! ## Options -/

mutual

/-- The value of data is made of the Numbers in the data. -/
theorem ofData_grown : ∀ {d : Data} {h : Heap},
    (∀ n, (Data.int n).Occurs d → ∀ h, Made E host h (.number n)) →
    h.Grown E host (ofData d h).2
  | .null, _, _ => by
      rw [ofData]
      exact .alloc (.truth false)
  | .bool b, _, _ => by
      rw [ofData]
      exact .alloc (.truth b)
  | .int n, h, hd => by
      rw [ofData]
      exact .alloc (hd n .here h)
  | .float _, _, _ | .text _, _, _ | .bytes _, _, _ => by
      rw [ofData]
      exact .alloc (.other nofun)
  | .list items, h, hd => by
      rw [ofData]
      refine .bind (ofItems_grown fun d hmem n hn => hd n (.item hmem hn)) fun rs h' _ => ?_
      exact .alloc (.other nofun)
  | .map entries, h, hd => by
      rw [ofData]
      refine .bind (ofEntries_grown fun e he n hn => hd n (.entry he hn)) fun es h' _ => ?_
      exact .alloc (.other nofun)
  | .foreign, _, _ => by
      rw [ofData]
      exact .refl

theorem ofItems_grown : ∀ {items : List Data} {h : Heap},
    (∀ d ∈ items, ∀ n, (Data.int n).Occurs d → ∀ h, Made E host h (.number n)) →
    h.Grown E host (ofItems items h).2
  | [], _, _ => by
      rw [ofItems]
      exact .refl
  | d :: rest, h, hd => by
      rw [ofItems]
      rw [List.forall_mem_cons] at hd
      exact .bind (ofData_grown hd.1) fun r h' _ => .bind (ofItems_grown hd.2) fun rs h'' _ => .refl

theorem ofEntries_grown : ∀ {made : Entries Ref} {entries : List (Key × Data)} {h : Heap},
    (∀ e ∈ entries, ∀ n, (Data.int n).Occurs e.2 → ∀ h, Made E host h (.number n)) →
    h.Grown E host (ofEntries made entries h).2
  | _, [], _, _ => by
      rw [ofEntries]
      exact .refl
  | _, (.text k, d) :: rest, h, hd => by
      rw [ofEntries]
      rw [List.forall_mem_cons] at hd
      exact .bind (ofData_grown hd.1) fun r h' _ => ofEntries_grown hd.2
  | _, (.null, _) :: _, _, _ | _, (.bool _, _) :: _, _, _ | _, (.int _, _) :: _, _, _
  | _, (.float _, _) :: _, _, _ => by
      rw [ofEntries]
      · exact .refl
      · exact fun _ => nofun

end

end Op

end Vimscript
