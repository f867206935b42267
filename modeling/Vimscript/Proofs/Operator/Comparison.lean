import Vimscript.Proofs.Heap.Equality
import Vimscript.Proofs.Operator.Stopping

/-!
# Comparison operators

A comparison goes through the kinds of both operands, but what it does with
them is one of three things: it refuses them, it asks whether they are equal,
or it puts them in order (`Comparing`). Each relation is then an answer to
what has been found out (`related_eq`), and the laws that connect the
relations are laws of the answers.

Two of them fail for some operands. Exchanging the operands gives another
result just when both refuse to be Numbers, each in its own way
(`Heap.RefuseDifferently`). And `==` finds other operands of one kind equal
than the comparison of items does: all Floats that are not a number, no
Blobs, and Funcrefs by their arguments with regard to case
(`Heap.ComparedAsItems`).
-/

namespace Vimscript

/-! ## Floats -/

section

open Float.Model

theorem compare_unpacked_swap (a b : UnpackedFloat) :
    b.compare a = (a.compare b).map Ordering.swap := by
  rcases a with (_ | _) | _ | (_ | _) | ⟨_ | _, m, e, _⟩ <;>
    rcases b with (_ | _) | _ | (_ | _) | ⟨_ | _, n, f, _⟩ <;>
    first
    | rfl
    | refine congrArg some ?_
      simp only [Ordering.swap_then, Int.compare_swap, Nat.compare_swap]

theorem compare_unpacked_eq_none (a b : UnpackedFloat) :
    a.compare b = none ↔ a.isNaN = true ∨ b.isNaN = true := by
  rcases a with (_ | _) | _ | (_ | _) | ⟨_ | _, m, e, _⟩ <;>
    rcases b with (_ | _) | _ | (_ | _) | ⟨_ | _, n, f, _⟩ <;>
    simp [UnpackedFloat.compare, UnpackedFloat.isNaN]

/-- How two Floats lie to each other, unless one is not a number. -/
def floatOrder? (x y : Float) : Option Ordering := x.toModel.unpack.compare y.toModel.unpack

variable (x y : Float)

theorem floatOrder?_eq_none : floatOrder? x y = none ↔ x.isNaN = true ∨ y.isNaN = true :=
  compare_unpacked_eq_none _ _

theorem orderFloats_eq : orderFloats x y = (floatOrder? x y).getD .eq := by
  have hless (x y : Float) : x < y ↔ floatOrder? x y = some .lt := by
    change x.lt y = true ↔ _
    rw [Float.lt, decide_eq_true_iff]
    exact beq_iff_eq
  have hswap : floatOrder? y x = (floatOrder? x y).map Ordering.swap := compare_unpacked_swap _ _
  simp only [orderFloats, gt_iff_lt, hless, hswap]
  rcases floatOrder? x y with _ | (_ | _ | _) <;> rfl

/-- Floats that are neither above nor below each other are equal, unless one is not a number. -/
theorem orderFloats_eq_beq :
    (orderFloats x y == .eq) = (x == y) ↔ x.isNaN = false ∧ y.isNaN = false := by
  have hbeq : (x == y) = (floatOrder? x y == some .eq) := rfl
  rw [hbeq, orderFloats_eq, ← Bool.not_eq_true, ← Bool.not_eq_true, ← not_or,
    ← floatOrder?_eq_none]
  rcases floatOrder? x y with _ | (_ | _ | _) <;> decide

end

/-! ## Texts and Numbers -/

theorem orderTexts_swap (a b : String) : orderTexts b a = (orderTexts a b).swap := by
  unfold orderTexts
  rcases lt_trichotomy a b with h | rfl | h
  · rw [if_neg (lt_asymm h), if_pos h, if_pos h]
    rfl
  · rw [if_neg (lt_irrefl a), if_neg (lt_irrefl a)]
    rfl
  · rw [if_pos h, if_neg (lt_asymm h), if_pos h]
    rfl

/-- Texts that are neither above nor below each other are the same. -/
theorem orderTexts_beq_eq (a b : String) : (orderTexts a b == .eq) = (a == b) := by
  unfold orderTexts
  rcases lt_trichotomy a b with h | rfl | h
  · rw [if_pos h, beq_false_of_ne h.ne]
    rfl
  · rw [if_neg (lt_irrefl a), if_neg (lt_irrefl a)]
    exact (beq_self_eq_true a).symm
  · rw [if_neg (lt_asymm h), if_pos h, beq_false_of_ne h.ne']
    rfl

/-- How two Numbers lie to each other; the left one is asked for first. -/
def orderNumbers (m n : Result Int) : Result Ordering := do return compare (← m) (← n)

/-- Exchanging the sides is seen only if both are missing for different reasons. -/
theorem orderNumbers_swap {m n : Result Int}
    (h : ∀ s t, m = .error s → n = .error t → s = t) :
    orderNumbers n m = (orderNumbers m n).map Ordering.swap := by
  rcases m with s | m <;> rcases n with t | n
  · rw [h s t rfl rfl]
    rfl
  · rfl
  · rfl
  · exact congrArg Except.ok (Int.compare_swap m n).symm

/-- How two values lie to each other as Floats, when one is a Float, or as Numbers. -/
def Value.order (a b : Value) : Result Ordering :=
  if a.isFloat || b.isFloat then do return orderFloats (← a.toFloat) (← b.toFloat)
  else orderNumbers a.toNumber b.toNumber

theorem Value.order_swap {a b : Value} (ha : a.isFloat = false) (hb : b.isFloat = false)
    (h : ∀ s t, a.toNumber = .error s → b.toNumber = .error t → s = t) :
    b.order a = (a.order b).map Ordering.swap := by
  rw [order, order, ha, hb]
  exact orderNumbers_swap h

/-! ## What a comparison finds out -/

/-- What a comparison does with its operands: it refuses them, it asks whether they are equal and
refuses all else, or it puts them in order. -/
inductive Comparing where
  | refused (c : Cause)
  | byEquality (c : Cause) (eq : Result Bool)
  | ordered (o : Result Ordering)

namespace Comparing

/-- The answer to a relation. -/
def answer (w : Comparing) (relation : Relation) : Result Bool :=
  match w with
  | refused c => fail c
  | byEquality c eq => Heap.byEquality relation c eq
  | ordered o => o.map relation.holds

/-- What is found out when the operands are exchanged. -/
def swap : Comparing → Comparing
  | ordered o => ordered (o.map Ordering.swap)
  | w => w

variable (w : Comparing)

theorem answer_notEqual : w.answer .notEqual = (w.answer .equal).map (!·) := by
  cases w with
  | refused c => rfl
  | byEquality c eq => cases eq <;> rfl
  | ordered o => rcases o with _ | (_ | _ | _) <;> rfl

theorem answer_swap_less : w.swap.answer .greater = w.answer .less := by
  cases w with
  | refused c => rfl
  | byEquality c eq => rfl
  | ordered o => rcases o with _ | (_ | _ | _) <;> rfl

theorem answer_swap_lessEqual : w.swap.answer .greaterEqual = w.answer .lessEqual := by
  cases w with
  | refused c => rfl
  | byEquality c eq => rfl
  | ordered o => rcases o with _ | (_ | _ | _) <;> rfl

theorem answer_swap_equal : w.swap.answer .equal = w.answer .equal := by
  cases w with
  | refused c => rfl
  | byEquality c eq => rfl
  | ordered o => rcases o with _ | (_ | _ | _) <;> rfl

/-- Where there is an order, the operands lie to each other in exactly one way. -/
theorem answer_of_less {l : Bool} (h : w.answer .less = .ok l) :
    ∃ e g, w.answer .equal = .ok e ∧ w.answer .greater = .ok g ∧ [l, e, g].count true = 1 ∧
      w.answer .lessEqual = .ok (l || e) ∧ w.answer .greaterEqual = .ok (g || e) := by
  cases w with
  | refused c => cases h
  | byEquality c eq => cases h
  | ordered o =>
      rcases o with stop | (_ | _ | _) <;> cases h
      · exact ⟨false, false, rfl, rfl, rfl, rfl, rfl⟩
      · exact ⟨true, false, rfl, rfl, rfl, rfl, rfl⟩
      · exact ⟨false, true, rfl, rfl, rfl, rfl, rfl⟩

end Comparing

namespace Heap

variable {h h' : Heap} {matcher : Option Matcher} {rule : CaseRule} {ignoreCase : Bool} {a b : Ref}

/-- What the comparison of two values finds out. -/
def comparing (h : Heap) (ignoreCase : Bool) (a b : Ref) : Comparing :=
  match h.value a, h.value b with
  | .list _, .list _ => .byEquality .listOperation (h.equal ignoreCase a b)
  | .list _, _ | _, .list _ => .refused .compareList
  | .dict _, .dict _ => .byEquality .dictOperation (h.equal ignoreCase a b)
  | .dict _, _ | _, .dict _ => .refused .compareDict
  | .funcref _, .funcref _ => .byEquality .funcrefOperation (h.equal false a b)
  | .funcref _, _ | _, .funcref _ => .byEquality .funcrefOperation (.ok false)
  | .string s, .string t =>
    let fold (x : String) : String := if ignoreCase then Text.lower x else x
    .ordered (.ok (orderTexts (fold s) (fold t)))
  | va, vb => .ordered (va.order vb)

theorem related_eq (relation : Relation) :
    h.related relation ignoreCase a b = (h.comparing ignoreCase a b).answer relation := by
  have hordered {α : Type} (m n : Result α) (f : α → α → Ordering) :
      (do return relation.holds (f (← m) (← n)) : Result Bool)
        = (do return f (← m) (← n) : Result Ordering).map relation.holds := by
    rcases m with _ | m <;> rcases n with _ | n <;> rfl
  unfold related comparing
  cases h.value a <;> cases h.value b <;> first | rfl | exact hordered _ _ _

/-! ## Coherence -/

/-- Both values refuse to be Numbers, each in its own way: one is a Blob, and the other a String
that starts with too many digits. -/
def RefuseDifferently (h : Heap) (a b : Ref) : Prop :=
  ∃ bytes s, Number.maxDigits < (Number.decimalDigits s).length ∧
    ((h.value a = .blob bytes ∧ h.value b = .string s) ∨
      (h.value a = .string s ∧ h.value b = .blob bytes))

/-- The negative comparisons give the opposite of the positive ones, or stop short as they do. -/
structure OppositesAgree (h : Heap) (matcher : Option Matcher) (rule : CaseRule) (a b : Ref) :
    Prop where
  notEqual : h.compares matcher .notEqual rule a b
    = (h.compares matcher .equal rule a b).map (!·)
  notSame : h.compares matcher .notSame rule a b = (h.compares matcher .same rule a b).map (!·)
  notMatching : h.compares matcher .notMatching rule a b
    = (h.compares matcher .matching rule a b).map (!·)

/-- The comparison the other way round gives the same, or stops short in the same way. -/
structure SidesAgree (h : Heap) (matcher : Option Matcher) (rule : CaseRule) (a b : Ref) :
    Prop where
  less : h.compares matcher .less rule a b = h.compares matcher .greater rule b a
  lessEqual : h.compares matcher .lessEqual rule a b = h.compares matcher .greaterEqual rule b a
  equal : h.compares matcher .equal rule a b = h.compares matcher .equal rule b a

/-- Where two values have an order, exactly one of less, equal and greater holds, and the weak
relations follow from these. -/
def Trichotomous (h : Heap) (matcher : Option Matcher) (rule : CaseRule) (a b : Ref) : Prop :=
  ∀ l, h.compares matcher .less rule a b = .ok l →
    ∃ e g, h.compares matcher .equal rule a b = .ok e ∧
      h.compares matcher .greater rule a b = .ok g ∧ [l, e, g].count true = 1 ∧
      h.compares matcher .lessEqual rule a b = .ok (l || e) ∧
      h.compares matcher .greaterEqual rule a b = .ok (g || e)

theorem oppositesAgree (h : Heap) (matcher : Option Matcher) (rule : CaseRule) (a b : Ref) :
    h.OppositesAgree matcher rule a b where
  notEqual := by
    change h.related _ _ a b = (h.related _ _ a b).map _
    rw [related_eq, related_eq, Comparing.answer_notEqual]
  notSame := by
    change (do return !(← h.identical _ a b)) = (h.identical _ a b).map _
    cases h.identical rule.ignoresCase a b <;> rfl
  notMatching := by
    change (do return !(← h.matching matcher _ a b)) = (h.matching matcher _ a b).map _
    cases h.matching matcher rule.ignoresCase a b <;> rfl

theorem trichotomous (h : Heap) (matcher : Option Matcher) (rule : CaseRule) (a b : Ref) :
    h.Trichotomous matcher rule a b := by
  intro l hless
  change h.related _ _ a b = _ at hless
  change ∃ e g, h.related _ _ a b = _ ∧ h.related _ _ a b = _ ∧ _ ∧
    h.related _ _ a b = _ ∧ h.related _ _ a b = _
  simp only [related_eq] at hless ⊢
  exact Comparing.answer_of_less _ hless

/-- A String that does not start with too many digits can be used as a Number. -/
theorem toNumber_ne_error {s : String} (hs : ¬Number.maxDigits < (Number.decimalDigits s).length)
    (stop : Stop) : (Value.string s).toNumber ≠ .error stop := by
  rw [toNumber_string, if_neg hs]
  nofun

theorem comparing_swap (ha : h.Comparable a) (hb : h.Comparable b)
    (hno : ¬h.RefuseDifferently a b) :
    h.comparing ignoreCase b a = (h.comparing ignoreCase a b).swap := by
  have hleft := ha.notFloat a .refl
  have hright := hb.notFloat b .refl
  have hcomm (ignoreCase : Bool) : h.equal ignoreCase a b = h.equal ignoreCase b a :=
    ha.equal_comm hb
  have hshort : ∀ {bytes s}, h.value a = .blob bytes → h.value b = .string s →
      ¬Number.maxDigits < (Number.decimalDigits s).length :=
    fun ha hb hlong => hno ⟨_, _, hlong, .inl ⟨ha, hb⟩⟩
  have hshort' : ∀ {bytes s}, h.value a = .string s → h.value b = .blob bytes →
      ¬Number.maxDigits < (Number.decimalDigits s).length :=
    fun ha hb hlong => hno ⟨_, _, hlong, .inr ⟨ha, hb⟩⟩
  unfold comparing
  rw [hcomm, hcomm]
  cases hva : h.value a <;> cases hvb : h.value b <;> try rfl
  case float.number | float.float | float.string =>
    rw [hva] at hleft
    cases hleft
  case number.float | string.float =>
    rw [hvb] at hright
    cases hright
  case string.string =>
    exact congrArg (fun o => Comparing.ordered (.ok o)) (orderTexts_swap _ _)
  all_goals refine congrArg Comparing.ordered (Value.order_swap rfl rfl fun s t hs ht => ?_)
  case number.number | number.string => cases hs
  case string.number => cases ht
  case string.blob => exact absurd hs (toNumber_ne_error (hshort' hva hvb) s)
  case blob.string => exact absurd ht (toNumber_ne_error (hshort hva hvb) t)

/-- The sides agree unless both refuse to be Numbers for different reasons. -/
theorem sidesAgree_iff (ha : h.Comparable a) (hb : h.Comparable b) :
    h.SidesAgree matcher rule a b ↔ ¬h.RefuseDifferently a b := by
  constructor
  · rintro hsides ⟨bytes, s, hlong, hblob⟩
    have hequal := hsides.equal
    change h.related _ _ a b = h.related _ _ b a at hequal
    unfold related at hequal
    obtain ⟨hva, hvb⟩ | ⟨hva, hvb⟩ := hblob <;> rw [hva, hvb] at hequal <;>
      simp only [toNumber_string, if_pos hlong] at hequal <;> cases hequal
  · intro hno
    have hswap : h.comparing rule.ignoresCase b a = (h.comparing rule.ignoresCase a b).swap :=
      comparing_swap ha hb hno
    constructor
    · change h.related _ _ a b = h.related _ _ b a
      rw [related_eq, related_eq, hswap, Comparing.answer_swap_less]
    · change h.related _ _ a b = h.related _ _ b a
      rw [related_eq, related_eq, hswap, Comparing.answer_swap_lessEqual]
    · change h.related _ _ a b = h.related _ _ b a
      rw [related_eq, related_eq, hswap, Comparing.answer_swap_equal]

end Heap

/-- The comparison operators are coherent for all values without cycles and Floats, but for one
pair: with a Blob and a String that starts with too many digits, it depends on the side which of the
two is refused. -/
theorem comparisons_coherent_iff (h : Heap) (matcher : Option Matcher) (rule : CaseRule) {a b : Ref}
    (ha : h.Comparable a) (hb : h.Comparable b) :
    h.OppositesAgree matcher rule a b ∧ h.Trichotomous matcher rule a b ∧
      (h.SidesAgree matcher rule a b ↔ ¬h.RefuseDifferently a b) :=
  ⟨h.oppositesAgree matcher rule a b, h.trichotomous matcher rule a b, Heap.sidesAgree_iff ha hb⟩

/-- A text, a Number, a Blob, and a text that starts with more digits than a Number is read from. -/
def assorted : Heap where
  cells := #[{ value := .string "10" }, { value := .number 9 }, { value := .blob [1] },
    { value := .string (String.ofList (List.replicate 4301 '9')) }]

theorem assorted_comparable {v : Ref} (hv : v.index < 4) : assorted.Comparable v :=
  Heap.comparable_of_forward (by decide) (by decide) hv

/-- A text that is used as a Number is compared with one in the same way from either side. -/
theorem tenAndNine_coherent :
    assorted.Comparable ⟨0⟩ ∧ assorted.Comparable ⟨1⟩ ∧
    assorted.OppositesAgree none .plain ⟨0⟩ ⟨1⟩ ∧ assorted.Trichotomous none .plain ⟨0⟩ ⟨1⟩ ∧
    assorted.SidesAgree none .plain ⟨0⟩ ⟨1⟩ := by
  have ha := assorted_comparable (v := ⟨0⟩) (by decide)
  have hb := assorted_comparable (v := ⟨1⟩) (by decide)
  obtain ⟨hopposites, htrichotomous, hsides⟩ := comparisons_coherent_iff assorted none .plain ha hb
  refine ⟨ha, hb, hopposites, htrichotomous, hsides.mpr ?_⟩
  rintro ⟨bytes, s, -, ⟨hblob, -⟩ | ⟨-, hblob⟩⟩ <;> cases hblob

/-- Whether the Blob or the text is refused depends on the side on which it stands. -/
theorem blobAndLongText_incoherent :
    assorted.Comparable ⟨2⟩ ∧ assorted.Comparable ⟨3⟩ ∧
    assorted.compares none .less .plain ⟨2⟩ ⟨3⟩ = .error (.ofCause .blobAsNumber) ∧
    assorted.compares none .greater .plain ⟨3⟩ ⟨2⟩ =
      .error (.fault (.tooManyDigits (some 4301))) := by
  have hdigits :
      (Number.decimalDigits (String.ofList (List.replicate 4301 '9'))).length = 4301 := by
    rw [Number.decimalDigits, String.toList_ofList]
    decide +kernel
  have htext : (assorted.value ⟨3⟩).toNumber = .error (.fault (.tooManyDigits (some 4301))) := by
    change (Value.string (String.ofList (List.replicate 4301 '9'))).toNumber = _
    rw [toNumber_string, hdigits]
    rfl
  refine ⟨assorted_comparable (by decide), assorted_comparable (by decide), rfl, ?_⟩
  change (do return Relation.greater.holds (compare (← (assorted.value ⟨3⟩).toNumber) (← _))) = _
  rw [htext]
  rfl

/-! ## Equality by operator and of items -/

/-- Two values are of one kind. -/
inductive Value.OfOneKind : Value → Value → Prop
  | number (m n : Int) : OfOneKind (.number m) (.number n)
  | float (x y : Float) : OfOneKind (.float x) (.float y)
  | string (s t : String) : OfOneKind (.string s) (.string t)
  | list (xs ys : List Ref) : OfOneKind (.list xs) (.list ys)
  | dict (s t : Table) : OfOneKind (.dict s) (.dict t)
  | funcref (f g : Funcref) : OfOneKind (.funcref f) (.funcref g)
  | blob (s t : List UInt8) : OfOneKind (.blob s) (.blob t)

theorem Value.ofOneKind {a b : Value} (h : a.kind = b.kind) : a.OfOneKind b := by
  cases a <;> cases b <;> first | constructor | simp [kind] at h

namespace Heap

variable {h h' : Heap} {matcher : Option Matcher} {rule : CaseRule} {ignoreCase : Bool}
  {a b p q : Ref}

/-- `==` finds two values of one kind equal just when they are equal as items: no Float is not a
number, case makes no difference to the arguments of Funcrefs, and they are no Blobs. -/
def ComparedAsItems (h : Heap) (ignoreCase : Bool) (a b : Ref) : Prop :=
  match h.value a, h.value b with
  | .float x, .float y => x.isNaN = false ∧ y.isNaN = false
  | .funcref _, .funcref _ => h.equal ignoreCase a b = h.equal false a b
  | .blob _, .blob _ => False
  | _, _ => True

/-- Two computations have one and the same answer. -/
theorem exists_ok_both {r s : Result Bool} :
    (∃ e, r = .ok e ∧ s = .ok e) ↔ s = r ∧ ∃ e, s = .ok e := by
  constructor
  · rintro ⟨e, rfl, rfl⟩
    exact ⟨rfl, e, rfl⟩
  · rintro ⟨rfl, e, he⟩
    exact ⟨e, he, he⟩

/-- Operators and items agree on two values of one kind just when the answers are the same. -/
theorem comparedAsItems_iff (hkind : (h.value a).OfOneKind (h.value b)) :
    h.ComparedAsItems ignoreCase a b ∧ (∃ e, h.equal ignoreCase a b = .ok e) ↔
      ∃ e, h.related .equal ignoreCase a b = .ok e ∧ h.equal ignoreCase a b = .ok e := by
  rw [exists_ok_both]
  refine and_congr_left ?_
  rintro ⟨e, he⟩
  have hequal : h.equal ignoreCase a b = (h.value a).equalBy ignoreCase (a == b)
      (h.equalWithin ignoreCase h.size) (h.value b) := rfl
  unfold related ComparedAsItems
  generalize h.value a = va, h.value b = vb at hkind hequal
  cases hkind with
  | number m n =>
      refine ⟨fun _ => hequal.trans (congrArg Except.ok ?_), fun _ => trivial⟩
      rw [Bool.eq_iff_iff, beq_iff_eq]
      exact Int.compare_eq_eq.symm.trans beq_iff_eq.symm
  | float x y =>
      refine (orderFloats_eq_beq x y).symm.trans ⟨fun h => ?_, fun h => ?_⟩
      · exact hequal.trans (congrArg Except.ok h.symm)
      · exact (Except.ok.inj (hequal.symm.trans h)).symm
  | string s t =>
      refine ⟨fun _ => hequal.trans (congrArg Except.ok ?_), fun _ => trivial⟩
      unfold textsEqual
      split_ifs
      · exact (orderTexts_beq_eq _ _).symm
      · exact (orderTexts_beq_eq _ _).symm
  | list _ _ | dict _ _ => exact ⟨fun _ => rfl, fun _ => trivial⟩
  | funcref _ _ => exact Iff.rfl
  | blob _ _ =>
      rw [he]
      exact ⟨nofun, nofun⟩

/-- Lists of one item each are compared by the item. -/
theorem equal_singletons (ha : h.Unknotted a) (hkept : h.Kept h')
    (hbound : ∀ r, h.Spans a r ∨ h.Spans b r → r.index < h.size) (hpq : p ≠ q)
    (hp : h'.value p = .list [a]) (hq : h'.value q = .list [b]) :
    h'.equal ignoreCase p q = h.equal ignoreCase a b := by
  have ha' : h'.Unknotted a := ha.congr fun r hr => by
    rw [parts, hkept.value (hbound r (.inl hr)), parts]
  have hp' : h'.Unknotted p := by
    refine unknotted_of_parts fun s hs => ?_
    rw [parts, hp] at hs
    obtain rfl := List.mem_singleton.mp hs
    exact ha'
  rw [equal_eq hp', hp, hq, beq_false_of_ne hpq, Value.equalBy_list, if_neg Bool.false_ne_true,
    ← equal_kept ha hkept hbound]
  change (do if ← h'.equal ignoreCase a b then return true else return false) = _
  rcases h'.equal ignoreCase a b with _ | (_ | _) <;> rfl

end Heap

/-- For values of one kind without cycles, `==` and `!=` answer what the comparison of items says
just when it says anything, no Float is not a number, the arguments of Funcrefs are as equal with
regard to case, and the values are no Blobs. Lists of one item are always compared by the item, and
there is always an answer to that where all Numbers are in the range of doubles. -/
theorem equality_asItems_iff (h : Heap) (matcher : Option Matcher) (rule : CaseRule) {a b : Ref}
    (hkind : (h.value a).kind = (h.value b).kind) (ha : h.Unknotted a)
    (hbound : ∀ r, h.Spans a r ∨ h.Spans b r → r.index < h.size) :
    ((∃ e, h.compares matcher .equal rule a b = .ok e ∧
        h.compares matcher .notEqual rule a b = .ok !e ∧ h.equal rule.ignoresCase a b = .ok e) ↔
      h.ComparedAsItems rule.ignoresCase a b ∧ ∃ e, h.equal rule.ignoresCase a b = .ok e) ∧
    (∀ h' p q, h.Kept h' → p ≠ q → h'.value p = .list [a] → h'.value q = .list [b] →
      h'.compares matcher .equal rule p q = h.equal rule.ignoresCase a b ∧
      h'.compares matcher .notEqual rule p q = (h.equal rule.ignoresCase a b).map (!·)) ∧
    ((∀ r n, h.Spans a r ∨ h.Spans b r → h.value r = .number n →
        n.natAbs < Decimal.overflowLimit) → ∃ e, h.equal rule.ignoresCase a b = .ok e) := by
  have hopposite (h : Heap) (p q : Ref) := (h.oppositesAgree matcher rule p q).notEqual
  refine ⟨?_, ?_, ?_⟩
  · rw [Heap.comparedAsItems_iff (Value.ofOneKind hkind), hopposite]
    change _ ↔ ∃ e, h.compares matcher .equal rule a b = .ok e ∧ _
    refine exists_congr fun e => and_congr_right fun he => ?_
    rw [he]
    exact and_iff_right rfl
  · intro h' p q hkept hpq hp hq
    have hitem : h'.equal rule.ignoresCase p q = h.equal rule.ignoresCase a b :=
      Heap.equal_singletons ha hkept hbound hpq hp hq
    have hequal : h'.compares matcher .equal rule p q = h.equal rule.ignoresCase a b := by
      change h'.related .equal _ p q = _
      rw [Heap.related_eq, Heap.comparing, hp, hq]
      exact hitem
    exact ⟨hequal, by rw [hopposite, hequal]⟩
  · intro hrange
    refine Heap.equal_ok_of_numbers ha fun x y n z hx hy hxy => (exists_numberToFloat n).mpr ?_
    obtain ⟨hn, -⟩ | ⟨-, hn⟩ := hxy
    · exact hrange x n (.inl hx) hn
    · exact hrange y n (.inr hy) hn

/-- The two Lists of the twins are compared with `==?` and `!=?` as they are as items. -/
theorem twins_compared :
    (twins.value ⟨0⟩).kind = (twins.value ⟨1⟩).kind ∧ twins.Unknotted ⟨0⟩ ∧
    (∀ r, twins.Spans ⟨0⟩ r ∨ twins.Spans ⟨1⟩ r → r.index < twins.size) ∧
    ∃ e, twins.compares none .equal .ignore ⟨0⟩ ⟨1⟩ = .ok e ∧
      twins.compares none .notEqual .ignore ⟨0⟩ ⟨1⟩ = .ok !e ∧
      twins.equal true ⟨0⟩ ⟨1⟩ = .ok e := by
  have ha := twins_comparable (v := ⟨0⟩) (by decide)
  have hb := twins_comparable (v := ⟨1⟩) (by decide)
  have hbound : ∀ r, twins.Spans ⟨0⟩ r ∨ twins.Spans ⟨1⟩ r → r.index < twins.size :=
    fun r hr => hr.elim (ha.bound r) (hb.bound r)
  obtain ⟨hiff, -, -⟩ := equality_asItems_iff twins none .ignore (a := ⟨0⟩) (b := ⟨1⟩) rfl
    ha.unknotted hbound
  exact ⟨rfl, ha.unknotted, hbound, hiff.mpr ⟨trivial, ha.equal_ok hb⟩⟩

/-- Two Blobs of the same byte. -/
def sameBlobs : Heap where
  cells := #[{ value := .blob [1] }, { value := .blob [1] }]

/-- They are equal as items, and `==` refuses them as if they were to be used as Numbers. -/
theorem sameBlobs_refused :
    sameBlobs.Comparable ⟨0⟩ ∧ sameBlobs.Comparable ⟨1⟩ ∧
    sameBlobs.equal false ⟨0⟩ ⟨1⟩ = .ok true ∧
    sameBlobs.compares none .equal .plain ⟨0⟩ ⟨1⟩ = .error (.ofCause .blobAsNumber) :=
  have hcomparable {v : Ref} (hv : v.index < 2) : sameBlobs.Comparable v :=
    Heap.comparable_of_forward (by decide) (by decide) hv
  ⟨hcomparable (by decide), hcomparable (by decide), rfl, rfl⟩

end Vimscript
