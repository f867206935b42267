import Vimscript.Proofs.Eval.CallFree
import Vimscript.Proofs.Syntax.Naming

/-!
# Faults that escape from expressions

An expression without calls ought to give a value or an error of the script.
There are three ways out: some object is too large a Number, or a String that
starts with one, for a conversion (`Value.IsExtreme`); the matcher ends in
something else than an error of the script; or an option cannot be had as a
value. `Escapes` lists them, and `expression_escapes` says that there are no
others.

As for Strings alone, each conversion fails exactly for the extreme ones
(`Text.Converts`).
-/

namespace Vimscript

/-! ## Extreme values -/

/-- A Number out of the range of doubles, or a String that starts with such a number or with one of
too many digits. -/
def Value.IsExtreme : Value → Prop
  | .number n => Decimal.overflowLimit ≤ n.natAbs
  | .string s => Number.maxDigits < (Number.decimalDigits s).length ∨
      Decimal.overflowLimit ≤ (Number.leading s).natAbs
  | _ => False

/-- A fault of a conversion: a number out of range or of too many digits. -/
def Fault.IsConversion (f : Fault) : Prop := f = .doubleOverflow ∨ ∃ found, f = .tooManyDigits found

theorem overflowLimit_le_of_isLong {n : Int} (hn : Number.isLong n = true) :
    Decimal.overflowLimit ≤ n.natAbs := by
  have hlimit : Decimal.overflowLimit ≤ Nat.pow 10 Number.maxDigits := by decide +kernel
  rw [Number.isLong, decide_eq_true_eq] at hn
  exact Nat.le_trans hlimit hn

theorem Value.isExtreme_of_toNumber {v : Value} {n : Int} (hv : v.toNumber = .ok n)
    (hn : Decimal.overflowLimit ≤ n.natAbs) : v.IsExtreme := by
  rcases toNumber_eq_ok hv with rfl | ⟨s, rfl, rfl⟩
  · exact hn
  · exact .inr hn

/-- Only an extreme value strains a conversion. -/
theorem Value.Strains.isExtreme {v : Value} {f : Fault} (h : v.Strains f) :
    v.IsExtreme ∧ f.IsConversion := by
  cases h with
  | read hdigits => exact ⟨.inl hdigits, .inr ⟨_, rfl⟩⟩
  | written hv hlong =>
      exact ⟨isExtreme_of_toNumber hv (overflowLimit_le_of_isLong hlong), .inr ⟨_, rfl⟩⟩
  | double hv hinf =>
      exact ⟨isExtreme_of_toNumber hv ((Decimal.isInf_ofInt _).mp hinf), .inl rfl⟩

/-! ## Strings -/

/-- Which conversions a text can be put to. -/
structure Text.Converts (text : String) : Prop where
  toNumber : (∃ n, (Value.string text).toNumber = .ok n)
    ↔ (Number.decimalDigits text).length ≤ Number.maxDigits
  toFloat : (∃ x, (Value.string text).toFloat = .ok x) ↔ ¬ (Value.string text).IsExtreme
  toBool : (∃ b, (Value.string text).toBool = .ok b) ↔ ¬ (Value.string text).IsExtreme
  isFalsy : (∃ b, (Value.string text).isFalsy = .ok b) ↔ ¬ (Value.string text).IsExtreme

theorem toFloat_string (text : String) :
    (Value.string text).toFloat = (Value.string text).toNumber >>= numberToFloat := rfl

theorem toFloat_of_short {text : String}
    (h : ¬ Number.maxDigits < (Number.decimalDigits text).length) :
    (Value.string text).toFloat = numberToFloat (Number.leading text) := by
  rw [toFloat_string, toNumber_string, if_neg h]
  rfl

/-- What is computed from a result is there if the result is. -/
theorem exists_map_ok {α β : Type} (r : Result α) (f : α → β) :
    (∃ b, (r >>= fun a => pure (f a)) = .ok b) ↔ ∃ a, r = .ok a := by
  cases r with
  | ok a => exact ⟨fun _ => ⟨a, rfl⟩, fun _ => ⟨f a, rfl⟩⟩
  | error stop => exact ⟨nofun, nofun⟩

theorem Text.converts (text : String) : Text.Converts text := by
  have hnumber : (∃ n, (Value.string text).toNumber = .ok n)
      ↔ (Number.decimalDigits text).length ≤ Number.maxDigits := by
    rw [toNumber_string]
    split
    · rename_i hlong
      exact ⟨nofun, fun h => absurd hlong (Nat.not_lt.mpr h)⟩
    · rename_i hshort
      exact ⟨fun _ => Nat.not_lt.mp hshort, fun _ => ⟨_, rfl⟩⟩
  have hfloat : (∃ x, (Value.string text).toFloat = .ok x)
      ↔ ¬ (Value.string text).IsExtreme := by
    rw [Value.IsExtreme, not_or, Nat.not_le]
    by_cases hlong : Number.maxDigits < (Number.decimalDigits text).length
    · rw [toFloat_string, toNumber_string, if_pos hlong]
      exact ⟨nofun, fun h => absurd hlong h.1⟩
    · rw [toFloat_of_short hlong, exists_numberToFloat, and_iff_right hlong]
  have hbool : (∃ b, (Value.string text).toBool = .ok b) ↔ ¬ (Value.string text).IsExtreme :=
    (exists_map_ok _ _).trans hfloat
  exact ⟨hnumber, hfloat, hbool, (exists_map_ok _ _).trans hbool⟩

/-! ## Expressions -/

/-- The ways in which evaluating an expression, which has led to a state, can stop short without an
error of the script. -/
inductive Escapes (setup : Setup) (e : Expr) (t : State) : Stop → Prop
  /-- An object is extreme. -/
  | conversion {r : Ref} {f : Fault} : (t.heap.value r).IsExtreme → f.IsConversion →
      Escapes setup e t (.fault f)
  /-- The matcher stopped short for the texts of two objects. -/
  | matcher {a b : Ref} {pattern given text : String} {stop : Stop} :
      (t.heap.value b).toText = .ok given → (t.heap.value a).toText = .ok text →
      pattern = given ∨ pattern = "\\c" ++ given → setup.matcher pattern text = .error stop →
      Escapes setup e t stop
  /-- The name of an option is no name. -/
  | optionName {mark : Option Mark} {scope : Option String} {name : Name} {f : Fault} :
      e.Evaluates (.option mark scope name) → t.host.option? name = .error f →
      Escapes setup e t (.fault f)
  /-- The host gives an option data that scripts cannot hold. -/
  | optionValue {mark : Option Mark} {scope : Option String} {name : Name} {d : Data} {f : Fault} :
      e.Evaluates (.option mark scope name) → t.host.option? name = .ok (some d) →
      ¬ d.Exchangeable → f.kind = .type → Escapes setup e t (.fault f)

theorem Heap.Halts.escapes {setup : Setup} {e : Expr} {t : State} {stop : Stop}
    (h : t.heap.Halts setup.matcher stop) :
    (∃ err, stop = .error err) ∨ Escapes setup e t stop := by
  cases h with
  | script err => exact .inl ⟨err, rfl⟩
  | strained hstrains =>
      obtain ⟨hextreme, hconversion⟩ := hstrains.isExtreme
      exact .inr (.conversion hextreme hconversion)
  | matched hgiven htext hpattern hstop => exact .inr (.matcher hgiven htext hpattern hstop)

/-- A text is put to a conversion without a fault exactly if it is not extreme; and an expression
that was read from a tree and contains no call gives a value or an error of the script, unless
evaluating it escapes in one of the ways there are. -/
theorem expression_escapes (M : Machine) (c : Context) (setup : Setup) (s : State) :
    (∀ text, Text.Converts text) ∧
    ∀ {tree : Data} {e : Expr}, Reader.expression tree = .ok e → e.CallFree →
      (∃ r t, evalTop M e c setup s = (.ok r, t)) ∨
      (∃ err t, evalTop M e c setup s = (.error (.error err), t)) ∨
      ∃ stop t, evalTop M e c setup s = (.error stop, t) ∧ Escapes setup e t stop := by
  refine ⟨Text.converts, ?_⟩
  intro tree e hread hfree
  rcases hrun : evalTop M e c setup s with ⟨stop | r, t⟩
  · have hescapes : (∃ err, stop = .error err) ∨ Escapes setup e t stop := by
      have htame := evalExpr_tame hfree.evaluated M e c .refl setup { s with site := some e.site }
      rw [evalTop_eq] at hrun
      have hhalts := htame.halts (congrArg Prod.fst hrun)
      rw [hrun] at hhalts
      cases hhalts with
      | operator h => exact h.escapes
      | unread he hoption => exact .inr (.optionName he hoption)
      | unsupported he hoption hd hkind => exact .inr (.optionValue he hoption hd hkind)
      | misplaced he hd =>
          exact absurd hd ((Reader.expression_wellNamed hread).holds he _ _ _ rfl _)
    rcases hescapes with ⟨err, rfl⟩ | h
    · exact .inr (.inl ⟨err, t, rfl⟩)
    · exact .inr (.inr ⟨stop, t, rfl, h⟩)
  · exact .inl ⟨r, t, rfl⟩

/-- The tree of a List plus one, which no operator adds. -/
def listPlusOne : Data :=
  .map [(.text "tag", .text "binary"), (.text "op", .text "+"),
    (.text "left", .map [(.text "tag", .text "list")]),
    (.text "right", .map [(.text "tag", .text "int"), (.text "value", .int 1)])]

theorem listPlusOne_refused :
    let e : Expr := .binary none (.arith .add) (.list none []) (.int none 1)
    let setup := (Session.start {}).setup
    let result := evalTop Machine.halted e { script := default } setup {}
    Reader.expression listPlusOne = .ok e ∧ e.CallFree ∧
      (∃ t, result = (.error (.ofCause .listAsNumber), t)) ∧
      ((∃ r t, result = (.ok r, t)) ∨ (∃ err t, result = (.error (.error err), t)) ∨
        ∃ stop t, result = (.error stop, t) ∧ Escapes setup e t stop) := by
  intro e setup result
  have hread : Reader.expression listPlusOne = .ok e := rfl
  have hfree : e.CallFree := .pair rfl rfl (.leaf rfl rfl) (.leaf rfl rfl)
  exact ⟨hread, hfree, ⟨_, rfl⟩, (expression_escapes _ _ _ _).2 hread hfree⟩

/-! ## A text that is extreme -/

/-- Negating a text that is no truth value. -/
theorem evalTop_not_text (M : Machine) (c : Context) (setup : Setup) (s : State) {text : String}
    {stop : Stop} (htext : (Value.string text).toBool = .error stop) :
    ∃ t, evalTop M (.unary none .not (.text none text)) c setup s = (.error stop, t) := by
  let u : State := { s with site := some (Expr.unary none .not (.text none text)).site }
  let t : State := { u with heap := (u.heap.alloc (.string text)).2 }
  have heval : evalExpr M (.text none text) c setup u =
      (.ok (u.heap.alloc (.string text)).1, t) := by
    rw [evalExpr]
    rfl
  have hvalue : t.heap.value (u.heap.alloc (.string text)).1 = .string text := by
    rw [Heap.value, Heap.cell_alloc, if_pos rfl]
  have hnot : UnaryOp.not.apply (u.heap.alloc (.string text)).1 t.heap = (.error stop, t.heap) := by
    rw [UnaryOp.apply, Op.bind_of_ok (a := .string text) (by rw [← hvalue]; rfl)]
    have hresult : (liftM (Value.string text).toBool : Op Bool) t.heap = (.error stop, t.heap) := by
      rw [htext]
      rfl
    exact Op.bind_of_error hresult
  refine ⟨t, ?_⟩
  rw [evalTop_eq, evalExpr, Run.bind_of_ok heval]
  exact Run.op_of_error hnot

/-- Four hundred nines. -/
def nines : String := String.ofList (List.replicate 400 '9')

theorem toList_nines : nines.toList = List.replicate 400 '9' := String.toList_ofList

/-- The tree of their negation. -/
def notNines : Data :=
  .map [(.text "tag", .text "unary"), (.text "op", .text "!"),
    (.text "operand", .map [(.text "tag", .text "string"), (.text "value", .text nines)])]

theorem notNines_overflows :
    let e : Expr := .unary none .not (.text none nines)
    Reader.expression notNines = .ok e ∧ e.CallFree ∧ (∀ v, ({} : Heap).Acyclic v) ∧
      ∃ t, evalTop Machine.halted e { script := default } (Session.start {}).setup {} =
        (.error (.fault .doubleOverflow), t) := by
  have hshort : ¬ Number.maxDigits < (Number.decimalDigits nines).length := by
    rw [Number.decimalDigits, toList_nines]
    decide +kernel
  have hlarge : (Decimal.ofInt (Number.leading nines)).isInf = true := by
    rw [Decimal.isInf_ofInt, Number.leading, toList_nines]
    decide +kernel
  have hfloat : (Value.string nines).toFloat = .error (.fault .doubleOverflow) := by
    rw [toFloat_of_short hshort, numberToFloat, if_pos hlarge]
    rfl
  have hbool : (Value.string nines).toBool = .error (.fault .doubleOverflow) := by
    rw [Value.toBool, hfloat]
    · rfl
    · intro n hn
      cases hn
  have hempty : ∀ v, ({} : Heap).Acyclic v :=
    Heap.acyclic_of_forward fun i hi => absurd hi (Nat.not_lt_zero i)
  exact ⟨rfl, .single rfl rfl (.leaf rfl rfl), hempty, evalTop_not_text _ _ _ _ hbool⟩

end Vimscript
