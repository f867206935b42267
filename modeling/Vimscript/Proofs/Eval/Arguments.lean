import Mathlib.Data.List.Basic
import Vimscript.Eval.Call
import Vimscript.Proofs.Eval.RegimeCall
import Vimscript.Proofs.Eval.Storing
import Vimscript.Proofs.Eval.Try
import Vimscript.Proofs.Number.Written
import Vimscript.Proofs.Run.Sequence

/-!
# The arguments of a call

A call fills the namespace of its arguments in four steps: arguments go to
the parameters and to the optional parameters in order, as far as they
reach; each optional parameter that is left gets the value of its
expression; a function with variable arguments gets what is left over, as
one List and one by one; and the lines of the call come last. Each step
adds entries to a Dictionary that starts out empty, so the whole is told by
the list of entries that comes out (`bindArguments_entries`), and everything
else about the namespace is read off that list (`ArgumentsBound`).

Only the second step runs code, and it is the one place where something
else can happen: an expression that takes the arguments as a Dictionary can
change what has been bound so far.
-/

namespace Vimscript

open Run

/-! ## Entries added at the end -/

namespace Entries

variable {α : Type}

theorem names_append (entries others : Entries α) :
    names (entries ++ others) = names entries ++ names others := List.map_append

/-- Where every name is used once, the names of some of the entries lead to their values. -/
theorem map_find?_names {entries some_ : Entries α} (hnodup : (names entries).Nodup)
    (hsub : some_ ⊆ entries) :
    (names some_).map (find? · entries) = some_.map fun e => some e.2 := by
  rw [names, List.map_map]
  exact List.map_congr_left fun e he => (find?_eq_some_iff hnodup).mpr (hsub he)

end Entries

/-- Entries have been added to the namespace of the arguments, and no other object has changed. -/
structure Heap.Added (arguments : Ref) (added : Entries Ref) (h h' : Heap) : Prop where
  size_le : h.size ≤ h'.size
  value : ∀ entries, h.value arguments = .dict { entries } →
    (Entries.names (entries ++ added)).Nodup →
    h'.value arguments = .dict { entries := entries ++ added }
  others : ∀ r : Ref, r.index < h.size → r ≠ arguments → h'.value r = h.value r

namespace Heap.Added

variable {arguments : Ref} {added more : Entries Ref} {h h₁ h₂ : Heap}

theorem refl (arguments : Ref) (h : Heap) : h.Added arguments [] h where
  size_le := Nat.le_refl _
  value entries hvalue _ := by rw [List.append_nil, hvalue]
  others _ _ _ := rfl

theorem trans (h₁₂ : Added arguments added h h₁) (h₂₃ : Added arguments more h₁ h₂) :
    Added arguments (added ++ more) h h₂ where
  size_le := Nat.le_trans h₁₂.size_le h₂₃.size_le
  value entries hvalue hnodup := by
    rw [← List.append_assoc] at hnodup ⊢
    have hfirst : (Entries.names (entries ++ added)).Nodup := by
      rw [Entries.names_append] at hnodup
      exact hnodup.of_append_left
    exact h₂₃.value _ (h₁₂.value entries hvalue hfirst) hnodup
  others r hr hne := by
    rw [h₂₃.others r (Nat.lt_of_lt_of_le hr h₁₂.size_le) hne, h₁₂.others r hr hne]

theorem alloc (arguments : Ref) (h : Heap) (v : Value) : Added arguments [] h (h.alloc v).2 where
  size_le := by
    rw [Heap.size_alloc]
    exact Nat.le_succ _
  value entries hvalue _ := by
    rw [Heap.value_alloc_of_lt h v (Heap.index_lt_of_dict hvalue), List.append_nil, hvalue]
  others r hr _ := Heap.value_alloc_of_lt h v hr

theorem insert (arguments : Ref) (h : Heap) (name : String) (value : Ref) :
    Added arguments [(name, value)] h (h.modifyTable arguments (·.insert name value)) where
  size_le := Nat.le_of_eq (Heap.size_setValue h _ _).symm
  value entries hvalue hnodup := by
    have hnew : name ∉ Entries.names entries := by
      rw [Entries.names_append] at hnodup
      exact fun hmem => List.disjoint_of_nodup_append hnodup hmem List.mem_cons_self
    rw [Heap.modifyTable, Heap.value_setValue h _ (Heap.index_lt_of_dict hvalue),
      Heap.table_of_dict hvalue, Table.insert, Entries.put_of_not_mem hnew]
  others r _ hne := by
    simp only [Heap.value, Heap.modifyTable]
    rw [Heap.cell_setValue_of_ne h _ hne]

end Heap.Added

/-! ## The steps -/

section

variable (arguments : Ref)

/-- The heap after binding some arguments. -/
def Heap.bound (pairs : Entries Ref) (h : Heap) : Heap :=
  pairs.foldl (fun h e => h.modifyTable arguments (·.insert e.1 e.2)) h

theorem bindEach_bound (pairs : Entries Ref) (h : Heap) :
    bindEach arguments pairs h = (.ok (), h.bound arguments pairs) := by
  induction pairs generalizing h with
  | nil => rfl
  | cons pair rest ih => exact (Op.bind_of_ok rfl).trans (ih _)

theorem added_bound (pairs : Entries Ref) (h : Heap) :
    h.Added arguments pairs (h.bound arguments pairs) := by
  induction pairs generalizing h with
  | nil => exact .refl arguments h
  | cons pair rest ih => exact (Heap.Added.insert arguments h pair.1 pair.2).trans (ih _)

/-- An object other than the arguments, with what it holds. -/
structure Heap.Beside (arguments : Ref) (h : Heap) (r : Ref) (v : Value) : Prop where
  lt : r.index < h.size
  ne : r ≠ arguments
  value : h.value r = v

theorem Heap.Beside.kept {arguments : Ref} {added : Entries Ref} {h h' : Heap} {r : Ref} {v : Value}
    (hr : h.Beside arguments r v) (hadded : h.Added arguments added h') :
    h'.Beside arguments r v where
  lt := Nat.lt_of_lt_of_le hr.lt hadded.size_le
  ne := hr.ne
  value := (hadded.others r hr.lt hr.ne).trans hr.value

/-- A new object is bound to a name before anything else is done. -/
theorem bindNew_added (name : String) (v : Value) {h : Heap} (hin : arguments.index < h.size) :
    ∃ r h', (∀ rest : Op Unit, (do
        bindArgument arguments name (← Op.alloc v)
        rest) h = rest h') ∧
      h.Added arguments [(name, r)] h' ∧ h'.Beside arguments r v := by
  let h₁ := (h.alloc v).2
  have hadded := Heap.Added.insert arguments h₁ name ⟨h.size⟩
  have hnew : h₁.Beside arguments ⟨h.size⟩ v :=
    { lt := by
        rw [Heap.size_alloc]
        exact Nat.lt_succ_self _
      ne := by
        rintro rfl
        exact Nat.lt_irrefl _ hin
      value := Heap.value_alloc_self h v }
  exact ⟨⟨h.size⟩, _, fun rest => (Op.bind_of_ok rfl).trans (Op.bind_of_ok rfl),
    (Heap.Added.alloc arguments h v).trans hadded, hnew.kept hadded⟩

/-- Arguments that are left over, each with its position. -/
def numbered (extra : List Ref) : Entries Ref :=
  extra.mapIdx fun i value => (toString (i + 1), value)

/-- What is left over comes in a List, with its length, and one by one. -/
theorem bindExtra_added (extra : List Ref) {h : Heap} (hin : arguments.index < h.size) :
    ∃ list length h', bindExtra arguments extra h = (.ok (), h') ∧
      h.Added arguments (("000", list) :: ("0", length) :: numbered extra) h' ∧
      h'.Beside arguments list (.list extra) ∧
      h'.Beside arguments length (.number extra.length) := by
  obtain ⟨list, h₁, hrun₁, hadded₁, hlist⟩ := bindNew_added arguments "000" (.list extra) hin
  obtain ⟨length, h₂, hrun₂, hadded₂, hlength⟩ := bindNew_added arguments "0"
    (.number extra.length) (Nat.lt_of_lt_of_le hin hadded₁.size_le)
  have hadded₃ := added_bound arguments (numbered extra) h₂
  refine ⟨list, length, _, ?_, hadded₁.trans (hadded₂.trans hadded₃),
    (hlist.kept hadded₂).kept hadded₃, hlength.kept hadded₃⟩
  exact (hrun₁ _).trans ((hrun₂ _).trans (bindEach_bound arguments _ _))

/-- The two lines a call is for. -/
def bindLines (lines : Int × Int) : Op Unit := do
  bindArgument arguments "firstline" (← Op.number lines.1)
  bindArgument arguments "lastline" (← Op.number lines.2)

theorem bindLines_added (lines : Int × Int) {h : Heap} (hin : arguments.index < h.size) :
    ∃ first last h', bindLines arguments lines h = (.ok (), h') ∧
      h.Added arguments [("firstline", first), ("lastline", last)] h' ∧
      h'.Beside arguments first (.number lines.1) ∧
      h'.Beside arguments last (.number lines.2) := by
  obtain ⟨first, h₁, hrun₁, hadded₁, hfirst⟩ :=
    bindNew_added arguments "firstline" (.number lines.1) hin
  obtain ⟨last, h₂, hrun₂, hadded₂, hlast⟩ := bindNew_added arguments "lastline"
    (.number lines.2) (Nat.lt_of_lt_of_le hin hadded₁.size_le)
  refine ⟨first, last, h₂, ?_, hadded₁.trans hadded₂, hfirst.kept hadded₂, hlast⟩
  exact (hrun₁ _).trans (hrun₂ (pure ()))

end

/-! ### Default values -/

section

variable (M : Machine) (c : Context) (arguments : Ref)

/-- Evaluates the expression of an optional parameter and binds the value. -/
def bindDefault (p : Name × Expr) : Run Ref := do
  let value ← evalTop M p.2 c
  bindArgument arguments p.1.asText value
  return value

/-- The texts of the names of some optional parameters. -/
def defaultNames (defaults : List (Name × Expr)) : List String := defaults.map (·.1.asText)

variable {M c arguments} {setup : Setup} {s t : State} {defaults : List (Name × Expr)}

theorem bindDefault_eq_ok {p : Name × Expr} {value : Ref} {u : State}
    (h : bindDefault M c arguments p setup s = (.ok value, u)) :
    ∃ t, evalTop M p.2 c setup s = (.ok value, t) ∧
      u = { t with heap := t.heap.modifyTable arguments (·.insert p.1.asText value) } := by
  obtain ⟨value', t, heval, hbind⟩ := bind_eq_ok h
  rw [bind_of_ok (t := { t with
    heap := t.heap.modifyTable arguments (·.insert p.1.asText value') }) rfl] at hbind
  cases hbind
  exact ⟨t, heval, rfl⟩

/-- Once the arguments are used up, the default values are evaluated one after the other. -/
theorem bindDefaults_nil_eq_ok (h : bindDefaults M arguments c defaults [] setup s = (.ok (), t)) :
    ∃ values, Passed (bindDefault M c arguments) setup defaults s values t := by
  induction defaults generalizing s with
  | nil =>
    cases h
    exact ⟨[], .nil⟩
  | cons p rest ih =>
    rw [bindDefaults] at h
    obtain ⟨value, u, heval, h⟩ := bind_eq_ok h
    rw [bind_of_ok (t := { u with
      heap := u.heap.modifyTable arguments (·.insert p.1.asText value) }) rfl] at h
    obtain ⟨values, hrest⟩ := ih h
    exact ⟨value :: values, .cons ((bind_of_ok heval).trans rfl) hrest⟩

/-- Arguments go to the optional parameters in order, as far as they reach. -/
theorem bindDefaults_eq_ok {left : List Ref}
    (h : bindDefaults M arguments c defaults left setup s = (.ok (), t)) :
    ∃ values, Passed (bindDefault M c arguments) setup (defaults.drop left.length)
      { s with heap := s.heap.bound arguments ((defaultNames defaults).zip left) } values t := by
  induction left generalizing defaults s with
  | nil => simpa [defaultNames, Heap.bound] using bindDefaults_nil_eq_ok h
  | cons value left ih =>
    cases defaults with
    | nil =>
      cases h
      exact ⟨[], .nil⟩
    | cons p rest =>
      rw [bindDefaults, bind_of_ok (t := { s with
        heap := s.heap.modifyTable arguments (·.insert p.1.asText value) }) rfl] at h
      exact ih h

/-- No expression that is evaluated for one of some optional parameters changes what has been
bound. -/
def ArgumentsKept (M : Machine) (c : Context) (arguments : Ref) (setup : Setup)
    (defaults : List (Name × Expr)) (s : State) : Prop :=
  ∀ p t, Reached (bindDefault M c arguments) setup defaults s p t → ∀ value u,
    evalTop M p.2 c setup t = (.ok value, u) → u.heap.value arguments = t.heap.value arguments

/-- Each value is bound when its turn comes, and what was bound before stays. -/
theorem passed_bindDefault {values : List Ref} {entries : Entries Ref}
    (hpassed : Passed (bindDefault M c arguments) setup defaults s values t)
    (hkept : ArgumentsKept M c arguments setup defaults s)
    (hvalue : s.heap.value arguments = .dict { entries })
    (hnodup : (Entries.names entries ++ defaultNames defaults).Nodup) :
    t.heap.value arguments =
      .dict { entries := entries ++ (defaultNames defaults).zip values } := by
  induction hpassed generalizing entries with
  | nil => simpa [defaultNames] using hvalue
  | @cons p rest value values s u t hstep hrest ih =>
    obtain ⟨v, heval, rfl⟩ := bindDefault_eq_ok hstep
    have hsame := hkept p s (reached_cons_iff.mpr (.inl ⟨rfl, rfl⟩)) value v heval
    -- the rest is bound in the same way, with this entry at the end of those there were before
    have hcons : Entries.names entries ++ defaultNames (p :: rest) =
        Entries.names (entries ++ [(p.1.asText, value)]) ++ defaultNames rest := by
      rw [Entries.names_append, List.append_assoc]
      rfl
    rw [hcons] at hnodup
    have hbound := (Heap.Added.insert arguments v.heap p.1.asText value).value entries
      (hsame.trans hvalue) hnodup.of_append_left
    have hrests : ArgumentsKept M c arguments setup rest
        { v with heap := v.heap.modifyTable arguments (·.insert p.1.asText value) } :=
      fun q w hreached => hkept q w (reached_cons_iff.mpr (.inr ⟨value, _, hstep, hreached⟩))
    rw [ih hrests hbound hnodup, List.append_assoc]
    rfl

end

/-! ### The whole -/

namespace Signature

/-- The texts of the names of the parameters, optional ones included. -/
def allNames (sig : Signature) : List String :=
  sig.params.map Data.asText ++ defaultNames sig.defaults

theorem length_allNames (sig : Signature) :
    sig.allNames.length = sig.params.length + sig.defaults.length := by
  rw [allNames, List.length_append, List.length_map, defaultNames, List.length_map]

/-- The optional parameters a number of arguments does not reach. -/
def unsupplied (sig : Signature) (count : Nat) : List (Name × Expr) :=
  sig.defaults.drop (count - sig.params.length)

/-- A number of arguments is not too small and, without variable arguments, not too great. -/
structure Accepts (sig : Signature) (count : Nat) : Prop where
  least : sig.params.length ≤ count
  most : sig.varargs = false → count ≤ sig.params.length + sig.defaults.length

/-- The names parameters may have: all different, and not those of the other arguments. -/
structure Distinct (sig : Signature) : Prop where
  nodup : sig.allNames.Nodup
  whole : "000" ∉ sig.allNames
  numeral : ∀ n : Nat, toString n ∉ sig.allNames
  firstline : "firstline" ∉ sig.allNames
  lastline : "lastline" ∉ sig.allNames

end Signature

/-- The entries for the arguments that are left over, where a function takes them. -/
inductive LeftOver (sig : Signature) (h : Heap) (extra : List Ref) : Entries Ref → Prop
  | nothing : sig.varargs = false → LeftOver sig h extra []
  | all {list length : Ref} : sig.varargs = true → h.value list = .list extra →
      h.value length = .number extra.length →
      LeftOver sig h extra (("000", list) :: ("0", length) :: numbered extra)

section

variable {M : Machine} {c : Context} {arguments : Ref} {setup : Setup} {d : Declaration}
  {args : List Ref} {lines : Int × Int} {s t : State}

/-- How the binding of arguments ends. -/
def bindLinesTraced (arguments : Ref) (d : Declaration) (lines : Int × Int) : Run Unit := do
  bindArgument arguments "firstline" (← Op.number lines.1)
  bindArgument arguments "lastline" (← Op.number lines.2)
  let bound := ((← get).heap.table arguments).keys
  trace ["Bind arguments", d.name.asText, "[" ++ ", ".intercalate (bound.map Text.quoted) ++ "]"]

theorem bindLinesTraced_heap {h : Heap} (hrun : bindLines arguments lines s.heap = (.ok (), h))
    (hbind : bindLinesTraced arguments d lines setup s = (.ok (), t)) : t.heap = h := by
  rw [bindLinesTraced, bind_of_ok rfl, bind_of_ok rfl, bind_of_ok rfl, bind_of_ok rfl,
    bind_of_ok rfl, trace_eq] at hbind
  cases hrun
  cases hbind
  unfold traced
  split <;> rfl

/-- Behind the arguments for some names come those for the names that follow. -/
theorem zip_append_names (names more : List String) (args : List Ref) :
    (names ++ more).zip args = names.zip args ++ more.zip (args.drop names.length) := by
  induction names generalizing args with
  | nil => rfl
  | cons name names ih =>
    cases args with
    | nil => simp
    | cons value args =>
      rw [List.cons_append, List.zip_cons_cons, List.zip_cons_cons, ih]
      rfl

theorem Heap.bound_append (pairs more : Entries Ref) (h : Heap) :
    h.bound arguments (pairs ++ more) = (h.bound arguments pairs).bound arguments more :=
  List.foldl_append

/-- The run that binds the arguments evaluates default values and adds what is left over, and in the
end the lines. -/
theorem bindArguments_added
    (hbind : bindArguments M d args arguments lines c setup s = (.ok (), t)) :
    ∃ values u,
      Passed (bindDefault M c arguments) setup (d.signature.unsupplied args.length)
        { s with heap := s.heap.bound arguments (d.signature.allNames.zip args) } values u ∧
      (arguments.index < u.heap.size → ∃ left first last,
        u.heap.Added arguments (left ++ [("firstline", first), ("lastline", last)]) t.heap ∧
        LeftOver d.signature t.heap (args.drop d.signature.allNames.length) left ∧
        t.heap.value first = .number lines.1 ∧ t.heap.value last = .number lines.2) := by
  rw [bindArguments] at hbind
  dsimp only at hbind
  rw [bind_of_ok (op_of_ok (bindEach_bound arguments _ s.heap))] at hbind
  obtain ⟨_, u, hdefaults, hrest⟩ := bind_eq_ok hbind
  obtain ⟨values, hpassed⟩ := bindDefaults_eq_ok hdefaults
  have hlength : (args.drop d.signature.params.length).drop d.signature.defaults.length =
      args.drop d.signature.allNames.length := by
    rw [List.drop_drop, Signature.length_allNames]
  refine ⟨values, u, ?_, fun hin => ?_⟩
  · rw [Signature.allNames, zip_append_names, Heap.bound_append, Signature.unsupplied,
      List.length_map, ← List.length_drop]
    exact hpassed
  rw [hlength] at hrest
  split at hrest
  · rename_i hvarargs
    obtain ⟨list, length, h₁, hextra, hadded, hlist, hnumber⟩ :=
      bindExtra_added arguments (args.drop d.signature.allNames.length) hin
    obtain ⟨first, last, h₂, hrun, hlines, hfirst, hlast⟩ :=
      bindLines_added arguments lines (Nat.lt_of_lt_of_le hin hadded.size_le)
    rw [bind_of_ok (op_of_ok hextra)] at hrest
    have ht := bindLinesTraced_heap (s := { u with heap := h₁ }) hrun hrest
    rw [ht]
    exact ⟨_, first, last, hadded.trans hlines,
      .all hvarargs (hlist.kept hlines).value (hnumber.kept hlines).value, hfirst.value,
      hlast.value⟩
  · rename_i hvarargs
    obtain ⟨first, last, h₂, hrun, hlines, hfirst, hlast⟩ := bindLines_added arguments lines hin
    have ht := bindLinesTraced_heap hrun hrest
    rw [ht]
    exact ⟨[], first, last, hlines, .nothing (Bool.eq_false_iff.mpr hvarargs), hfirst.value,
      hlast.value⟩

end

/-! ## What is bound -/

/-- The names of the arguments that are not parameters, with a number of them left over. -/
def Signature.otherNames (sig : Signature) (extra : Nat) : List String :=
  (if sig.varargs then "000" :: (List.range (extra + 1)).map toString else []) ++
    ["firstline", "lastline"]

theorem names_zip (names : List String) (values : List Ref) :
    Entries.names (names.zip values) = names.take values.length := by
  induction names generalizing values with
  | nil => simp [Entries.names]
  | cons name names ih =>
    cases values with
    | nil => rfl
    | cons value values => exact congrArg (name :: ·) (ih values)

theorem names_zip_of_le {names : List String} {values : List Ref}
    (hle : names.length ≤ values.length) : Entries.names (names.zip values) = names := by
  rw [names_zip, List.take_of_length_le hle]

theorem map_some_zip (names : List String) (values : List Ref) :
    (names.zip values).map (fun e => some e.2) = (values.take names.length).map some := by
  induction names generalizing values with
  | nil => simp
  | cons name names ih =>
    cases values with
    | nil => rfl
    | cons value values => exact congrArg (some value :: ·) (ih values)

theorem names_numbered (extra : List Ref) :
    Entries.names (numbered extra) =
      (List.range extra.length).map fun i => toString (i + 1) := by
  apply List.ext_getElem?
  intro i
  rw [Entries.names, numbered, List.getElem?_map, List.getElem?_mapIdx, List.getElem?_map]
  by_cases hi : i < extra.length
  · rw [List.getElem?_eq_getElem hi, List.getElem?_range hi]
    rfl
  · rw [List.getElem?_eq_none (Nat.le_of_not_lt hi), List.getElem?_eq_none (by simpa using hi)]
    rfl

theorem LeftOver.names {sig : Signature} {h : Heap} {extra : List Ref} {left : Entries Ref}
    (hleft : LeftOver sig h extra left) (first last : Ref) :
    Entries.names (left ++ [("firstline", first), ("lastline", last)]) =
      sig.otherNames extra.length := by
  rw [Entries.names_append, Signature.otherNames]
  cases hleft with
  | nothing hvarargs =>
    rw [hvarargs]
    rfl
  | @all list length hvarargs =>
    have hnames : Entries.names (("000", list) :: ("0", length) :: numbered extra) =
        "000" :: "0" :: Entries.names (numbered extra) := rfl
    rw [if_pos hvarargs, hnames, names_numbered, List.range_succ_eq_map, List.map_cons,
      List.map_map]
    rfl

/-- A text with another character than a digit is no numeral. -/
theorem toString_ne_of_mem {n : Nat} {text : String} {c : Char} (hc : c ∈ text.toList)
    (hdigit : c.isDigit = false) : toString n ≠ text := by
  rintro rfl
  have hdigits : (toString n).toList = Nat.toDigits 10 n := by simp
  rw [hdigits] at hc
  rw [Number.isDigit_of_mem hc] at hdigit
  cases hdigit

/-- A numeral does not start with more zeros than one. -/
theorem toString_ne_zeros (n : Nat) : toString n ≠ "000" := by
  intro h
  have hdigits : Nat.toDigits 10 n = ['0', '0', '0'] := by
    simpa using congrArg String.toList h
  have hzero : n = 0 := by
    rw [← Number.ofDigits_ten_toDigits n, hdigits]
    rfl
  subst hzero
  cases hdigits

theorem Signature.mem_otherNames {sig : Signature} {extra : Nat} {name : String} :
    name ∈ sig.otherNames extra ↔
      (sig.varargs = true ∧ (name = "000" ∨ ∃ n ≤ extra, toString n = name)) ∨
        name = "firstline" ∨ name = "lastline" := by
  rw [otherNames, List.mem_append]
  split
  · rename_i hvarargs
    simp only [hvarargs, true_and, List.mem_cons, List.mem_map, List.mem_range,
      Nat.lt_succ_iff, List.not_mem_nil, or_false]
  · rename_i hvarargs
    simp [hvarargs]

theorem Signature.otherNames_nodup (sig : Signature) (extra : Nat) :
    (sig.otherNames extra).Nodup := by
  have hnumerals : ((List.range (extra + 1)).map (toString : Nat → String)).Nodup :=
    List.nodup_range.map fun _ _ => Number.toString_nat_injective
  have hlines : ∀ n : Nat, ∀ name ∈ ["firstline", "lastline"], toString n ≠ name := by
    intro n name hname
    exact toString_ne_of_mem (c := 'l') (by revert name; decide) rfl
  rw [otherNames]
  split
  · rw [List.cons_append, List.nodup_cons, List.nodup_append]
    refine ⟨?_, hnumerals, by decide, ?_⟩
    · rw [List.mem_append]
      rintro (hmem | hmem)
      · obtain ⟨n, -, hn⟩ := List.mem_map.mp hmem
        exact toString_ne_zeros n hn
      · revert hmem
        decide
    · intro name hmem line hline
      obtain ⟨n, -, rfl⟩ := List.mem_map.mp hmem
      exact hlines n line hline
  · decide

theorem Signature.Distinct.nodup_all {sig : Signature} (h : sig.Distinct) (extra : Nat) :
    (sig.allNames ++ sig.otherNames extra).Nodup := by
  refine List.nodup_append.mpr ⟨h.nodup, sig.otherNames_nodup extra, ?_⟩
  rintro name hname _ hother rfl
  rcases Signature.mem_otherNames.mp hother with ⟨-, rfl | ⟨n, -, rfl⟩⟩ | rfl | rfl
  · exact h.whole hname
  · exact h.numeral n hname
  · exact h.firstline hname
  · exact h.lastline hname

/-- The items of `a:000`; none where it is not bound. -/
def Heap.extraArguments (h : Heap) (arguments : Ref) : List Ref :=
  ((h.table arguments).get? "000").elim [] h.items

/-- What the arguments of a call are bound to when its body starts. In the first of the two states
nothing has been bound yet. -/
structure ArgumentsBound (M : Machine) (c : Context) (arguments : Ref) (setup : Setup)
    (d : Declaration) (args : List Ref) (lines : Int × Int) (s t : State) : Prop where
  /-- The parameters that are given an argument and what is left over make up the arguments. -/
  given : (d.signature.allNames.take args.length).map (t.heap.table arguments).get? ++
    (t.heap.extraArguments arguments).map some = args.map some
  /-- The other parameters have the values of their expressions, computed in order. -/
  defaults : ∃ values u,
    Passed (bindDefault M c arguments) setup (d.signature.unsupplied args.length)
      { s with heap := s.heap.bound arguments (d.signature.allNames.zip args) } values u ∧
    (defaultNames (d.signature.unsupplied args.length)).map (t.heap.table arguments).get? =
      values.map some
  /-- While one of them is computed, exactly those before it are bound. -/
  before : ∀ done p rest, d.signature.unsupplied args.length = done ++ p :: rest →
    ∀ values u, Passed (bindDefault M c arguments) setup done
      { s with heap := s.heap.bound arguments (d.signature.allNames.zip args) } values u →
    u.heap.value arguments =
      .dict { entries := d.signature.allNames.zip args ++ (defaultNames done).zip values }
  /-- What is left over is counted, and can be had by position. -/
  count : d.signature.varargs = true → ∃ r, (t.heap.table arguments).get? "0" = some r ∧
    t.heap.value r = .number (t.heap.extraArguments arguments).length
  position : d.signature.varargs = true → ∀ k : Nat,
    (t.heap.table arguments).get? (toString (k + 1)) = (t.heap.extraArguments arguments)[k]?
  first : ∃ r, (t.heap.table arguments).get? "firstline" = some r ∧
    t.heap.value r = .number lines.1
  last : ∃ r, (t.heap.table arguments).get? "lastline" = some r ∧
    t.heap.value r = .number lines.2
  /-- Nothing else is bound. -/
  names : (t.heap.table arguments).keys = d.signature.allNames ++
    d.signature.otherNames (t.heap.extraArguments arguments).length

section

variable {M : Machine} {c : Context} {arguments : Ref} {setup : Setup} {d : Declaration}
  {args : List Ref} {lines : Int × Int} {s t : State}

omit M c arguments setup lines s t in
theorem Signature.Accepts.names_unsupplied {sig : Signature} {count : Nat}
    (h : sig.Accepts count) : defaultNames (sig.unsupplied count) = sig.allNames.drop count := by
  rw [Signature.allNames, List.drop_append, List.length_map,
    List.drop_eq_nil_of_le (by rw [List.length_map]; exact h.least), List.nil_append,
    Signature.unsupplied, defaultNames, defaultNames, List.map_drop]

/-- All entries of the namespace, in order. -/
def boundEntries (d : Declaration) (args values : List Ref) (left : Entries Ref)
    (first last : Ref) : Entries Ref :=
  d.signature.allNames.zip args ++
    (defaultNames (d.signature.unsupplied args.length)).zip values ++
    (left ++ [("firstline", first), ("lastline", last)])

/-- The entries come about, and what their values are. -/
structure BoundEntries (d : Declaration) (args : List Ref) (lines : Int × Int) (h : Heap)
    (arguments : Ref) (values : List Ref) (left : Entries Ref) (first last : Ref) : Prop where
  table : h.value arguments = .dict { entries := boundEntries d args values left first last }
  names : Entries.names (boundEntries d args values left first last) = d.signature.allNames ++
    d.signature.otherNames (args.drop d.signature.allNames.length).length
  left : LeftOver d.signature h (args.drop d.signature.allNames.length) left
  first : h.value first = .number lines.1
  last : h.value last = .number lines.2

section

variable (hempty : s.heap.value arguments = .dict {}) (hdistinct : d.signature.Distinct)
include hempty hdistinct

/-- The parameters that are given an argument are bound first. -/
theorem value_given : (s.heap.bound arguments (d.signature.allNames.zip args)).value arguments =
    .dict { entries := d.signature.allNames.zip args } := by
  refine (added_bound arguments _ s.heap).value [] hempty ?_
  rw [List.nil_append, names_zip]
  exact hdistinct.nodup.sublist (List.take_sublist _ _)

variable (haccepts : d.signature.Accepts args.length)
  (hkept : ArgumentsKept M c arguments setup (d.signature.unsupplied args.length)
    { s with heap := s.heap.bound arguments (d.signature.allNames.zip args) })
include haccepts hkept

/-- While a default value is computed, exactly the parameters before it are bound. -/
theorem value_before {done rest : List (Name × Expr)} {values : List Ref} {u : State}
    (hsplit : d.signature.unsupplied args.length = done ++ rest)
    (hpassed : Passed (bindDefault M c arguments) setup done
      { s with heap := s.heap.bound arguments (d.signature.allNames.zip args) } values u) :
    u.heap.value arguments =
      .dict { entries := d.signature.allNames.zip args ++ (defaultNames done).zip values } := by
  have hdone : ArgumentsKept M c arguments setup done
      { s with heap := s.heap.bound arguments (d.signature.allNames.zip args) } := by
    rintro p t ⟨before, after, earlier, rfl, hbefore⟩
    refine hkept p t ⟨before, after ++ rest, earlier, ?_, hbefore⟩
    rw [hsplit, List.append_assoc, List.cons_append]
  have hnames : d.signature.allNames = Entries.names (d.signature.allNames.zip args) ++
      defaultNames done ++ defaultNames rest := by
    rw [names_zip, List.append_assoc, defaultNames, defaultNames, ← List.map_append, ← hsplit,
      ← defaultNames, haccepts.names_unsupplied, List.take_append_drop]
  refine passed_bindDefault hpassed hdone (value_given hempty hdistinct) ?_
  have hnodup := hdistinct.nodup
  rw [hnames] at hnodup
  exact hnodup.of_append_left

theorem bindArguments_entries
    (hbind : bindArguments M d args arguments lines c setup s = (.ok (), t)) :
    ∃ values u left first last,
      Passed (bindDefault M c arguments) setup (d.signature.unsupplied args.length)
        { s with heap := s.heap.bound arguments (d.signature.allNames.zip args) } values u ∧
      values.length = (d.signature.unsupplied args.length).length ∧
      BoundEntries d args lines t.heap arguments values left first last := by
  obtain ⟨values, u, hpassed, hrest⟩ := bindArguments_added hbind
  have hlength := hpassed.length_eq
  have hvalue := value_before hempty hdistinct haccepts hkept (List.append_nil _).symm hpassed
  obtain ⟨left, first, last, hadded, hleft, hfirst, hlast⟩ :=
    hrest (Heap.index_lt_of_dict hvalue)
  have hnames : Entries.names (boundEntries d args values left first last) =
      d.signature.allNames ++
        d.signature.otherNames (args.drop d.signature.allNames.length).length := by
    have hvalues : (defaultNames (d.signature.unsupplied args.length)).length ≤ values.length := by
      rw [defaultNames, List.length_map, hlength]
    rw [boundEntries, Entries.names_append, Entries.names_append, hleft.names,
      names_zip_of_le hvalues, names_zip, haccepts.names_unsupplied, List.take_append_drop]
  refine ⟨values, u, left, first, last, hpassed, hlength, ?_, hnames, hleft, hfirst, hlast⟩
  refine hadded.value _ hvalue ?_
  rw [← boundEntries, hnames]
  exact hdistinct.nodup_all _

end

namespace BoundEntries

variable {h : Heap} {values : List Ref} {left : Entries Ref} {first last : Ref}
  (hbound : BoundEntries d args lines h arguments values left first last)
include hbound

section

variable (hdistinct : d.signature.Distinct)
include hdistinct

theorem nodup : (Entries.names (boundEntries d args values left first last)).Nodup := by
  rw [hbound.names]
  exact hdistinct.nodup_all _

/-- What an entry binds. -/
theorem get?_of_mem {name : String} {value : Ref}
    (hmem : (name, value) ∈ boundEntries d args values left first last) :
    (h.table arguments).get? name = some value := by
  rw [Heap.table_of_dict hbound.table]
  exact (Entries.find?_eq_some_iff (hbound.nodup hdistinct)).mpr hmem

theorem get?_of_mem_left {name : String} {value : Ref} (hmem : (name, value) ∈ left) :
    (h.table arguments).get? name = some value :=
  hbound.get?_of_mem hdistinct (List.mem_append_right _ (List.mem_append_left _ hmem))

theorem map_get?_names {entries : Entries Ref}
    (hsub : entries ⊆ boundEntries d args values left first last) :
    (Entries.names entries).map (h.table arguments).get? = entries.map fun e => some e.2 := by
  rw [Heap.table_of_dict hbound.table]
  exact Entries.map_find?_names (hbound.nodup hdistinct) hsub

end

theorem get?_eq_none_iff {name : String} : (h.table arguments).get? name = none ↔
    name ∉ d.signature.allNames ∧
      name ∉ d.signature.otherNames (args.drop d.signature.allNames.length).length := by
  rw [Heap.table_of_dict hbound.table, ← not_or, ← List.mem_append, ← hbound.names]
  exact Entries.find?_eq_none_iff

theorem extraArguments (haccepts : d.signature.Accepts args.length)
    (hdistinct : d.signature.Distinct) :
    h.extraArguments arguments = args.drop d.signature.allNames.length := by
  rw [Heap.extraArguments]
  rcases hbound.left with hvarargs | ⟨-, hlist, -⟩
  · have hnone : (h.table arguments).get? "000" = none := by
      refine hbound.get?_eq_none_iff.mpr ⟨hdistinct.whole, fun hmem => ?_⟩
      simpa [hvarargs] using Signature.mem_otherNames.mp hmem
    have hle := haccepts.most hvarargs
    rw [hnone, List.drop_eq_nil_of_le (by rwa [Signature.length_allNames])]
    rfl
  · rw [hbound.get?_of_mem_left hdistinct List.mem_cons_self]
    exact Heap.items_of_list hlist

/-- What is left over is counted. -/
theorem count (hdistinct : d.signature.Distinct) (hvarargs : d.signature.varargs = true) :
    ∃ r, (h.table arguments).get? "0" = some r ∧
      h.value r = .number (args.drop d.signature.allNames.length).length := by
  rcases hbound.left with hno | ⟨-, -, hnumber⟩
  · rw [hvarargs] at hno
    cases hno
  · exact ⟨_, hbound.get?_of_mem_left hdistinct (List.mem_cons_of_mem _ List.mem_cons_self),
      hnumber⟩

/-- What is left over can be had by position, and there is no other position. -/
theorem position (hdistinct : d.signature.Distinct) (hvarargs : d.signature.varargs = true)
    (k : Nat) : (h.table arguments).get? (toString (k + 1)) =
      (args.drop d.signature.allNames.length)[k]? := by
  rcases hbound.left with hno | ⟨-, -, -⟩
  · rw [hvarargs] at hno
    cases hno
  rcases hitem : (args.drop d.signature.allNames.length)[k]? with _ | value
  · refine hbound.get?_eq_none_iff.mpr ⟨hdistinct.numeral _, fun hmem => ?_⟩
    rcases Signature.mem_otherNames.mp hmem with ⟨-, hzeros | ⟨n, hn, heq⟩⟩ | hline | hline
    · exact toString_ne_zeros _ hzeros
    · have hk := List.getElem?_eq_none_iff.mp hitem
      have heq := Number.toString_nat_injective heq
      omega
    · exact toString_ne_of_mem (c := 'l') (by decide) rfl hline
    · exact toString_ne_of_mem (c := 'l') (by decide) rfl hline
  · have hmem : (toString (k + 1), value) ∈
        numbered (args.drop d.signature.allNames.length) := by
      refine List.mem_iff_getElem?.mpr ⟨k, ?_⟩
      rw [numbered, List.getElem?_mapIdx, hitem]
      rfl
    exact hbound.get?_of_mem_left hdistinct
      (List.mem_cons_of_mem _ (List.mem_cons_of_mem _ hmem))

end BoundEntries

/-- Whatever a call is given can be had from its arguments, and nothing else can: as long as no
default value is computed by an expression that changes them. -/
theorem arguments_bound (hempty : s.heap.value arguments = .dict {})
    (haccepts : d.signature.Accepts args.length) (hdistinct : d.signature.Distinct)
    (hkept : ArgumentsKept M c arguments setup (d.signature.unsupplied args.length)
      { s with heap := s.heap.bound arguments (d.signature.allNames.zip args) })
    (hbind : bindArguments M d args arguments lines c setup s = (.ok (), t)) :
    ArgumentsBound M c arguments setup d args lines s t := by
  obtain ⟨values, u, left, first, last, hpassed, hlength, hbound⟩ :=
    bindArguments_entries hempty hdistinct haccepts hkept hbind
  have hextra := hbound.extraArguments haccepts hdistinct
  have hgroups : boundEntries d args values left first last = d.signature.allNames.zip args ++
    ((defaultNames (d.signature.unsupplied args.length)).zip values ++
      (left ++ [("firstline", first), ("lastline", last)])) := List.append_assoc _ _ _
  have hzip : d.signature.allNames.zip args ⊆ boundEntries d args values left first last := by
    rw [hgroups]
    exact List.subset_append_left _ _
  have hrest : (defaultNames (d.signature.unsupplied args.length)).zip values ⊆
      boundEntries d args values left first last := by
    rw [hgroups]
    exact fun e he => List.mem_append_right _ (List.mem_append_left _ he)
  refine
    { given := ?_
      defaults := ⟨values, u, hpassed, ?_⟩
      before := fun done p rest hsplit values u hpassed =>
        value_before hempty hdistinct haccepts hkept hsplit hpassed
      count := fun hvarargs => ?_
      position := fun hvarargs k => ?_
      first := ⟨first, hbound.get?_of_mem hdistinct ?_, hbound.first⟩
      last := ⟨last, hbound.get?_of_mem hdistinct ?_, hbound.last⟩
      names := ?_ }
  · rw [← names_zip, hbound.map_get?_names hdistinct hzip, map_some_zip, hextra, ← List.map_append,
      List.take_append_drop]
  · have hnames : (defaultNames (d.signature.unsupplied args.length)).length = values.length := by
      rw [defaultNames, List.length_map, hlength]
    rw [← names_zip_of_le (Nat.le_of_eq hnames), hbound.map_get?_names hdistinct hrest,
      map_some_zip, List.take_of_length_le (Nat.le_of_eq hnames.symm)]
  · rw [hextra]
    exact hbound.count hdistinct hvarargs
  · rw [hextra]
    exact hbound.position hdistinct hvarargs k
  · simp [boundEntries]
  · simp [boundEntries]
  · rw [hextra, Heap.table_of_dict hbound.table]
    exact hbound.names

end

/-! ## Calls -/

/-- The lines a call is for: those it is given, or else the one the cursor is in. -/
def Call.lines (call : Call) (s : State) : Int × Int :=
  call.range.getD (s.host.currentLine, s.host.currentLine)

/-- How a call performs the runs of its function: once, or once for each line of a range. -/
def Declaration.runs (d : Declaration) (call : Call) (once : Run Ref) : Run Ref := do
  if d.signature.flags.dict ∧ call.self.isNone then fail (.selfRequired d.displayName)
  match call.range with
  | none => once
  | some (first, last) =>
    if d.signature.flags.range then once
    else forLines once (last - first + 1).toNat first (← Op.number 0)

theorem callDeclared_eq (M : Machine) (d : Declaration) (call : Call) (setup : Setup) (s : State) :
    callDeclared M d call setup s =
      d.runs call (runDeclared M d call.args call.self (call.lines s)) setup s := by
  unfold callDeclared Declaration.runs Call.lines
  by_cases hdict : d.signature.flags.dict = true ∧ call.self.isNone = true
  · rw [if_pos hdict, if_pos hdict]
    exact (bind_of_error rfl).trans (bind_of_error rfl).symm
  · rw [if_neg hdict, if_neg hdict]
    rcases call.range with _ | ⟨first, last⟩
    · exact bind_of_ok (a := s.host) (t := s) rfl
    · rfl

/-- A run of a function has made its frame and is about to bind the arguments there, with its name
on the stack. -/
structure Declaration.Enters (d : Declaration) (dict : Option Ref) (s : State) (frame : Frame)
    (t : State) : Prop where
  frame : makeFrame d dict s.heap = (.ok frame, t.heap)
  state : t = { s with heap := t.heap, calls := d.displayName :: s.calls }

/-- Where the code of a run is. -/
def Declaration.inside (d : Declaration) (frame : Frame) : Context :=
  { script := d.script, frame := some frame }

/-- The frame is new. -/
theorem Declaration.Enters.empty {d : Declaration} {dict : Option Ref} {s t : State} {frame : Frame}
    (h : d.Enters dict s frame t) : t.heap.value frame.own.arguments = .dict {} := by
  obtain ⟨hframe, hheap⟩ := Prod.mk.inj h.frame
  rw [← hheap, ← Except.ok.inj hframe, Frame.own_enter]
  exact Heap.value_alloc_self _ _

/-- A run that finds room on the stack binds its arguments in such a frame before anything else
runs. -/
theorem runDeclared_enters (M : Machine) (d : Declaration) (args : List Ref) (dict : Option Ref)
    (lines : Int × Int) {setup : Setup} {s : State} (hroom : s.calls.length < setup.maxDepth) :
    ∃ frame t, d.Enters dict s frame t ∧ runDeclared M d args dict lines setup s =
      let (result, u) := (do
        bindArguments M d args frame.own.arguments lines (d.inside frame)
        runBody M d (d.inside frame) : Run Ref) setup t
      (result.mapError (Stop.leaving (placeOf (d.inside frame) u)),
        { u with calls := u.calls.tail }) := by
  obtain ⟨frame, h, hframe⟩ : ∃ frame h, makeFrame d dict s.heap = (.ok frame, h) := ⟨_, _, rfl⟩
  refine ⟨frame, { s with heap := h, calls := d.displayName :: s.calls }, ⟨hframe, rfl⟩, ?_⟩
  rw [runDeclared, bind_of_ok (op_of_ok hframe)]
  exact withCall_of_room (s := { s with heap := h }) d.displayName (d.inside frame) _ hroom

theorem checkArity_of_accepts {d : Declaration} {count : Nat} {name : String}
    (h : d.signature.Accepts count) : checkArity name d.arity count = .ok () := by
  rw [checkArity, Declaration.arity, if_neg (Nat.not_lt.mpr h.least)]
  cases hvarargs : d.signature.varargs with
  | true => simp
  | false => simp [h.most hvarargs]

/-- A call of a declared function with a number of arguments that it does not accept fails before
anything else happens. With any other number each run of the function binds the arguments in a
frame of its own, for the lines of the call, and if that ends well all of them can be had. -/
theorem call_binds_arguments (M : Machine) (setup : Setup) (s : State) (call : Call)
    (d : Declaration)
    (hfound : ∃ id name, call.callee = .declared id name ∧ s.registry.declaration? id = some d) :
    (call.args.length < d.signature.params.length →
      callFunction M call setup s =
        (.error (.ofCause (.notEnoughArguments d.displayName)), s)) ∧
    (d.signature.varargs = false →
      d.signature.params.length + d.signature.defaults.length < call.args.length →
      callFunction M call setup s =
        (.error (.ofCause (.tooManyArguments d.displayName)), s)) ∧
    (d.signature.Accepts call.args.length →
      callFunction M call setup s =
        d.runs call (runDeclared M d call.args call.self (call.lines s)) setup s ∧
      ∀ before, before.calls.length < setup.maxDepth →
        ∃ frame start, d.Enters call.self before frame start ∧
        (runDeclared M d call.args call.self (call.lines s) setup before =
          let (result, u) := (do
            bindArguments M d call.args frame.own.arguments (call.lines s) (d.inside frame)
            runBody M d (d.inside frame) : Run Ref) setup start
          (result.mapError (Stop.leaving (placeOf (d.inside frame) u)),
            { u with calls := u.calls.tail })) ∧
        ∀ t, d.signature.Distinct →
          ArgumentsKept M (d.inside frame) frame.own.arguments setup
            (d.signature.unsupplied call.args.length)
            { start with
              heap := start.heap.bound frame.own.arguments
                (d.signature.allNames.zip call.args) } →
          bindArguments M d call.args frame.own.arguments (call.lines s) (d.inside frame) setup
            start = (.ok (), t) →
          ArgumentsBound M (d.inside frame) frame.own.arguments setup d call.args (call.lines s)
            start t) := by
  obtain ⟨id, name, hcallee, hid⟩ := hfound
  have hname : s.registry.displayName call.callee = d.displayName := by
    rw [hcallee, Registry.displayName, hid]
    rfl
  have harity : s.registry.arity call.callee = d.arity := by
    rw [hcallee, Registry.arity, hid]
    rfl
  have hrefused {cause : Cause}
      (hcheck : checkArity d.displayName d.arity call.args.length = .error cause) :
      callFunction M call setup s = (.error (.ofCause cause), s) := by
    unfold callFunction
    rw [bind_of_ok (a := s.registry) (t := s) rfl, hname, harity, hcheck]
    exact bind_of_error rfl
  refine ⟨fun hfew => hrefused ?_, fun hvarargs hmany => hrefused ?_, fun haccepts =>
    ⟨?_, fun before hroom => ?_⟩⟩
  · rw [checkArity, Declaration.arity, if_pos hfew]
  · rw [checkArity, Declaration.arity, if_neg (by omega), hvarargs]
    simp [hmany]
  · unfold callFunction
    rw [bind_of_ok (a := s.registry) (t := s) rfl, hname, harity,
      checkArity_of_accepts haccepts, bind_of_ok (a := ()) (t := s) rfl, hcallee]
    simp only [hid]
    exact callDeclared_eq M d call setup s
  · obtain ⟨frame, start, henters, hrun⟩ :=
      runDeclared_enters M d call.args call.self (call.lines s) hroom
    exact ⟨frame, start, henters, hrun, fun t hdistinct hkept hbind =>
      arguments_bound henters.empty haccepts hdistinct hkept hbind⟩

/-- A function that takes `x`, perhaps `y`, and any further arguments. -/
def oneOrMore (e : Expr) : Declaration :=
  .make (.text "OneOrMore") none
    { params := [.text "x"], defaults := [(.text "y", e)], varargs := true } []
    { script := default }

/-- A Number, the function, and one namespace for everything else. -/
def oneNumber (e : Expr) : State where
  heap := { cells := #[{ value := .dict {} }, { value := .number 1 }] }
  registry := { declarations := #[oneOrMore e] }

/-- A call with the Number. -/
def callWithNumber : Call :=
  { callee := .declared 0 "OneOrMore", args := [⟨1⟩], context := { script := default } }

theorem oneOrMore_accepts (e : Expr) : (oneOrMore e).signature.Accepts 1 where
  least := Nat.le_refl 1
  most := nofun

theorem oneOrMore_distinct (e : Expr) : (oneOrMore e).signature.Distinct := by
  have hnames : (oneOrMore e).signature.allNames = ["x", "y"] := rfl
  constructor <;> rw [hnames]
  case numeral =>
    intro n hmem
    rcases List.mem_cons.mp hmem with hx | hmem
    · exact toString_ne_of_mem (c := 'x') (by decide) rfl hx
    · exact toString_ne_of_mem (c := 'y') (by decide) rfl (List.mem_singleton.mp hmem)
  all_goals decide

/-- The inside of the call, before anything is bound. -/
def insideCall (e : Expr) : State :=
  { oneNumber e with
    heap := (makeFrame (oneOrMore e) none (oneNumber e).heap).2
    calls := ["OneOrMore"] }

/-- The frame of the call. -/
def callFrame : Frame := { own := { locals := ⟨2⟩, arguments := ⟨3⟩ } }

theorem callWithNumber_enters {e : Expr} {frame : Frame} {t : State}
    (h : (oneOrMore e).Enters none (oneNumber e) frame t) :
    frame = callFrame ∧ t = insideCall e := by
  obtain ⟨hframe, hheap⟩ := Prod.mk.inj h.frame
  refine ⟨(Except.ok.inj hframe).symm, ?_⟩
  rw [h.state, ← hheap]
  rfl

/-- `a:x` -/
def argumentX : Expr := .var none (some .arguments) [.plain "x"]

theorem callWithNumber_binds :
    ∃ frame start t, (oneOrMore argumentX).Enters none (oneNumber argumentX) frame start ∧
      ArgumentsBound (Machine.ofFuel 1) ((oneOrMore argumentX).inside frame) frame.own.arguments
        plainSetup (oneOrMore argumentX) [⟨1⟩] (1, 1) start t := by
  obtain ⟨frame, start, henters, -, hbound⟩ := ((call_binds_arguments (Machine.ofFuel 1) plainSetup
    (oneNumber argumentX) callWithNumber (oneOrMore argumentX) ⟨0, _, rfl, rfl⟩).2.2
    (oneOrMore_accepts argumentX)).2 (oneNumber argumentX) (by decide)
  obtain ⟨rfl, rfl⟩ := callWithNumber_enters henters
  obtain ⟨t, hbind⟩ : ∃ t, bindArguments (Machine.ofFuel 1) (oneOrMore argumentX) [⟨1⟩] ⟨3⟩ (1, 1)
      ((oneOrMore argumentX).inside callFrame) plainSetup (insideCall argumentX) = (.ok (), t) :=
    ⟨_, rfl⟩
  refine ⟨callFrame, insideCall argumentX, t, henters, hbound t (oneOrMore_distinct _) ?_ hbind⟩
  intro p u hreached value v heval
  rcases reached_cons_iff.mp hreached with ⟨rfl, rfl⟩ | ⟨_, _, _, hnone⟩
  · -- reading an argument changes nothing
    obtain ⟨w, hread, hkept⟩ : ∃ w, evalTop (Machine.ofFuel 1) argumentX
        ((oneOrMore argumentX).inside callFrame) plainSetup
        { insideCall argumentX with
          heap := (insideCall argumentX).heap.bound ⟨3⟩ [("x", ⟨1⟩)] } = (.ok ⟨1⟩, w) ∧
        w.heap.value ⟨3⟩ = .dict { entries := [("x", ⟨1⟩)] } := ⟨_, rfl, rfl⟩
    cases hread.symm.trans heval
    exact hkept
  · exact absurd hnone not_reached_nil

/-- `remove(a:, 'x')` -/
def removingX : Expr :=
  .call none none (.text "remove") [.wholeScope none (some .arguments), .text none "x"]

/-- The default value of `y` takes `x` away, and the argument is nowhere among those that are
bound. -/
theorem removed_argument_lost :
    (oneOrMore removingX).signature.Accepts 1 ∧ (oneOrMore removingX).signature.Distinct ∧
    (oneOrMore removingX).Enters none (oneNumber removingX) callFrame (insideCall removingX) ∧
    ∃ t, bindArguments (Machine.ofFuel 3) (oneOrMore removingX) [⟨1⟩] ⟨3⟩ (1, 1)
        ((oneOrMore removingX).inside callFrame) plainSetup (insideCall removingX) = (.ok (), t) ∧
      ((oneOrMore removingX).signature.allNames.take 1).map (t.heap.table ⟨3⟩).get? ++
        (t.heap.extraArguments ⟨3⟩).map some ≠ [some ⟨1⟩] := by
  have hok : (bindArguments (Machine.ofFuel 3) (oneOrMore removingX) [⟨1⟩] ⟨3⟩ (1, 1)
      ((oneOrMore removingX).inside callFrame) plainSetup
      (insideCall removingX)).1.isOk = true := by
    decide +kernel
  have hlost : ((bindArguments (Machine.ofFuel 3) (oneOrMore removingX) [⟨1⟩] ⟨3⟩ (1, 1)
      ((oneOrMore removingX).inside callFrame) plainSetup
      (insideCall removingX)).2.heap.table ⟨3⟩).get? "x" = none := by
    decide +kernel
  refine ⟨oneOrMore_accepts _, oneOrMore_distinct _, ⟨rfl, rfl⟩, ?_⟩
  rcases hbind : bindArguments (Machine.ofFuel 3) (oneOrMore removingX) [⟨1⟩] ⟨3⟩ (1, 1)
    ((oneOrMore removingX).inside callFrame) plainSetup (insideCall removingX) with ⟨_ | _, t⟩
  · rw [hbind] at hok
    cases hok
  · rw [hbind] at hlost
    refine ⟨t, rfl, fun heq => ?_⟩
    have hfirst : (t.heap.table ⟨3⟩).get? "x" = some ⟨1⟩ := (List.cons.inj heq).1
    rw [hlost] at hfirst
    cases hfirst

end Vimscript
