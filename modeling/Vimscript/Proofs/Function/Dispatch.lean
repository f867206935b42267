import Vimscript.Proofs.Function.History
import Vimscript.Proofs.Variables.Locking
import Vimscript.Proofs.Heap.Edit
import Vimscript.Proofs.Number.Written

/-!
# What a Funcref runs

A Funcref is made for one declaration: by name, by copying another
Funcref, as a lambda, or as an entry of a Dictionary. `MadeFor` says what
they have in common, and the registry it speaks of may be an earlier one,
since a declaration keeps its number and all it consists of. What a call
of the Funcref comes to is then settled by the declaration and the registry
of that moment (`Dispatched`): a deleted declaration refuses, a Funcref that
follows a name runs what the name stands for now, and any other runs its
declaration.

`FunctionsHold` collects what is true of the functions of a state, of the
history behind it and of every history from it on: what each operation
does, and that a Funcref refuses exactly when its declaration has been
deleted. `functionsHold_after` proves it of every history that starts
without functions; the last part rests on `State.after_flagged`, since a
call asks for the mark and not for the history.
-/

namespace Vimscript

open Run

/-! ## What a name stands for -/

theorem FunctionName.ofData_eq_text {name : Name} {s : String}
    (h : FunctionName.ofData name = .ok (.text s)) : name = .text s := by
  cases name with
  | text => cases h; rfl
  | null => cases h
  | bool => cases h
  | int => cases h
  | float => cases h
  | bytes => cases h
  | list => cases h
  | map => cases h
  | foreign => cases h

namespace Registry

variable {r : Registry} {scope : Option Scope} {key : FunctionName} {script : Script}
  {callee : Callee} {id : Nat} {d : Declaration}

theorem declared_eq (hd : r.declaration? id = some d) :
    r.declared id = .declared id d.name.asText := by
  rw [declared, hd]
  rfl

/-- A name stands for a built-in function, or for a declaration that the name leads to in one of
the tables. -/
theorem lookup?_cases (h : r.lookup? scope key script = some callee) :
    (∃ b, callee = .builtin b) ∨ ∃ space id, r.Leads space key id ∧ callee = r.declared id := by
  have hfound : ∀ space, (Entries.find? key (r.table space)).map r.declared = some callee →
      ∃ space id, r.Leads space key id ∧ callee = r.declared id := by
    intro space hspace
    obtain ⟨id, hid, rfl⟩ := Option.map_eq_some_iff.mp hspace
    exact ⟨space, id, hid, rfl⟩
  unfold lookup? at h
  dsimp only at h
  split at h
  · split at h
    · cases h
      exact .inl ⟨_, rfl⟩
    · right
      simp only [Option.orElse_eq_orElse, Option.orElse_eq_or, Option.or_eq_some_iff] at h
      rcases h with h | ⟨-, h | ⟨-, h⟩⟩
      · exact hfound .global h
      · exact hfound .numbered h
      · exact hfound (.ofScript script.id) h
  · exact .inr (hfound .global h)
  · exact .inr (hfound (.ofScript script.id) h)
  · cases h

/-- In a sound registry what a name stands for is not deleted, and bears the name. -/
theorem Sound.lookup? (hr : r.Sound) (h : r.lookup? scope key script = some callee) :
    (∃ b, callee = .builtin b) ∨ ∃ id d, r.declaration? id = some d ∧ d.isDeleted = false ∧
      FunctionName.ofData d.name = .ok key ∧ callee = .declared id d.name.asText := by
  refine (lookup?_cases h).imp_right ?_
  rintro ⟨space, id, hid, rfl⟩
  obtain ⟨d, hd, hkept, hkey⟩ := hr.found hid
  exact ⟨id, d, hd, hkept, hkey, declared_eq hd⟩

/-- A function there is, and that is not deleted. -/
inductive Live (r : Registry) : Callee → Prop where
  | builtin (b : Builtin) : Live r (.builtin b)
  | declared {id : Nat} {d : Declaration} : r.declaration? id = some d → d.isDeleted = false →
      Live r (.declared id d.name.asText)

theorem Sound.live (hr : r.Sound) (h : r.lookup? scope key script = some callee) :
    r.Live callee := by
  rcases hr.lookup? h with ⟨b, rfl⟩ | ⟨id, d, hd, hkept, -, rfl⟩
  · exact .builtin b
  · exact .declared hd hkept

/-- A deleted declaration is found under no name. -/
theorem Sound.not_leads (hr : r.Sound) (hd : r.declaration? id = some d)
    (hdeleted : d.isDeleted = true) (space : FunctionSpace) (key : FunctionName) :
    ¬ r.Leads space key id := by
  intro hid
  obtain ⟨d', hd', hkept, -⟩ := hr.found hid
  obtain rfl := Option.some.inj (hd.symm.trans hd')
  rw [hdeleted] at hkept
  cases hkept

/-- A number that has named a function never names another one. -/
theorem Evolves.number_once {r' : Registry} (h : r.Evolves r') (hr : r.Sound) {id' : Nat}
    (hid : r.Leads .numbered key id) (hid' : r'.Leads .numbered key id') : id' = id := by
  rcases h.keeps.number hid' with hbefore | ⟨n, hn, hkey⟩
  · exact Option.some.inj (hbefore.symm.trans hid)
  · obtain ⟨m, hm, hkey'⟩ := hr.counted hid
    have htext : toString (n + 1) = toString (m + 1) :=
      FunctionName.text.inj (hkey.symm.trans hkey')
    have hnumber : n + 1 = m + 1 := Number.toString_nat_injective htext
    omega

end Registry

/-! ## Funcrefs and their declarations -/

/-- A Funcref is for the declaration with a number. One that follows a name follows the
declaration's own. -/
structure Funcref.MadeFor (f : Funcref) (r : Registry) (id : Nat) (d : Declaration) : Prop where
  declaration : r.declaration? id = some d
  callee : f.callee = .declared id d.name.asText
  named : f.kind = .function → FunctionName.ofData d.name = .ok (.text d.name.asText)

/-- The script in which the name of a declaration is looked up again. -/
def Declaration.home (d : Declaration) (script : Script) : Script :=
  if d.scope = some .script then d.script else script

/-- A Funcref's call: the captured arguments come before those of the call. -/
def Funcref.call (f : Funcref) (callee : Callee) (args : List Ref) (range : Option (Int × Int))
    (c : Context) (s : State) : Call where
  callee := callee
  args := s.heap.items f.arguments ++ args
  self := f.self
  range := range
  context := c

/-- What calling a Funcref that was made for a declaration comes to. -/
structure Funcref.Dispatched (f : Funcref) (id : Nat) (d : Declaration) (setup : Setup)
    (s : State) : Prop where
  /-- E933 is the answer to a deleted declaration and to nothing else. -/
  deleted_iff (script : Script) :
    (∃ cause, s.registry.resolve f script = .error cause ∧ cause.code = some "E933") ↔
      d.isDeleted = true
  deleted (M : Machine) (args : List Ref) (range : Option (Int × Int)) (c : Context) :
    d.isDeleted = true →
    callFuncref M f args range c setup s = (.error (.ofCause (.functionDeleted d.name.asText)), s)
  itself (M : Machine) (args : List Ref) (range : Option (Int × Int)) (c : Context) :
    d.isDeleted = false → f.kind ≠ .function →
    callFuncref M f args range c setup s =
      M.invoke (f.call (.declared id d.name.asText) args range c s) setup s
  /-- What the name stands for at the time of the call is run, and is not deleted. -/
  named (M : Machine) (args : List Ref) (range : Option (Int × Int)) (c : Context)
    (callee : Callee) : d.isDeleted = false → f.kind = .function →
    s.registry.lookup? d.scope (.text d.name.asText) (d.home c.script) = some callee →
    callFuncref M f args range c setup s = M.invoke (f.call callee args range c s) setup s ∧
      s.registry.Live callee
  unknown (M : Machine) (args : List Ref) (range : Option (Int × Int)) (c : Context) :
    d.isDeleted = false → f.kind = .function →
    s.registry.lookup? d.scope (.text d.name.asText) (d.home c.script) = none →
    callFuncref M f args range c setup s = (.error (.ofCause (.unknownFunction d.displayName)), s)
  /-- To run a declaration is to call it with its own signature and body. -/
  runs (fuel : Nat) (call : Call) (id' : Nat) (d' : Declaration) :
    s.registry.declaration? id' = some d' → call.callee = .declared id' d'.name.asText →
    (Machine.ofFuel (fuel + 1)).invoke call setup s = (do
      orFail (checkArity d'.displayName d'.arity call.args.length)
      callDeclared (.ofFuel fuel) d' call : Run Ref) setup s

theorem callFuncref_of_error {M : Machine} {f : Funcref} {args : List Ref}
    {range : Option (Int × Int)} {c : Context} {setup : Setup} {s : State} {cause : Cause}
    (h : s.registry.resolve f c.script = .error cause) :
    callFuncref M f args range c setup s = (.error (.ofCause cause), s) := by
  rw [callFuncref, bind_of_ok (a := s.registry) (t := s) rfl, h]
  rfl

theorem callFuncref_of_ok {M : Machine} {f : Funcref} {args : List Ref}
    {range : Option (Int × Int)} {c : Context} {setup : Setup} {s : State} {callee : Callee}
    (h : s.registry.resolve f c.script = .ok callee) :
    callFuncref M f args range c setup s =
      M.invoke (f.call callee args range c s) setup s := by
  rw [callFuncref, bind_of_ok (a := s.registry) (t := s) rfl, h]
  rfl

namespace Funcref.MadeFor

variable {f : Funcref} {r : Registry} {id : Nat} {d : Declaration} (h : f.MadeFor r id d)
include h

theorem resolve_of_deleted (hd : d.isDeleted = true) (script : Script) :
    r.resolve f script = .error (.functionDeleted d.name.asText) := by
  rw [Registry.resolve, h.callee, Registry.isDeleted, h.declaration, Option.any_some, hd]
  rfl

theorem resolve_of_itself (hd : d.isDeleted = false) (hkind : f.kind ≠ .function)
    (script : Script) : r.resolve f script = .ok (.declared id d.name.asText) := by
  rw [Registry.resolve, h.callee, Registry.isDeleted, h.declaration, Option.any_some, hd]
  cases hf : f.kind with
  | lambda => rfl
  | funcref => rfl
  | function => exact absurd hf hkind

theorem resolve_of_named (hd : d.isDeleted = false) (hkind : f.kind = .function)
    (script : Script) : r.resolve f script =
      match r.lookup? d.scope (.text d.name.asText) (d.home script) with
      | some callee => .ok callee
      | none => .error (.unknownFunction d.displayName) := by
  rw [Registry.resolve, h.callee, Registry.isDeleted, h.declaration, Option.any_some, hd, hkind]
  simp only [Registry.home, Registry.displayName, h.declaration, Callee.name, Option.map_some,
    Option.getD_some, Bool.false_eq_true, if_false]
  rfl

/-- The declaration stays the Funcref's own while the functions change. -/
theorem evolves {r' : Registry} (hr : r.Evolves r') :
    ∃ isDeleted, f.MadeFor r' id { d with isDeleted } := by
  obtain ⟨isDeleted, hd, -⟩ := hr.keeps.declaration h.declaration
  exact ⟨isDeleted, hd, h.callee, h.named⟩

end Funcref.MadeFor

/-- Calling a declared function checks the number of its arguments and runs its declaration. -/
theorem callFunction_declared {M : Machine} {call : Call} {setup : Setup} {s : State} {id : Nat}
    {d : Declaration} (hcallee : call.callee = .declared id d.name.asText)
    (hd : s.registry.declaration? id = some d) :
    callFunction M call setup s = (do
      orFail (checkArity d.displayName d.arity call.args.length)
      callDeclared M d call : Run Ref) setup s := by
  rw [callFunction, bind_of_ok (a := s.registry) (t := s) rfl, hcallee]
  simp only [Registry.displayName, Registry.arity, hd, Option.map_some, Option.getD_some]

theorem Funcref.MadeFor.dispatched {f : Funcref} {id : Nat} {d : Declaration} {s : State}
    (h : f.MadeFor s.registry id d) (hr : s.registry.Sound) (setup : Setup) :
    f.Dispatched id d setup s := by
  constructor
  case deleted_iff =>
    intro script
    constructor
    · rintro ⟨cause, hcause, hcode⟩
      refine Bool.of_not_eq_false fun hkept => ?_
      by_cases hkind : f.kind = .function
      · rw [h.resolve_of_named hkept hkind] at hcause
        split at hcause
        · cases hcause
        · cases hcause
          exact absurd hcode (by simp [Cause.code, Cause.describe])
      · rw [h.resolve_of_itself hkept hkind] at hcause
        cases hcause
    · exact fun hd => ⟨_, h.resolve_of_deleted hd script, rfl⟩
  case deleted =>
    intro M args range c hd
    exact callFuncref_of_error (h.resolve_of_deleted hd c.script)
  case itself =>
    intro M args range c hd hkind
    exact callFuncref_of_ok (h.resolve_of_itself hd hkind c.script)
  case named =>
    intro M args range c callee hd hkind hcallee
    have hresolve := h.resolve_of_named hd hkind c.script
    rw [hcallee] at hresolve
    exact ⟨callFuncref_of_ok hresolve, hr.live hcallee⟩
  case unknown =>
    intro M args range c hd hkind hnone
    have hresolve := h.resolve_of_named hd hkind c.script
    rw [hnone] at hresolve
    exact callFuncref_of_error hresolve
  case runs =>
    intro fuel call id' d' hd' hcallee
    exact callFunction_declared hcallee hd'

/-! ## How Funcrefs are made -/

/-- What the text of an object stands for as the name of a function. -/
def State.FunctionNamed (s : State) (name : Ref) (c : Context) (callee : Callee) : Prop :=
  ∃ text, (s.heap.value name).toText = .ok text ∧
    s.registry.lookup? (splitScope text).1 (.text (splitScope text).2) c.script = some callee

/-- What a Funcref made from a name or from another Funcref is for. -/
inductive Funcref.Origin (s : State) (kind : FuncrefKind) (name : Ref) (c : Context)
    (f : Funcref) : Prop where
  | builtin {b : Builtin} : s.FunctionNamed name c (.builtin b) → f.callee = .builtin b →
      f.kind = kind → Origin s kind name c f
  | declared {id : Nat} {d : Declaration} :
      s.FunctionNamed name c (.declared id d.name.asText) → f.MadeFor s.registry id d →
      d.isDeleted = false → f.kind = kind → Origin s kind name c f
  /-- It has what the other one was made for, and its kind. -/
  | copied {g : Funcref} : s.heap.value name = .funcref g → f.callee = g.callee →
      f.kind = g.kind → Origin s kind name c f

theorem Funcref.MadeFor.copied {f g : Funcref} {r : Registry} {id : Nat} {d : Declaration}
    (hg : g.MadeFor r id d) (hcallee : f.callee = g.callee) (hkind : f.kind = g.kind) :
    f.MadeFor r id d :=
  ⟨hg.declaration, hcallee.trans hg.callee, fun h => hg.named (hkind.symm.trans h)⟩

/-- What was found under a name makes a Funcref for a declaration of that name. -/
theorem Registry.Sound.madeFor {r : Registry} (hr : r.Sound) {scope : Option Scope} {bare : String}
    {script : Script} {callee : Callee} (h : r.lookup? scope (.text bare) script = some callee) :
    (∃ b, callee = .builtin b) ∨ ∃ id d, d.isDeleted = false ∧
      ∀ f : Funcref, f.callee = callee → f.MadeFor r id d := by
  refine (hr.lookup? h).imp_right ?_
  rintro ⟨id, d, hd, hkept, hkey, rfl⟩
  refine ⟨id, d, hkept, fun f hf => ⟨hd, hf, fun _ => ?_⟩⟩
  rw [FunctionName.ofData_eq_text hkey]
  rfl

namespace Run

/-- A part that only reads passes what it found on to the rest. -/
theorem bind_reads_eq_ok {α β : Type} {op : Op α} (hop : op.Reads) {f : α → Run β} {setup : Setup}
    {s t : State} {b : β} (h : (liftM op >>= f) setup s = (.ok b, t)) :
    ∃ a, op s.heap = (.ok a, s.heap) ∧ f a setup s = (.ok b, t) := by
  rcases hout : op s.heap with ⟨stop | a, heap⟩
  · rw [bind_of_error (op_of_error hout)] at h
    cases h
  · obtain rfl := hop.eq hout
    rw [bind_of_ok (op_of_ok hout)] at h
    exact ⟨a, rfl, h⟩

end Run

/-- A Funcref from a name is for what the name stands for, and one from a Funcref for the same
function. -/
theorem Library.makeFuncref_origin {kind : FuncrefKind} {name : Ref} {arguments self : Option Ref}
    {c : Context} {setup : Setup} {s t : State} {f : Funcref} (hr : s.registry.Sound)
    (h : Library.makeFuncref kind name arguments self c setup s = (.ok f, t)) :
    f.Origin s kind name c ∧ t.registry = s.registry := by
  unfold Library.makeFuncref at h
  obtain ⟨⟨arguments, self⟩, -, h⟩ := bind_reads_eq_ok (funcrefOptions_reads _ _) h
  obtain ⟨items, -, h⟩ := bind_reads_eq_ok (listArgument_reads _) h
  obtain ⟨-, -, h⟩ := bind_reads_eq_ok (dictArgument_reads _) h
  obtain ⟨v, hv, h⟩ := bind_reads_eq_ok (Op.value_reads _) h
  have hvalue : s.heap.value name = v := by
    cases hv
    rfl
  dsimp only at h
  split at h
  · split at h
    -- the last step sets at most the Dictionary
    · cases self <;> cases h <;> exact ⟨.copied hvalue rfl rfl, rfl⟩
    · cases self <;> cases h <;> exact ⟨.copied hvalue rfl rfl, rfl⟩
  · obtain ⟨text, u, htext, h⟩ := bind_eq_ok h
    have hsame : u = s := congrArg Prod.snd htext.symm
    rw [hsame, bind_of_ok (a := s.registry) (t := s) rfl] at h
    cases hfound : s.registry.lookup? (splitScope text).1 (.text (splitScope text).2) c.script with
    | none =>
      rw [hfound] at h
      cases h
    | some callee =>
      rw [hfound] at h
      obtain ⟨hcallee, hkind, hregistry⟩ :
          f.callee = callee ∧ f.kind = kind ∧ t.registry = s.registry := by
        cases self <;> cases h <;> exact ⟨rfl, rfl, rfl⟩
      refine ⟨?_, hregistry⟩
      have hnamed : s.FunctionNamed name c callee := by
        refine ⟨text, ?_, hfound⟩
        rw [hvalue]
        exact congrArg Prod.fst htext
      rcases hr.madeFor hfound with ⟨b, rfl⟩ | ⟨id, d, hkept, hmade⟩
      · exact .builtin hnamed hcallee hkind
      · have hf := hmade f hcallee
        rw [← hcallee, hf.callee] at hnamed
        exact .declared hnamed hf hkept hkind

/-- A Funcref for a declaration that has just been added. -/
theorem Funcref.MadeFor.added {f : Funcref} {r r' : Registry}
    {place : Option (FunctionSpace × FunctionName)} {d : Declaration} {name : String}
    (hr : r.Adds place d r') (hname : d.name = .text name)
    (hf : f.callee = .declared r.declarations.size name) :
    f.MadeFor r' r.declarations.size d := by
  refine ⟨?_, ?_, fun _ => ?_⟩
  · rw [hr.declaration?, if_pos rfl]
  · rw [hf, hname]
    rfl
  · rw [hname]
    rfl

/-- A lambda is always made, and for a declaration of its own. -/
theorem Run.makeLambda_madeFor (params : List Name) (body : Expr) (c : Context) (setup : Setup)
    (s : State) : ∃ f t, makeLambda params body c setup s = (.ok f, t) ∧
      (Registry.Operation.declareLambda params body c).Does s.registry t.registry ∧
      f.MadeFor t.registry s.registry.declarations.size
        (s.registry.lambdaDeclaration params body c) ∧ f.kind = .lambda := by
  have hdoes := s.registry.perform_does (.declareLambda params body c) _ rfl
  exact ⟨_, _, rfl, hdoes, .added hdoes rfl rfl, rfl⟩

/-- An object that is made for an entry of a Dictionary is found there. -/
theorem Heap.insert_alloc {h : Heap} {dict : Ref} {table : Table}
    (hdict : h.value dict = .dict table) (key : String) (v : Value) :
    (((h.alloc v).2.modifyTable dict (·.insert key (h.alloc v).1)).table dict).get? key =
        some (h.alloc v).1 ∧
      ((h.alloc v).2.modifyTable dict (·.insert key (h.alloc v).1)).value (h.alloc v).1 = v := by
  have hin := index_lt_of_dict hdict
  have hne : (h.alloc v).1 ≠ dict := by
    rintro rfl
    exact Nat.lt_irrefl _ hin
  constructor
  · rw [table_modifyTable, if_pos ⟨rfl, size_alloc h v ▸ Nat.lt_succ_of_lt hin⟩, Table.get?,
      Table.insert, Entries.find?_put, if_pos rfl]
  · rw [modifyTable, value, cell_setValue_of_ne _ _ hne, cell_alloc, if_pos rfl]

/-- The entry that a declaration adds to a Dictionary is a Funcref for it. -/
theorem declareEntry_madeFor {dict : Ref} {key : String} {signature : Signature} {bang : Bool}
    {body : List Stmt} {c : Context} {setup : Setup} {s t : State}
    (h : declareEntry dict key signature bang body c setup s = (.ok (), t)) :
    ∃ entry f, (t.heap.table dict).get? key = some entry ∧ t.heap.value entry = .funcref f ∧
      f.MadeFor t.registry s.registry.declarations.size
        (s.registry.numberedDeclaration signature body c) ∧
      f.kind = .funcref ∧ f.self = some dict := by
  rcases declareEntry_cases dict key signature bang body c setup s with
    ⟨stop, hout⟩ | ⟨⟨table, hdict⟩, hout⟩
  · cases hout.symm.trans h
  · have hkept : (s.heap.alloc (.list [])).2.value dict = .dict table :=
      (s.heap.value_alloc_of_lt _ (Heap.index_lt_of_dict hdict)).trans hdict
    obtain ⟨hentry, hvalue⟩ := Heap.insert_alloc hkept key (.funcref
      { callee := (s.registry.declareNumbered signature body c).1,
        arguments := (s.heap.alloc (.list [])).1, self := some dict })
    obtain ⟨hadds, -⟩ := s.registry.perform_does (.declareNumbered signature body c) _ rfl
    cases hout.symm.trans h
    exact ⟨_, _, hentry, hvalue, .added hadds rfl rfl, rfl, rfl⟩

/-! ## Every state of every history -/

/-- What is true of the functions of a state that a history has led to, and of all that may
happen to them next. -/
structure FunctionsHold (setup : Setup) (start : State) (events : List FunctionEvent)
    (s : State) : Prop where
  /-- A name in any of the tables leads to a declaration of that name which is not deleted. -/
  found {space : FunctionSpace} {key : FunctionName} {id : Nat} : s.registry.Leads space key id →
    ∃ d, s.registry.declaration? id = some d ∧ d.isDeleted = false ∧
      FunctionName.ofData d.name = .ok key
  /-- The declarations marked as deleted are those that the history has deleted. -/
  deleted_iff {id : Nat} {d : Declaration} : s.registry.declaration? id = some d →
    (d.isDeleted = true ↔ State.DeletedIn setup id events start)
  /-- A deleted declaration stays as it is, and no name leads to it again. -/
  gone {id : Nat} {d : Declaration} : s.registry.declaration? id = some d → d.isDeleted = true →
    ∀ later, (State.after setup later s).registry.declaration? id = some d ∧
      ∀ space key, ¬ (State.after setup later s).registry.Leads space key id
  /-- A number names one function only. -/
  once {key : FunctionName} {id id' : Nat} : s.registry.Leads .numbered key id → ∀ later,
    (State.after setup later s).registry.Leads .numbered key id' → id' = id
  failed (e : FunctionEdit) {stop : Stop} {t : State} : e.perform setup s = (.error stop, t) → t = s
  succeeded (e : FunctionEdit) {t : State} : e.perform setup s = (.ok (), t) →
    e.operation.Does s.registry t.registry ∧
      t = { s with registry := t.registry, heap := t.heap }
  /-- To delete what a name stands for never fails. -/
  deletes {scope : Option Scope} {name : Name} {script : Script} {space : FunctionSpace}
    {key : FunctionName} {id : Nat} : s.registry.Names scope name script space key id →
    ∀ bang, ∃ t, (FunctionEdit.delete scope name bang script).perform setup s = (.ok (), t)
  /-- Statements, too, change the functions by these operations only. -/
  evolves (e : FunctionEvent) : s.registry.Evolves (e.step setup s).registry
  declaring (fuel : Nat) (c : Context) (mark : Option Mark) (scope : Option Scope) (name : Name)
    (signature : Signature) (bang : Bool) (body : List Stmt) :
    ((FunctionEvent.statement fuel c (.function mark scope name signature bang body)).step
      setup s).registry = s.registry.apply (.declare scope name signature bang body c)
  deleting (fuel : Nat) (c : Context) (mark : Option Mark) (scope : Option Scope) (name : Name)
    (bang : Bool) :
    ((FunctionEvent.statement fuel c (.delFunction mark scope name bang)).step setup s).registry =
      s.registry.apply (.delete scope name bang c.script)
  made {kind : FuncrefKind} {name : Ref} {arguments self : Option Ref} {c : Context} {f : Funcref}
    {t : State} : Library.makeFuncref kind name arguments self c setup s = (.ok f, t) →
    f.Origin s kind name c ∧ t.registry = s.registry
  lambda (params : List Name) (body : Expr) (c : Context) :
    ∃ f t, makeLambda params body c setup s = (.ok f, t) ∧
      (Registry.Operation.declareLambda params body c).Does s.registry t.registry ∧
      f.MadeFor t.registry s.registry.declarations.size
        (s.registry.lambdaDeclaration params body c) ∧ f.kind = .lambda
  entry {dict : Ref} {key : String} {signature : Signature} {bang : Bool} {body : List Stmt}
    {c : Context} {t : State} :
    declareEntry dict key signature bang body c setup s = (.ok (), t) →
    ∃ entry f, (t.heap.table dict).get? key = some entry ∧ t.heap.value entry = .funcref f ∧
      f.MadeFor t.registry s.registry.declarations.size
        (s.registry.numberedDeclaration signature body c) ∧
      f.kind = .funcref ∧ f.self = some dict
  /-- A Funcref made for a declaration is dispatched by what has become of it. -/
  dispatched {f : Funcref} {id : Nat} {d : Declaration} : f.MadeFor s.registry id d → ∀ later,
    ∃ isDeleted, (isDeleted = true ↔ State.DeletedIn setup id (events ++ later) start) ∧
      (State.after setup later s).registry.declaration? id = some { d with isDeleted } ∧
      f.Dispatched id { d with isDeleted } setup (State.after setup later s)
  /-- The answer is E933 exactly when the declaration has been deleted by then. -/
  refused_iff {f : Funcref} {id : Nat} {d : Declaration} : f.MadeFor s.registry id d →
    ∀ later script, (∃ cause, (State.after setup later s).registry.resolve f script =
        .error cause ∧ cause.code = some "E933") ↔
      State.DeletedIn setup id (events ++ later) start

/-- Where nothing was declared at first, a mark tells that the history has deleted. -/
theorem State.after_deleted_iff {setup : Setup} {start : State} (hstart : start.registry = {})
    (events : List FunctionEvent) {id : Nat} {d : Declaration}
    (hd : (State.after setup events start).registry.declaration? id = some d) :
    d.isDeleted = true ↔ State.DeletedIn setup id events start := by
  have hsound : start.registry.Sound := hstart ▸ .empty
  rw [← Registry.flagged_iff hd, State.after_flagged hsound, hstart]
  exact or_iff_right Registry.not_flagged_empty

/-- What calling a Funcref comes to after any history, behind and before the moment it is looked
at. -/
theorem Funcref.MadeFor.dispatched_after {setup : Setup} {start : State}
    (hstart : start.registry = {}) {events : List FunctionEvent} {f : Funcref} {id : Nat}
    {d : Declaration} (hf : f.MadeFor (State.after setup events start).registry id d)
    (later : List FunctionEvent) : ∃ isDeleted,
      (isDeleted = true ↔ State.DeletedIn setup id (events ++ later) start) ∧
      (State.after setup later (State.after setup events start)).registry.declaration? id =
        some { d with isDeleted } ∧
      f.Dispatched id { d with isDeleted } setup
        (State.after setup later (State.after setup events start)) := by
  rw [← State.after_append]
  have hevolves := State.after_evolves setup later (State.after setup events start)
  rw [← State.after_append] at hevolves
  obtain ⟨isDeleted, hmade⟩ := hf.evolves hevolves
  have hr : (State.after setup (events ++ later) start).registry.Sound :=
    (State.after_evolves setup (events ++ later) start).sound (hstart ▸ .empty)
  exact ⟨isDeleted, State.after_deleted_iff hstart (events ++ later) hmade.declaration,
    hmade.declaration, hmade.dispatched hr setup⟩

theorem State.after_functionsHold {setup : Setup} {start : State} (hstart : start.registry = {})
    (events : List FunctionEvent) :
    FunctionsHold setup start events (State.after setup events start) := by
  have hr : (State.after setup events start).registry.Sound :=
    (State.after_evolves setup events start).sound (hstart ▸ .empty)
  constructor
  case found => exact hr.found
  case deleted_iff => exact State.after_deleted_iff hstart events
  case gone =>
    intro id d hd hdeleted later
    have hevolves := State.after_evolves setup later (State.after setup events start)
    obtain ⟨isDeleted, hd', hstays⟩ := hevolves.keeps.declaration hd
    have hsame : { d with isDeleted } = d := by
      rw [hstays hdeleted, ← hdeleted]
    rw [hsame] at hd'
    exact ⟨hd', (hevolves.sound hr).not_leads hd' hdeleted⟩
  case once =>
    intro key id id' hid later hid'
    exact (State.after_evolves setup later _).number_once hr hid hid'
  case failed => exact fun e _ _ h => e.perform_atomic setup _ _ _ h
  case succeeded => exact fun e _ h => e.perform_does h
  case deletes => exact fun hid bang => FunctionEdit.delete_succeeds hid bang setup
  case evolves => exact fun e => e.step_evolves setup _
  case declaring =>
    intro fuel c mark scope name signature bang body
    exact FunctionEvent.step_function fuel c mark scope name signature bang body setup _
  case deleting =>
    intro fuel c mark scope name bang
    exact FunctionEvent.step_delFunction fuel c mark scope name bang setup _
  case made => exact fun h => Library.makeFuncref_origin hr h
  case lambda => exact fun params body c => makeLambda_madeFor params body c setup _
  case entry => exact declareEntry_madeFor
  case dispatched => exact fun hf later => hf.dispatched_after hstart later
  case refused_iff =>
    intro f id d hf later script
    obtain ⟨isDeleted, hdeleted, -, hdispatch⟩ := hf.dispatched_after hstart later
    exact (hdispatch.deleted_iff script).trans hdeleted

/-- Whatever has happened since there were no functions, and whatever happens next: names lead to
functions that are not deleted, deleted ones never come back, and a Funcref refuses exactly when
its function has been deleted, and else runs it or what the function's name stands for. -/
theorem functionsHold_after (setup : Setup) (events : List FunctionEvent) (s : State) :
    FunctionsHold setup { s with registry := {} } events
      (State.after setup events { s with registry := {} }) :=
  State.after_functionsHold rfl events

/-- A function that only its script can name. -/
def scriptLocal : Declaration :=
  .make (.text "F") (some .script) { params := [] } [] { script := default }

/-- The function is declared, replaced, and deleted by its name. -/
def replacedThenDeleted : List FunctionEvent :=
  [.edit (.declare (some .script) (.text "F") { params := [] } false [] { script := default }),
   .edit (.declare (some .script) (.text "F") { params := [] } true [] { script := default }),
   .edit (.delete (some .script) (.text "F") false default)]

/-- The first declaration has lost its name to the second, but only the second is deleted: a Funcref
for the first one runs it, and one for the second refuses. -/
theorem replaced_not_deleted :
    let setup : Setup :=
      { spaces := default, maxDepth := 100, parser := none, matcher := fun _ _ => .ok true,
        isTracing := false }
    ¬ State.DeletedIn setup 0 replacedThenDeleted {} ∧
      State.DeletedIn setup 1 replacedThenDeleted {} := by
  intro setup
  have h := functionsHold_after setup replacedThenDeleted {}
  let f (id : Nat) : Funcref :=
    { callee := .declared id "F", arguments := ⟨0⟩, kind := .funcref }
  have hfirst : (f 0).MadeFor (State.after setup replacedThenDeleted {}).registry 0 scriptLocal :=
    ⟨rfl, rfl, fun hkind => absurd hkind (by decide)⟩
  have hsecond : (f 1).MadeFor (State.after setup replacedThenDeleted {}).registry 1
      { scriptLocal with isDeleted := true } :=
    ⟨rfl, rfl, fun hkind => absurd hkind (by decide)⟩
  constructor
  · intro hdeleted
    obtain ⟨cause, hcause, -⟩ := (h.refused_iff hfirst [] default).mpr hdeleted
    cases hcause
  · exact (h.refused_iff hsecond [] default).mp ⟨_, rfl, rfl⟩

end Vimscript
