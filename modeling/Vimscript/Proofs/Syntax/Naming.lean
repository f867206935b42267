import Vimscript.Proofs.Syntax.CallFree
import Vimscript.Syntax.Reader

/-!
# Names in the expressions that are read

Parts of a name may be data that cannot be evaluated, but not where the name
was read from a tree: what is no plain text is read as an expression, and a
tree in which it is none is refused. So all the names in an expression that
was read are `WellNamed`.

`Gives` says of reading that whatever it gives satisfies a predicate. The
proof goes through the tags in the order in which they are tried.
-/

namespace Vimscript

/-- Every part of a name is plain text or an expression. -/
def Expr.WellNamed (e : Expr) : Prop :=
  ∀ mark scope parts, e = .var mark scope parts → ∀ d, .misplaced d ∉ parts

namespace Reader

/-- What is read satisfies a predicate. -/
def Gives {α : Type} (P : α → Prop) (r : Read α) : Prop := ∀ a, r = .ok a → P a

namespace Gives

variable {α β : Type} {P : α → Prop} {Q : β → Prop}

theorem pure {a : α} (ha : P a) : Gives P (Pure.pure a) := by
  rintro _ ⟨⟩
  exact ha

theorem bind {r : Read α} {f : α → Read β} (hr : Gives P r) (hf : ∀ a, P a → Gives Q (f a)) :
    Gives Q (r >>= f) := by
  cases r with
  | error _ => exact nofun
  | ok a => exact hf a (hr a rfl)

/-- Whatever is read first, the rest decides. -/
theorem after {r : Read α} {f : α → Read β} (hf : ∀ a, Gives Q (f a)) : Gives Q (r >>= f) :=
  bind (P := fun _ => True) (fun _ _ => trivial) fun a _ => hf a

theorem map {r : Read α} {f : α → β} (hr : Gives P r) (hf : ∀ a, P a → Q (f a)) :
    Gives Q (f <$> r) := by
  cases r with
  | error _ => exact nofun
  | ok a => exact pure (hf a (hr a rfl))

theorem mapM {f : α → Read β} (hf : ∀ a, Gives Q (f a)) :
    ∀ items : List α, Gives (fun bs => ∀ b ∈ bs, Q b) (items.mapM f)
  | [] => by
      rw [List.mapM_nil]
      exact pure nofun
  | a :: rest => by
      rw [List.mapM_cons]
      refine (hf a).bind fun b hb => (mapM hf rest).bind fun bs hbs => pure ?_
      exact List.forall_mem_cons.mpr ⟨hb, hbs⟩

theorem optionMapM {f : α → Read β} (hf : ∀ a, Gives Q (f a)) :
    ∀ field : Option α, Gives (fun b => ∀ x ∈ b.toList, Q x) (field.mapM f)
  | none => pure nofun
  | some a => (hf a).bind fun _ hb => pure (List.forall_mem_cons.mpr ⟨hb, nofun⟩)

end Gives

/-- A part of a name as it is read. -/
def PartNamed (part : NamePart) : Prop :=
  (∀ d, part ≠ .misplaced d) ∧ ∀ e, part = .computed e → e.Throughout Expr.WellNamed

theorem wellNamed_var {mark : Option Mark} {scope : Option Scope} {parts : List NamePart}
    (hparts : ∀ part ∈ parts, PartNamed part) :
    (Expr.var mark scope parts).Throughout Expr.WellNamed := by
  constructor
  · rintro _ _ _ ⟨⟩ d hd
    exact (hparts _ hd).1 d rfl
  · intro x hx
    obtain ⟨part, hpart, hexpr⟩ := List.mem_filterMap.mp hx
    cases part with
    | computed e =>
        obtain rfl := Option.some.inj hexpr
        exact (hparts _ hpart).2 _ rfl
    | plain _ | misplaced _ => cases hexpr

theorem wellNamed_dict {mark : Option Mark} {entries : List (Expr × Expr)}
    (hentries : ∀ entry ∈ entries,
      entry.1.Throughout Expr.WellNamed ∧ entry.2.Throughout Expr.WellNamed) :
    (Expr.dict mark entries).Throughout Expr.WellNamed := by
  refine ⟨nofun, fun x hx => ?_⟩
  obtain ⟨entry, hentry, hx⟩ := List.mem_flatMap.mp hx
  rcases List.mem_cons.mp hx with rfl | hx
  · exact (hentries entry hentry).1
  · obtain rfl := List.mem_singleton.mp hx
    exact (hentries entry hentry).2

/-- The names in an expression that was read are in order. -/
theorem expr_wellNamed :
    ∀ (fuel : Nat) (d : Data), Gives (Expr.Throughout Expr.WellNamed) (expr fuel d)
  | 0, d => by
      rw [expr]
      exact nofun
  | fuel + 1, .map fields => by
      have ih := expr_wellNamed fuel
      have sub (name : String) : Gives (Expr.Throughout Expr.WellNamed)
          (subtree fields name >>= expr fuel) := .after ih
      have args (name : String) : Gives (fun es => ∀ e ∈ es, e.Throughout Expr.WellNamed)
          (items fields name >>= fun ds => ds.mapM (expr fuel)) := .after (.mapM ih)
      rw [expr]
      dsimp only
      split
      · -- int
        refine .after fun value => ?_
        unfold intLiteral
        split
        · exact .pure (.leaf nofun rfl)
        · exact .pure (.leaf nofun rfl)
        · exact .after fun n => .pure (.leaf nofun rfl)
      · -- float
        exact .after fun _ => .after fun _ => .pure (.leaf nofun rfl)
      · -- string
        exact .after fun _ => .pure (.leaf nofun rfl)
      · -- list
        exact (args "items").bind fun es hes => .pure ⟨nofun, hes⟩
      · -- dict
        refine .after fun ds => .bind (.mapM (fun entry => ?_) ds) fun entries hentries =>
          .pure (wellNamed_dict hentries)
        exact .after fun kv => .after fun k => (ih k).bind fun key hkey => .after fun v =>
          (ih v).bind fun value hvalue => .pure ⟨hkey, hvalue⟩
      · -- variable
        refine .after fun name => .bind (.mapM (fun part => ?_) _) fun parts hparts =>
          .after fun scope => .pure (wellNamed_var hparts)
        split
        · exact .pure ⟨nofun, nofun⟩
        · refine (ih _).map fun e he => ⟨nofun, ?_⟩
          rintro _ ⟨⟩
          exact he
      · -- option
        exact .after fun _ => .pure (.leaf nofun rfl)
      · -- register
        exact .after fun _ => .pure (.leaf nofun rfl)
      · -- env
        exact .after fun _ => .pure (.leaf nofun rfl)
      · -- scope
        exact .after fun _ => .pure (.leaf nofun rfl)
      · -- binary
        refine .after fun op => ?_
        split
        · exact nofun
        · exact (sub "left").bind fun l hl => (sub "right").bind fun r hr =>
            .pure (.pair nofun rfl hl hr)
      · -- unary
        refine .after fun op => ?_
        split
        · exact nofun
        · exact (sub "operand").bind fun x hx => .pure (.single nofun rfl hx)
      · -- ternary
        refine (sub "condition").bind fun x hx => (sub "then").bind fun y hy =>
          (sub "else").bind fun z hz => .pure ⟨nofun, List.forall_mem_cons.mpr ⟨hx, ?_⟩⟩
        exact List.forall_mem_cons.mpr ⟨hy, List.forall_mem_cons.mpr ⟨hz, nofun⟩⟩
      · -- falsy
        exact (sub "left").bind fun l hl => (sub "right").bind fun r hr =>
          .pure (.pair nofun rfl hl hr)
      · -- index
        exact (sub "target").bind fun t ht => (sub "index").bind fun k hk =>
          .pure (.pair nofun rfl ht hk)
      · -- slice
        refine (sub "target").bind fun t ht => .bind (.optionMapM ih _) fun first hfirst =>
          .bind (.optionMapM ih _) fun last hlast => .pure ⟨nofun, ?_⟩
        refine List.forall_mem_cons.mpr ⟨ht, fun x hx => ?_⟩
        exact (List.mem_append.mp hx).elim (hfirst x) (hlast x)
      · -- call
        exact .after fun _ => .after fun _ => (args "args").bind fun es hes => .pure ⟨nofun, hes⟩
      · -- funcref_call
        exact (sub "target").bind fun t ht => (args "args").bind fun es hes =>
          .pure ⟨nofun, List.forall_mem_cons.mpr ⟨ht, hes⟩⟩
      · -- lambda
        exact .after fun _ => .after fun _ => .pure (.leaf nofun rfl)
      · -- lambda_call
        refine (sub "lambda").bind fun f hf => ?_
        split
        · exact (args "args").bind fun es hes =>
            .pure ⟨nofun, List.forall_mem_cons.mpr ⟨.leaf nofun rfl, hes⟩⟩
        · exact nofun
      · exact nofun
  | _ + 1, .null | _ + 1, .bool _ | _ + 1, .int _ | _ + 1, .float _ | _ + 1, .text _
  | _ + 1, .bytes _ | _ + 1, .list _ | _ + 1, .foreign => by
      rw [expr]
      all_goals nofun

theorem expression_wellNamed {d : Data} {e : Expr} (he : expression d = .ok e) :
    e.Throughout Expr.WellNamed := expr_wellNamed _ d e he

end Reader

end Vimscript
