import Vimscript.Library.Function
import Vimscript.Proofs.Eval.Try
import Vimscript.Proofs.Run.Sequence
import Vimscript.Proofs.Variables.Locking

/-!
# The turns of `map()` and `filter()`

`map()` and `filter()` take a turn for each item: they run code of the
script, a Funcref or a text that is an expression, and then do something
with the result. The code is anything a machine does. Of what it has done
only two things matter to the turn: how it has ended, and the state it has
left (`Callback.outcome`).

There are four loops, for Lists and for Dictionaries, and for two purposes.
They are one loop over turns (`apply_eq_iff`). A turn stops as its code does
or because the result is no condition (`Raises`); or it finds gone what it
wants to remove, and that is a fault of its own (`Loses`). There is no other
way (`turn_eq_error_iff`).
-/

namespace Vimscript

open Run

namespace Library

/-! ## Variables of the editor -/

/-- The state in which a variable of the editor has been bound. -/
def withVim (setup : Setup) (name : String) (value : Ref) (s : State) : State :=
  { s with heap := s.heap.modifyTable setup.spaces.vim (·.insert name value) }

/-- The state in which a variable of the editor has been removed. -/
def withoutVim (setup : Setup) (name : String) (s : State) : State :=
  { s with heap := s.heap.modifyTable setup.spaces.vim (·.erase name) }

section

variable (setup : Setup) {name : String} (s : State)

theorem vimBinding_withVim_of_ne {other : String} (hne : name ≠ other) (value : Ref) :
    vimBinding setup other (withVim setup name value s) = vimBinding setup other s := by
  rw [vimBinding, withVim, Heap.table_modifyTable]
  split
  · rw [Table.get?_insert, if_neg hne, vimBinding]
  · rfl

theorem vimBinding_withoutVim_of_ne {other : String} (hne : name ≠ other) :
    vimBinding setup other (withoutVim setup name s) = vimBinding setup other s := by
  rw [vimBinding, withoutVim, Heap.table_modifyTable]
  split
  · rw [Table.get?_erase, if_neg hne, vimBinding]
  · rfl

theorem vimBinding_withoutVim_self : vimBinding setup name (withoutVim setup name s) = none := by
  rw [vimBinding, withoutVim, Heap.table_modifyTable]
  split
  · rw [Table.get?_erase, if_pos rfl]
  · -- a namespace that is not there binds nothing
    rename_i hin
    refine Option.eq_none_iff_forall_ne_some.mpr fun value hvalue => hin ⟨rfl, ?_⟩
    exact Heap.index_lt_of_dict (Heap.value_of_get? hvalue)

theorem dropVim_of_bound {value : Ref} (hbound : vimBinding setup name s = some value) :
    dropVim name setup s = (.ok (), withoutVim setup name s) := by
  have hcontains : (s.heap.table setup.spaces.vim).contains name = true := by
    rw [Table.contains, ← vimBinding, hbound]
    rfl
  unfold dropVim
  rw [bind_of_ok (a := setup.spaces) (t := s) rfl, bind_of_ok (a := s) (t := s) rfl,
    if_pos hcontains]
  rfl

theorem dropVim_of_unbound (hunbound : vimBinding setup name s = none) :
    dropVim name setup s = (.error (.fault (.lostEntry name)), s) := by
  have hcontains : ¬(s.heap.table setup.spaces.vim).contains name = true := by
    rw [Table.contains, ← vimBinding, hunbound]
    decide
  unfold dropVim
  rw [bind_of_ok (a := setup.spaces) (t := s) rfl, bind_of_ok (a := s) (t := s) rfl,
    if_neg hcontains]
  rfl

end

/-! ## Callbacks -/

/-- What is run for every item: a function, or the expression read from a text. -/
inductive Callback where
  | funcref (f : Funcref)
  | text (e : Expr)

namespace Callback

/-- The code of the script that is run for a key and a value. -/
def code (M : Machine) (c : Context) (key value : Ref) : Callback → Run Ref
  | funcref f => callFuncref M f [key, value] none c
  | text e => M.evaluate e c

/-- What is done for a key and a value. -/
def act (M : Machine) (c : Context) : Callback → Ref → Ref → Run Ref
  | funcref f => fun key value => callFuncref M f [key, value] none c
  | text e => evalWithItem M e c

/-- The state in which the code is run: an expression finds the key and the value in variables of
the editor. -/
def enter (setup : Setup) (key value : Ref) (s : State) : Callback → State
  | funcref _ => s
  | text _ => withVim setup "val" value (withVim setup "key" key s)

/-- Removes the variables once the code has been run: the one that is missing, if one is, and the
state that is left. -/
def leave (setup : Setup) (t : State) : Callback → Option String × State
  | funcref _ => (none, t)
  | text _ =>
    match vimBinding setup "key" t, vimBinding setup "val" t with
    | none, _ => (some "key", t)
    | some _, none => (some "val", withoutVim setup "key" t)
    | some _, some _ => (none, withoutVim setup "val" (withoutVim setup "key" t))

end Callback

/-- What a value is as a callback: a Funcref is one, and the text of any other value is read by the
parser as an expression. -/
inductive IsCallback (setup : Setup) (h : Heap) (function : Ref) : Callback → Prop
  | funcref {f : Funcref} : h.value function = .funcref f → IsCallback setup h function (.funcref f)
  | text {parser : Parser} {text : String} {tree : Data} {e : Expr} :
      (h.value function).toText = .ok text → setup.parser = some parser →
      parser.expression text = .ok tree → Reader.expression tree = .ok e →
      IsCallback setup h function (.text e)

variable {M : Machine} {setup : Setup} {c : Context} {B : Callback} {s t : State}

theorem parseExpression_eq {parser : Parser} {text : String} {tree : Data} {e : Expr}
    (hparser : setup.parser = some parser) (htree : parser.expression text = .ok tree)
    (he : Reader.expression tree = .ok e) : parseExpression text setup s = (.ok e, s) := by
  unfold parseExpression
  rw [bind_of_ok (a := setup) (t := s) rfl, hparser]
  dsimp only
  rw [htree, bind_of_ok (a := tree) (t := s) rfl, he]
  rfl

theorem callback_eq {function : Ref} (hB : IsCallback setup s.heap function B) :
    callback M function c setup s = (.ok (B.act M c), s) := by
  unfold callback
  rw [bind_of_ok (op_of_ok (Op.value_eq function s.heap))]
  cases hB with
  | funcref hf =>
    rw [hf]
    rfl
  | @text parser text tree e htext hparser htree he =>
    have hread : ((liftM (s.heap.value function).toText : Run String) >>= fun text =>
        parseExpression text >>= fun e => pure (evalWithItem M e c)) setup s =
          (.ok (evalWithItem M e c), s) := by
      rw [htext, bind_of_ok (a := text) (t := s) rfl,
        bind_of_ok (parseExpression_eq hparser htree he)]
      rfl
    generalize s.heap.value function = v at htext hread
    cases v with
    | funcref f => cases htext
    | _ => exact hread

theorem evalWithItem_eq {e : Expr} {key value : Ref} {result : Except Stop Ref}
    (hcode : M.evaluate e c setup (withVim setup "val" value (withVim setup "key" key s)) =
      (result, t)) :
    evalWithItem M e c key value setup s =
      (dropVim "key" >>= fun _ => dropVim "val" >>= fun _ => ending result) setup t := by
  unfold evalWithItem
  rw [bind_of_ok (a := setup.spaces) (t := s) rfl,
    bind_of_ok (a := ()) (t := withVim setup "key" key s) rfl,
    bind_of_ok (a := ()) (t := withVim setup "val" value (withVim setup "key" key s)) rfl,
    bind_of_ok (attempt_eq hcode)]

/-- How the code has ended decides, unless a variable is missing. -/
theorem act_eq {key value : Ref} {result : Except Stop Ref}
    (hcode : B.code M c key value setup (B.enter setup key value s) = (result, t)) :
    B.act M c key value setup s =
      (match (B.leave setup t).1 with
        | none => result
        | some name => .error (.fault (.lostEntry name)), (B.leave setup t).2) := by
  cases B with
  | funcref f => exact hcode
  | text e =>
    refine (evalWithItem_eq hcode).trans ?_
    have hval := vimBinding_withoutVim_of_ne setup t (show "key" ≠ "val" by decide)
    cases hkey : vimBinding setup "key" t with
    | none =>
      rw [bind_of_error (dropVim_of_unbound setup t hkey)]
      simp only [Callback.leave, hkey]
    | some k =>
      rw [bind_of_ok (dropVim_of_bound setup t hkey)]
      cases hvalue : vimBinding setup "val" t with
      | none =>
        rw [bind_of_error (dropVim_of_unbound setup _ (hval.trans hvalue))]
        simp only [Callback.leave, hkey, hvalue]
      | some v =>
        rw [bind_of_ok (dropVim_of_bound setup _ (hval.trans hvalue))]
        simp only [Callback.leave, hkey, hvalue]
        rfl

/-! ## Turns -/

/-- Where an item is: at a position in a List, or under a key in a Dictionary. -/
inductive Place where
  | index (i : Nat)
  | key (k : String)

/-- What a callback is told about the place of an item. -/
def Place.value : Place → Value
  | index i => .number i
  | key k => .string k

/-- An item of a List or Dictionary with its place. -/
structure Item where
  place : Place
  value : Ref

/-- The items of a List from a position on. -/
def Item.ofList (i : Nat) (items : List Ref) : List Item :=
  (items.zipIdx i).map fun e => ⟨.index e.2, e.1⟩

/-- The items of a Dictionary. -/
def Item.ofEntries (entries : List (String × Ref)) : List Item :=
  entries.map fun e => ⟨.key e.1, e.2⟩

/-- The items that `map()` and `filter()` go through. -/
def Item.ofValue : Value → List Item
  | .list items => ofList 0 items
  | .dict t => ofEntries t.entries
  | _ => []

/-- What the results of a callback are for. -/
inductive Purpose where
  /-- They replace the items, as by `map()`. -/
  | mapping
  /-- They tell which items to keep, as by `filter()`. -/
  | filtering

namespace Purpose

/-- Keeps or removes an item: an entry is removed at once, while the items of a List that are kept
are collected. -/
def keepIf (r : Ref) (item : Item) (keep : Bool) : Run (List Ref) :=
  match item.place with
  | .index _ => return if keep then [item.value] else []
  | .key k => do
    if !keep then
      if ((← get).heap.table r).contains k then
        Run.onHeap (modify fun h => h.modifyTable r (·.erase k))
      else faulty (.lostEntry k)
    return []

/-- Replaces an item: an entry at once, while the new items of a List are collected. -/
def replace (r : Ref) (item : Item) (result : Ref) : Run (List Ref) :=
  match item.place with
  | .index _ => return [result]
  | .key k => do
    Run.onHeap (modify fun h => h.modifyTable r (·.insert k result))
    return []

/-- What the result for an item leads to. -/
def settle (r : Ref) (item : Item) (result : Ref) : Purpose → Run (List Ref)
  | mapping => replace r item result
  | filtering => do keepIf r item (← Op.toBool result)

/-- What is done for an item. -/
def turn (purpose : Purpose) (act : Ref → Ref → Run Ref) (r : Ref) (item : Item) :
    Run (List Ref) := do
  let key ← Op.alloc item.place.value
  let result ← act key item.value
  purpose.settle r item result

/-- `map()` or `filter()`. -/
def apply (M : Machine) (r function : Ref) (c : Context) : Purpose → Run Ref
  | mapping => map M r function c
  | filtering => filter M r function c

end Purpose

section

variable (act : Ref → Ref → Run Ref) (r : Ref)

theorem mapItems_eq (i : Nat) (items : List Ref) :
    mapItems act i items =
      List.flatten <$> (Item.ofList i items).mapM (Purpose.mapping.turn act r) := by
  induction items generalizing i with
  | nil => simp [mapItems, Item.ofList]
  | cons item rest ih =>
    rw [mapItems, ih]
    simp [Item.ofList, Purpose.turn, Purpose.settle, Purpose.replace, Place.value, Op.number,
      map_eq_pure_bind, -bind_pure_comp]

theorem filterItems_eq (i : Nat) (items : List Ref) :
    filterItems act i items =
      List.flatten <$> (Item.ofList i items).mapM (Purpose.filtering.turn act r) := by
  induction items generalizing i with
  | nil => simp [filterItems, Item.ofList]
  | cons item rest ih =>
    rw [filterItems, ih]
    simp only [Item.ofList, List.zipIdx_cons, List.map_cons, List.mapM_cons, Purpose.turn,
      Purpose.settle, Purpose.keepIf, Place.value, Op.number, map_eq_pure_bind, bind_assoc,
      pure_bind]
    refine bind_congr fun _ => bind_congr fun _ => bind_congr fun keep => bind_congr fun _ => ?_
    cases keep <;> rfl

theorem mapEntries_eq (entries : List (String × Ref)) :
    mapEntries act r entries =
      (fun _ => ()) <$> (Item.ofEntries entries).mapM (Purpose.mapping.turn act r) := by
  induction entries with
  | nil => simp [mapEntries, Item.ofEntries]
  | cons entry rest ih =>
    rw [mapEntries, ih]
    simp [Item.ofEntries, Purpose.turn, Purpose.settle, Purpose.replace, Place.value, Op.string,
      map_eq_pure_bind, -bind_pure_comp]

theorem filterEntries_eq (entries : List (String × Ref)) :
    filterEntries act r entries =
      (fun _ => ()) <$> (Item.ofEntries entries).mapM (Purpose.filtering.turn act r) := by
  induction entries with
  | nil => simp [filterEntries, Item.ofEntries]
  | cons entry rest ih =>
    rw [filterEntries, ih]
    simp only [Item.ofEntries, List.map_cons, List.mapM_cons, Purpose.turn, Purpose.settle,
      Purpose.keepIf, Place.value, Op.string, map_eq_pure_bind, bind_assoc, pure_bind]
    refine bind_congr fun _ => bind_congr fun _ => bind_congr fun keep => ?_
    cases keep with
    | true => simp only [Bool.not_true, Bool.false_eq_true, if_false, pure_bind]
    | false =>
      simp only [Bool.not_false, if_true, bind_assoc]
      refine bind_congr fun _ => ?_
      split
      · simp only [bind_assoc, pure_bind]
      · rfl

end

/-- The state in which all results are in place: those for a List are put there at the end. -/
def stored (r : Ref) (results : List (List Ref)) (s : State) : Value → State
  | .list _ => { s with heap := s.heap.setValue r (.list results.flatten) }
  | _ => s

section

variable {r function : Ref} (hB : IsCallback setup s.heap function B)
  (hfree : s.heap.isLocked r = false)
include hB hfree

theorem overContainer_list {items : List Ref} (hr : s.heap.value r = .list items) (fname : String)
    (onItems : (Ref → Ref → Run Ref) → Nat → List Ref → Run (List Ref))
    (onEntries : (Ref → Ref → Run Ref) → Ref → List (String × Ref) → Run Unit) :
    overContainer M fname r function c onItems onEntries setup s =
      (onItems (B.act M c) 0 items >>= fun results =>
        liftM (Op.setValue r (.list results)) >>= fun _ => pure r) setup s := by
  unfold overContainer
  rw [bind_of_ok (op_of_ok (Op.value_eq r s.heap)), hr]
  dsimp only
  rw [bind_of_ok (op_of_ok (Op.isLocked_eq r s.heap)), hfree, if_neg Bool.false_ne_true]
  exact bind_of_ok (callback_eq hB)

theorem overContainer_dict {table : Table} (hr : s.heap.value r = .dict table) (fname : String)
    (onItems : (Ref → Ref → Run Ref) → Nat → List Ref → Run (List Ref))
    (onEntries : (Ref → Ref → Run Ref) → Ref → List (String × Ref) → Run Unit) :
    overContainer M fname r function c onItems onEntries setup s =
      (onEntries (B.act M c) r table.entries >>= fun _ => pure r) setup s := by
  unfold overContainer
  rw [bind_of_ok (op_of_ok (Op.value_eq r s.heap)), hr]
  dsimp only
  rw [bind_of_ok (op_of_ok (Op.isLocked_eq r s.heap)), hfree, if_neg Bool.false_ne_true]
  exact bind_of_ok (callback_eq hB)

/-- `map()` and `filter()` end with their argument once every turn has given a result, or in the way
in which a turn has stopped. -/
theorem apply_eq_iff (hr : (s.heap.value r).isContainer = true) (purpose : Purpose)
    (result : Except Stop Ref) : purpose.apply M r function c setup s = (result, t) ↔
      (∃ results u, Passed (purpose.turn (B.act M c) r) setup (Item.ofValue (s.heap.value r)) s
          results u ∧ result = .ok r ∧ t = stored r results u (s.heap.value r)) ∨
        ∃ item u stop, Reached (purpose.turn (B.act M c) r) setup (Item.ofValue (s.heap.value r)) s
          item u ∧ purpose.turn (B.act M c) r item setup u = (.error stop, t) ∧
          result = .error stop := by
  cases hv : s.heap.value r with
  | list items =>
    rw [← mapM_bind_eq_iff (g := fun results =>
      liftM (Op.setValue r (.list results.flatten)) >>= fun _ => pure r)
      (w := fun results u => stored r results u (.list items)) fun _ _ => rfl]
    cases purpose with
    | mapping =>
      rw [Purpose.apply, map, overContainer_list hB hfree hv, mapItems_eq _ r, bind_map_left]
      rfl
    | filtering =>
      rw [Purpose.apply, filter, overContainer_list hB hfree hv, filterItems_eq _ r, bind_map_left]
      rfl
  | dict table =>
    rw [← mapM_bind_eq_iff (g := fun _ => pure r)
      (w := fun results u => stored r results u (.dict table)) fun _ _ => rfl]
    cases purpose with
    | mapping =>
      rw [Purpose.apply, map, overContainer_dict hB hfree hv, mapEntries_eq, bind_map_left]
      rfl
    | filtering =>
      rw [Purpose.apply, filter, overContainer_dict hB hfree hv, filterEntries_eq, bind_map_left]
      rfl
  | _ => rw [hv] at hr; cases hr

end

/-! ## How a turn stops -/

theorem toBool_eq (x : Ref) (setup : Setup) (s : State) :
    (liftM (Op.toBool x) : Run Bool) setup s = ((s.heap.value x).toBool, s) := by
  have hop : Op.toBool x s.heap = ((s.heap.value x).toBool, s.heap) := by
    rw [Op.toBool, Op.bind_of_ok (Op.value_eq x s.heap)]
    rfl
  cases hx : (s.heap.value x).toBool with
  | ok b => exact op_of_ok (hx ▸ hop)
  | error stop => exact op_of_error (hx ▸ hop)

namespace Callback

/-- How the code ends when it is run for an item, and the state it leaves. The code is given a new
object for the place. -/
def outcome (M : Machine) (setup : Setup) (c : Context) (B : Callback) (item : Item) (s : State) :
    Except Stop Ref × State :=
  let place := s.heap.alloc item.place.value
  B.code M c place.1 item.value setup
    (B.enter setup place.1 item.value { s with heap := place.2 })

end Callback

section

variable (M : Machine) (setup : Setup) (c : Context) (B : Callback) (purpose : Purpose) (r : Ref)
  (item : Item) (s : State)

/-- A turn stops with what has stopped its code, or with the error that the result is no
condition. -/
inductive Raises (stop : Stop) (u : State) : Prop
  | code {t : State} : B.outcome M setup c item s = (.error stop, t) → B.leave setup t = (none, u) →
      Raises stop u
  | condition {x : Ref} {t : State} : purpose = .filtering →
      B.outcome M setup c item s = (.ok x, t) → B.leave setup t = (none, u) →
      (u.heap.value x).toBool = .error stop → Raises stop u

/-- A turn finds something gone that is to be removed: a variable of the editor once the code has
been run, or an entry that is not kept. -/
inductive Loses (name : String) (u : State) : Prop
  | binding {result : Except Stop Ref} {t : State} : B.outcome M setup c item s = (result, t) →
      B.leave setup t = (some name, u) → Loses name u
  | entry {x : Ref} {t : State} : purpose = .filtering → item.place = .key name →
      B.outcome M setup c item s = (.ok x, t) → B.leave setup t = (none, u) →
      (u.heap.value x).toBool = .ok false → (u.heap.table r).get? name = none → Loses name u

end

section

variable {purpose : Purpose} {r : Ref} {item : Item} {u : State} {stop : Stop}

theorem keepIf_true :
    Purpose.keepIf r item true setup s =
      (.ok (match item.place with | .index _ => [item.value] | .key _ => []), s) := by
  unfold Purpose.keepIf
  cases item.place <;> rfl

theorem keepIf_false_index {i : Nat} (hplace : item.place = .index i) :
    Purpose.keepIf r item false setup s = (.ok [], s) := by
  unfold Purpose.keepIf
  rw [hplace]
  rfl

theorem keepIf_false_key {k : String} (hplace : item.place = .key k) :
    Purpose.keepIf r item false setup s =
      if (s.heap.table r).contains k then
        (.ok [], { s with heap := s.heap.modifyTable r (·.erase k) })
      else (.error (.fault (.lostEntry k)), s) := by
  unfold Purpose.keepIf
  rw [hplace]
  dsimp only
  rw [if_pos (by decide), bind_of_ok (a := s) (t := s) rfl]
  split <;> rfl

theorem keepIf_eq_error_iff {keep : Bool} :
    Purpose.keepIf r item keep setup s = (.error stop, u) ↔
      u = s ∧ keep = false ∧ ∃ k, item.place = .key k ∧ (s.heap.table r).get? k = none ∧
        stop = .fault (.lostEntry k) := by
  cases keep with
  | true =>
    rw [keepIf_true]
    exact ⟨nofun, nofun⟩
  | false =>
    cases hplace : item.place with
    | index i =>
      rw [keepIf_false_index hplace]
      exact ⟨nofun, nofun⟩
    | key k =>
      rw [keepIf_false_key hplace, Table.contains]
      cases hentry : (s.heap.table r).get? k with
      | none =>
        rw [if_neg (by decide)]
        constructor
        · rintro ⟨⟩
          exact ⟨rfl, rfl, k, rfl, hentry, rfl⟩
        · rintro ⟨rfl, -, k', heq, -, rfl⟩
          cases heq
          rfl
      | some value =>
        constructor
        · rintro ⟨⟩
        · rintro ⟨-, -, k', heq, hnone, -⟩
          cases heq
          cases hentry.symm.trans hnone

theorem settle_of_stop {x : Ref} (hx : (s.heap.value x).toBool = .error stop) :
    Purpose.filtering.settle r item x setup s = (.error stop, s) :=
  bind_of_error ((toBool_eq x setup s).trans (by rw [hx]))

theorem settle_of_keep {x : Ref} {keep : Bool} (hx : (s.heap.value x).toBool = .ok keep) :
    Purpose.filtering.settle r item x setup s = Purpose.keepIf r item keep setup s :=
  bind_of_ok ((toBool_eq x setup s).trans (by rw [hx]))

theorem settle_eq_error_iff {x : Ref} :
    purpose.settle r item x setup s = (.error stop, u) ↔
      u = s ∧ purpose = .filtering ∧ ((s.heap.value x).toBool = .error stop ∨
        ∃ k, item.place = .key k ∧ (s.heap.value x).toBool = .ok false ∧
          (s.heap.table r).get? k = none ∧ stop = .fault (.lostEntry k)) := by
  cases purpose with
  | mapping =>
    unfold Purpose.settle Purpose.replace
    cases item.place <;> exact ⟨nofun, nofun⟩
  | filtering =>
    cases hx : (s.heap.value x).toBool with
    | error stop' =>
      rw [settle_of_stop hx]
      constructor
      · rintro ⟨⟩
        exact ⟨rfl, rfl, .inl rfl⟩
      · rintro ⟨rfl, -, hstop | ⟨k, -, hfalse, -⟩⟩
        · cases hstop
          rfl
        · cases hfalse
    | ok keep =>
      rw [settle_of_keep hx, keepIf_eq_error_iff]
      constructor
      · rintro ⟨rfl, rfl, k, hplace, hnone, rfl⟩
        exact ⟨rfl, rfl, .inr ⟨k, hplace, rfl, hnone, rfl⟩⟩
      · rintro ⟨rfl, -, hstop | ⟨k, hplace, hfalse, hnone, rfl⟩⟩
        · cases hstop
        · cases hfalse
          exact ⟨rfl, rfl, k, hplace, hnone, rfl⟩

/-! ### From the end of the code to the end of the turn -/

theorem turn_eq (act : Ref → Ref → Run Ref) :
    purpose.turn act r item setup s =
      (act (s.heap.alloc item.place.value).1 item.value >>= fun x => purpose.settle r item x) setup
        { s with heap := (s.heap.alloc item.place.value).2 } :=
  bind_of_ok (op_of_ok rfl)

theorem turn_of_lost {result : Except Stop Ref} {name : String}
    (hends : B.outcome M setup c item s = (result, t)) (hleave : B.leave setup t = (some name, u)) :
    purpose.turn (B.act M c) r item setup s = (.error (.fault (.lostEntry name)), u) := by
  have hact := act_eq hends
  rw [hleave] at hact
  rw [turn_eq]
  exact bind_of_error hact

theorem turn_of_stop (hends : B.outcome M setup c item s = (.error stop, t))
    (hleave : B.leave setup t = (none, u)) :
    purpose.turn (B.act M c) r item setup s = (.error stop, u) := by
  have hact := act_eq hends
  rw [hleave] at hact
  rw [turn_eq]
  exact bind_of_error hact

theorem turn_of_ok {x : Ref} (hends : B.outcome M setup c item s = (.ok x, t))
    (hleave : B.leave setup t = (none, u)) :
    purpose.turn (B.act M c) r item setup s = purpose.settle r item x setup u := by
  have hact := act_eq hends
  rw [hleave] at hact
  rw [turn_eq]
  exact bind_of_ok hact

/-- A turn stops in no other way. -/
theorem turn_eq_error_iff : purpose.turn (B.act M c) r item setup s = (.error stop, u) ↔
    Raises M setup c B purpose item s stop u ∨
      ∃ name, Loses M setup c B purpose r item s name u ∧ stop = .fault (.lostEntry name) := by
  constructor
  · intro hturn
    obtain ⟨result, t, hends⟩ : ∃ result t, B.outcome M setup c item s = (result, t) := ⟨_, _, rfl⟩
    rcases hleave : B.leave setup t with ⟨_ | name, v⟩
    · cases result with
      | error stop' =>
        cases (turn_of_stop hends hleave).symm.trans hturn
        exact .inl (.code hends hleave)
      | ok x =>
        obtain ⟨rfl, hpurpose, hstop | ⟨k, hplace, hfalse, hnone, rfl⟩⟩ :=
          settle_eq_error_iff.mp ((turn_of_ok hends hleave).symm.trans hturn)
        · exact .inl (.condition hpurpose hends hleave hstop)
        · exact .inr ⟨k, .entry hpurpose hplace hends hleave hfalse hnone, rfl⟩
    · cases (turn_of_lost hends hleave).symm.trans hturn
      exact .inr ⟨name, .binding hends hleave, rfl⟩
  · rintro (hraises | ⟨name, hloses, rfl⟩)
    · cases hraises with
      | code hends hleave => exact turn_of_stop hends hleave
      | condition hpurpose hends hleave hstop =>
        rw [turn_of_ok hends hleave]
        exact settle_eq_error_iff.mpr ⟨rfl, hpurpose, .inl hstop⟩
    · cases hloses with
      | binding hends hleave => exact turn_of_lost hends hleave
      | entry hpurpose hplace hends hleave hfalse hnone =>
        rw [turn_of_ok hends hleave]
        exact settle_eq_error_iff.mpr ⟨rfl, hpurpose, .inr ⟨name, hplace, hfalse, hnone, rfl⟩⟩

end

end Library

end Vimscript
