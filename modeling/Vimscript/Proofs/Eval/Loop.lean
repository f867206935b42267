import Vimscript.Proofs.Eval.Compound
import Vimscript.Proofs.Eval.Try
import Vimscript.Proofs.Heap.Edit
import Vimscript.Proofs.Run.Sequence

/-!
# The turns of `:for`

A loop over a List takes the item at one position after the other, and
before each turn but the first it computes the List anew. So the items may
be others in every turn, and their number another. What is certain is that
the bound is checked against the List the item is then taken from, and that
no code runs in between. `Arrives` says what the loop has before it at a
position, and `Departs` how it can end there. A loop ends in a way if and
only if it arrives at a position where it departs in that way
(`forEach_list_iff`); that it runs out of steps is kept apart.

A loop over a String has read all of it when it starts, and takes its
characters in order whatever the body does (`forEach_text_iff`).
-/

namespace Vimscript

open Run

/-! ## Turns -/

/-- What the items are bound to: one target, or several, which share out the items of an item. -/
inductive LoopTarget where
  | single (target : Expr)
  | several (targets : List Expr)

namespace LoopTarget

/-- The loop that binds its items to a target. -/
def loop (mark : Option Mark) (iterable : Expr) (body : List Stmt) : LoopTarget → Stmt
  | single target => .forLoop mark target iterable body
  | several targets => .forUnpack mark targets iterable body

/-- Binds an item. -/
def bindItem (M : Machine) (c : Context) (item : Ref) : LoopTarget → Run Unit
  | single target => assign M target .set item c
  | several targets => unpack M targets .set item c

/-- One turn: the item is bound, and then the body runs. -/
def turn (M : Machine) (c : Context) (target : LoopTarget) (body : List Stmt) (item : Ref) :
    Run Signal := do
  target.bindItem M c item
  execAll M c body

end LoopTarget

theorem exec_loop (M : Machine) (c : Context) (target : LoopTarget) (mark : Option Mark)
    (iterable : Expr) (body : List Stmt) (setup : Setup) (s : State) :
    exec M c (target.loop mark iterable body) setup s =
      forEach (evalExpr M iterable c) (target.turn M c body) M.fuel setup
        (begun (target.loop mark iterable body) s) := by
  rw [exec, bind_of_ok (t := begun (target.loop mark iterable body) s) rfl]
  cases target <;> rw [LoopTarget.loop, perform] <;> rfl

/-- How a turn ends the loop, where it does. A `:break` is a success of the loop. -/
def afterTurn? : Except Stop Signal → Option (Except Stop Signal)
  | .ok .success | .ok .continuing => none
  | .ok .breaking => some (.ok .success)
  | .ok (.returning value) => some (.ok (.returning value))
  | .ok (.failed e) => some (.ok (.failed e))
  | .error stop => some (.error stop)

/-! ## Loops over a List -/

section

variable (again : Run Ref) (turn : Ref → Run Signal) (setup : Setup)

/-- The loop is about to take the item at a position. The items are those of the List that has just
been computed: by the first evaluation for the first position, and else by the one after the turn
before. -/
inductive Arrives (s : State) : Nat → List Ref → State → Prop
  | first {list : Ref} {items : List Ref} {t : State} : again setup s = (.ok list, t) →
      t.heap.value list = .list items → Arrives s 0 items t
  | next {i : Nat} {items more : List Ref} {item list : Ref} {ended : Except Stop Signal}
      {t u v : State} : Arrives s i items t → items[i]? = some item →
      turn item setup t = (ended, u) → afterTurn? ended = none → again setup u = (.ok list, v) →
      v.heap.value list = .list more → Arrives s (i + 1) more v

/-- The ways in which a loop can end at a position. -/
inductive Departs (i : Nat) (items : List Ref) (t : State) : Except Stop Signal → State → Prop
  /-- There is no item any more. -/
  | finished : items.length ≤ i → Departs i items t (.ok .success) t
  /-- The turn ends the loop. -/
  | left {item : Ref} {ended result : Except Stop Signal} {u : State} : items[i]? = some item →
      turn item setup t = (ended, u) → afterTurn? ended = some result → Departs i items t result u
  /-- The turn goes well, but the List cannot be computed anew, -/
  | stopped {item : Ref} {ended : Except Stop Signal} {stop : Stop} {u v : State} :
      items[i]? = some item → turn item setup t = (ended, u) → afterTurn? ended = none →
      again setup u = (.error stop, v) → Departs i items t (.error stop) v
  /-- or it is no List any more. -/
  | noList {item value : Ref} {ended : Except Stop Signal} {u v : State} :
      items[i]? = some item → turn item setup t = (ended, u) → afterTurn? ended = none →
      again setup u = (.ok value, v) → (∀ more, v.heap.value value ≠ .list more) →
      Departs i items t (.error (.ofCause .listRequired)) v

end

section

variable {again : Run Ref} {turn : Ref → Run Signal} {setup : Setup} {s t u v : State}
  {i fuel : Nat} {items : List Ref} {list item next : Ref} {ended result : Except Stop Signal}

/-! ### What a turn is followed by -/

/-- After a turn that does not end it, a loop goes on like this. -/
def nextTurn (again : Run Ref) (turn : Ref → Run Signal) (fuel i : Nat) : Run Signal := do
  let next ← again
  match ← (Op.value next : Run Value) with
  | .list _ => forList again turn fuel next (i + 1)
  | _ => fail .listRequired

theorem nextTurn_of_list {more : List Ref} (hagain : again setup u = (.ok next, v))
    (hmore : v.heap.value next = .list more) :
    nextTurn again turn fuel i setup u = forList again turn fuel next (i + 1) setup v := by
  rw [nextTurn, bind_of_ok hagain, bind_of_ok (op_of_ok (Op.value_eq next v.heap)), hmore]

theorem nextTurn_of_no_list (hagain : again setup u = (.ok next, v))
    (hno : ∀ more, v.heap.value next ≠ .list more) :
    nextTurn again turn fuel i setup u = (.error (.ofCause .listRequired), v) := by
  rw [nextTurn, bind_of_ok hagain, bind_of_ok (op_of_ok (Op.value_eq next v.heap))]
  cases hvalue : v.heap.value next with
  | list more => exact absurd hvalue (hno more)
  | _ => rfl

theorem forList_of_finished (hlist : t.heap.value list = .list items) (hitem : items[i]? = none) :
    forList again turn (fuel + 1) list i setup t = (.ok .success, t) := by
  rw [forList, bind_of_ok (a := t) (t := t) rfl, Heap.items_of_list hlist, hitem]
  rfl

theorem forList_of_left (hlist : t.heap.value list = .list items)
    (hitem : items[i]? = some item) (hturn : turn item setup t = (ended, u))
    (hleft : afterTurn? ended = some result) :
    forList again turn (fuel + 1) list i setup t = (result, u) := by
  rw [forList, bind_of_ok (a := t) (t := t) rfl, Heap.items_of_list hlist, hitem]
  rcases ended with stop | (_ | _ | _ | _ | _) <;> cases hleft
  case error => exact bind_of_error hturn
  all_goals exact bind_of_ok hturn

theorem forList_of_turn (hlist : t.heap.value list = .list items)
    (hitem : items[i]? = some item) (hturn : turn item setup t = (ended, u))
    (hgoes : afterTurn? ended = none) :
    forList again turn (fuel + 1) list i setup t = nextTurn again turn fuel i setup u := by
  rw [forList, bind_of_ok (a := t) (t := t) rfl, Heap.items_of_list hlist, hitem]
  rcases ended with stop | (_ | _ | _ | _ | _) <;> cases hgoes
  all_goals exact bind_of_ok hturn

/-! ### Following the loop -/

theorem forEach_of_list (hfirst : again setup s = (.ok list, t))
    (hlist : t.heap.value list = .list items) :
    forEach again turn fuel setup s = forList again turn fuel list 0 setup t := by
  rw [forEach, bind_of_ok hfirst, bind_of_ok (op_of_ok (Op.value_eq list t.heap)), hlist]

/-- A loop that arrives at a position goes on from there. -/
theorem Arrives.forEach_eq (h : Arrives again turn setup s i items t) :
    ∃ list, t.heap.value list = .list items ∧ ∀ fuel,
      forEach again turn (i + fuel) setup s = forList again turn fuel list i setup t := by
  induction h with
  | @first list items t hfirst hlist =>
    refine ⟨list, hlist, fun fuel => ?_⟩
    rw [Nat.zero_add, forEach_of_list hfirst hlist]
  | @next i items more item next ended t u v _ hitem hturn hgoes hagain hmore ih =>
    obtain ⟨list, hlist, hrun⟩ := ih
    refine ⟨next, hmore, fun fuel => ?_⟩
    rw [Nat.add_assoc, Nat.add_comm 1, hrun, forList_of_turn hlist hitem hturn hgoes,
      nextTurn_of_list hagain hmore]

/-- A loop that departs ends in that way. -/
theorem Departs.forList_eq (h : Departs again turn setup i items t result u)
    (hlist : t.heap.value list = .list items) :
    forList again turn (fuel + 1) list i setup t = (result, u) := by
  cases h with
  | finished hle => exact forList_of_finished hlist (List.getElem?_eq_none hle)
  | left hitem hturn hleft => exact forList_of_left hlist hitem hturn hleft
  | stopped hitem hturn hgoes hagain =>
    rw [forList_of_turn hlist hitem hturn hgoes]
    exact bind_of_error hagain
  | noList hitem hturn hgoes hagain hno =>
    rw [forList_of_turn hlist hitem hturn hgoes, nextTurn_of_no_list hagain hno]

/-- At a position the loop either ends or goes on to the next. -/
theorem Arrives.departs_or_next (h : Arrives again turn setup s i items t) :
    (∃ result u, Departs again turn setup i items t result u) ∨
      ∃ more v, Arrives again turn setup s (i + 1) more v := by
  rcases hitem : items[i]? with _ | item
  · exact .inl ⟨_, t, .finished (List.getElem?_eq_none_iff.mp hitem)⟩
  rcases hturn : turn item setup t with ⟨ended, u⟩
  rcases hafter : afterTurn? ended with _ | result
  case some => exact .inl ⟨result, u, .left hitem hturn hafter⟩
  -- the turn goes on, so what the List is computed to be next decides
  rcases hagain : again setup u with ⟨stop | next, v⟩
  · exact .inl ⟨_, v, .stopped hitem hturn hafter hagain⟩
  by_cases hmore : ∃ more, v.heap.value next = .list more
  · obtain ⟨more, hmore⟩ := hmore
    exact .inr ⟨more, v, .next h hitem hturn hafter hagain hmore⟩
  · exact .inl ⟨_, v, .noList hitem hturn hafter hagain fun more heq => hmore ⟨more, heq⟩⟩

/-- A loop over a List departs before a position or arrives there. -/
theorem departs_or_arrives (hfirst : Arrives again turn setup s 0 items t) (n : Nat) :
    (∃ i items t result u, i < n ∧ Arrives again turn setup s i items t ∧
      Departs again turn setup i items t result u) ∨
    ∃ items t, Arrives again turn setup s n items t := by
  induction n with
  | zero => exact .inr ⟨items, t, hfirst⟩
  | succ n ih =>
    rcases ih with ⟨i, items, t, result, u, hi, harrives, hdeparts⟩ | ⟨items, t, harrives⟩
    · exact .inl ⟨i, items, t, result, u, by omega, harrives, hdeparts⟩
    · rcases harrives.departs_or_next with ⟨result, u, hdeparts⟩ | hnext
      · exact .inl ⟨n, items, t, result, u, by omega, harrives, hdeparts⟩
      · exact .inr hnext

/-- A loop over a List ends where it arrives at a position and departs there. -/
def ListLoopEnds (again : Run Ref) (turn : Ref → Run Signal) (setup : Setup) (fuel : Nat)
    (s : State) (result : Except Stop Signal) (u : State) : Prop :=
  (∃ i items t, i < fuel ∧ Arrives again turn setup s i items t ∧
    Departs again turn setup i items t result u) ∨
  result = .error .exhausted ∧ ∃ items, Arrives again turn setup s fuel items u

theorem forEach_list_iff (hfirst : again setup s = (.ok list, t))
    (hlist : t.heap.value list = .list items) :
    forEach again turn fuel setup s = (result, u) ↔
      ListLoopEnds again turn setup fuel s result u := by
  have hdeparted {i : Nat} {items : List Ref} {t u : State} {result : Except Stop Signal}
      (hi : i < fuel) (harrives : Arrives again turn setup s i items t)
      (hdeparts : Departs again turn setup i items t result u) :
      forEach again turn fuel setup s = (result, u) := by
    obtain ⟨list, hlist, hrun⟩ := harrives.forEach_eq
    obtain ⟨rest, rfl⟩ : ∃ rest, fuel = i + (rest + 1) := ⟨fuel - i - 1, by omega⟩
    rw [hrun, hdeparts.forList_eq hlist]
  have hexhausted {items : List Ref} {u : State}
      (harrives : Arrives again turn setup s fuel items u) :
      forEach again turn fuel setup s = (.error .exhausted, u) := by
    obtain ⟨list, -, hrun⟩ := harrives.forEach_eq
    exact (hrun 0).trans rfl
  constructor
  · intro hrun
    rcases departs_or_arrives (.first hfirst hlist) fuel with
      ⟨i, items, t, result', u', hi, harrives, hdeparts⟩ | ⟨items, u', harrives⟩
    · cases (hdeparted hi harrives hdeparts).symm.trans hrun
      exact .inl ⟨i, items, t, hi, harrives, hdeparts⟩
    · cases (hexhausted harrives).symm.trans hrun
      exact .inr ⟨rfl, items, harrives⟩
  · rintro (⟨i, items, t, hi, harrives, hdeparts⟩ | ⟨rfl, items, harrives⟩)
    · exact hdeparted hi harrives hdeparts
    · exact hexhausted harrives

/-! ### A List that stays the same -/

section

variable {α : Type} {Is : State → Ref → α → Prop} {values : List α}

/-- One turn has been taken for each of some values, in order and with an item that is the value. To
a turn belongs that the List is computed anew after it. -/
inductive TurnForEach (again : Run Ref) (turn : Ref → Run Signal) (setup : Setup)
    (Is : State → Ref → α → Prop) : List α → State → State → Prop
  | nil {s : State} : TurnForEach again turn setup Is [] s s
  | cons {item list : Ref} {value : α} {values : List α} {signal : Signal} {s t u v : State} :
      Is s item value → turn item setup s = (.ok signal, t) → afterTurn? (.ok signal) = none →
      again setup t = (.ok list, u) → TurnForEach again turn setup Is values u v →
      TurnForEach again turn setup Is (value :: values) s v

/-- No turn ends the loop, and whenever the List is computed it has the same values. -/
def StaysSame (again : Run Ref) (turn : Ref → Run Signal) (setup : Setup)
    (Is : State → Ref → α → Prop) (values : List α) (s : State) : Prop :=
  ∀ i items t, Arrives again turn setup s i items t → List.Forall₂ (Is t) items values ∧
    ∀ item, items[i]? = some item → ∃ signal u list more v,
      turn item setup t = (.ok signal, u) ∧ afterTurn? (.ok signal) = none ∧
      again setup u = (.ok list, v) ∧ v.heap.value list = .list more

/-- From a position on there is a turn for each of the values that are left. -/
theorem StaysSame.turnForEach (hsame : StaysSame again turn setup Is values s)
    (harrives : Arrives again turn setup s i items t) {left : Nat}
    (hleft : i + left = values.length) :
    ∃ items' u, TurnForEach again turn setup Is (values.drop i) t u ∧
      Arrives again turn setup s values.length items' u := by
  induction left generalizing i items t with
  | zero =>
    rw [Nat.add_zero] at hleft
    subst hleft
    rw [List.drop_length]
    exact ⟨items, t, .nil, harrives⟩
  | succ left ih =>
    obtain ⟨his, hturns⟩ := hsame i items t harrives
    have hvalue : i < values.length := by omega
    have hlt : i < items.length := by rwa [his.length_eq]
    have hitem : items[i]? = some items[i] := List.getElem?_eq_getElem hlt
    obtain ⟨signal, u, list, more, v, hturn, hgoes, hagain, hlist⟩ := hturns _ hitem
    obtain ⟨items', w, hrest, hend⟩ :=
      ih (.next harrives hitem hturn hgoes hagain hlist) (by omega)
    rw [List.drop_eq_getElem_cons hvalue]
    exact ⟨items', w, .cons (his.get hlt hvalue) hturn hgoes hagain hrest, hend⟩

/-- The loop takes one turn for each value, in order, and then ends. -/
theorem forEach_of_staysSame (hfirst : again setup s = (.ok list, t))
    (hlist : t.heap.value list = .list items)
    (hsame : StaysSame again turn setup Is values s) :
    ∃ u, TurnForEach again turn setup Is values t u ∧
      (values.length < fuel → forEach again turn fuel setup s = (.ok .success, u)) := by
  have harrives : Arrives again turn setup s 0 items t := .first hfirst hlist
  obtain ⟨items', u, hturns, hend⟩ := hsame.turnForEach harrives (Nat.zero_add _)
  have hlength := (hsame _ _ _ hend).1.length_eq
  refine ⟨u, hturns, fun hfuel => (forEach_list_iff hfirst hlist).mpr ?_⟩
  exact .inl ⟨_, items', u, hfuel, hend, .finished (Nat.le_of_eq hlength)⟩

end

/-! ## Loops over a String -/

/-- A turn for a character. -/
def textTurn (turn : Ref → Run Signal) (ch : Char) : Run Signal := do
  turn (← Op.string (String.singleton ch))

/-- Turns have been taken for some characters in order, and none of them ends the loop. -/
def TextTurns (turn : Ref → Run Signal) (setup : Setup) (chars : List Char) (s t : State) : Prop :=
  ∃ signals, Passed (textTurn turn) setup chars s signals t ∧
    ∀ signal ∈ signals, afterTurn? (.ok signal) = none

/-- A loop over a String ends behind its last character, or with the first turn that ends it. -/
def TextLoopEnds (turn : Ref → Run Signal) (setup : Setup) (chars : List Char) (s : State)
    (result : Except Stop Signal) (u : State) : Prop :=
  (TextTurns turn setup chars s u ∧ result = .ok .success) ∨
  ∃ done ch rest t ended, chars = done ++ ch :: rest ∧ TextTurns turn setup done s t ∧
    textTurn turn ch setup t = (ended, u) ∧ afterTurn? ended = some result

theorem TextTurns.nil : TextTurns turn setup [] s s := ⟨[], .nil, by simp⟩

theorem TextTurns.cons {ch : Char} {chars : List Char} {signal : Signal}
    (hturn : textTurn turn ch setup s = (.ok signal, t)) (hgoes : afterTurn? (.ok signal) = none)
    (hrest : TextTurns turn setup chars t u) : TextTurns turn setup (ch :: chars) s u := by
  obtain ⟨signals, hpassed, hall⟩ := hrest
  exact ⟨signal :: signals, .cons hturn hpassed, List.forall_mem_cons.mpr ⟨hgoes, hall⟩⟩

theorem forText_cons (turn : Ref → Run Signal) (ch : Char) (rest : List Char) :
    forText turn (ch :: rest) = (do
      match ← textTurn turn ch with
      | .breaking => return .success
      | .success | .continuing => forText turn rest
      | signal => return signal) := by
  rw [textTurn, bind_assoc]
  rfl

theorem forText_of_left {ch : Char} {rest : List Char}
    (hturn : textTurn turn ch setup s = (ended, u)) (hleft : afterTurn? ended = some result) :
    forText turn (ch :: rest) setup s = (result, u) := by
  rw [forText_cons]
  rcases ended with stop | (_ | _ | _ | _ | _) <;> cases hleft
  case error => exact bind_of_error hturn
  all_goals exact bind_of_ok hturn

theorem forText_of_turn {ch : Char} {rest : List Char}
    (hturn : textTurn turn ch setup s = (ended, u)) (hgoes : afterTurn? ended = none) :
    forText turn (ch :: rest) setup s = forText turn rest setup u := by
  rw [forText_cons]
  rcases ended with stop | (_ | _ | _ | _ | _) <;> cases hgoes
  all_goals exact bind_of_ok hturn

theorem forText_of_turns {done rest : List Char} (hturns : TextTurns turn setup done s t) :
    forText turn (done ++ rest) setup s = forText turn rest setup t := by
  obtain ⟨signals, hpassed, hall⟩ := hturns
  induction hpassed with
  | nil => rfl
  | cons hturn _ ih =>
    obtain ⟨hgoes, hrest⟩ := List.forall_mem_cons.mp hall
    rw [List.cons_append, forText_of_turn hturn hgoes, ih hrest]

theorem textLoop_ends (turn : Ref → Run Signal) (setup : Setup) (chars : List Char) (s : State) :
    TextLoopEnds turn setup chars s (forText turn chars setup s).1
      (forText turn chars setup s).2 := by
  induction chars generalizing s with
  | nil => exact .inl ⟨.nil, rfl⟩
  | cons ch rest ih =>
    rcases hturn : textTurn turn ch setup s with ⟨ended, t⟩
    rcases hafter : afterTurn? ended with _ | result
    case some =>
      rw [forText_of_left hturn hafter]
      exact .inr ⟨[], ch, rest, s, ended, rfl, .nil, hturn, hafter⟩
    obtain ⟨signal, rfl⟩ : ∃ signal, ended = .ok signal := by
      cases ended with
      | error stop => cases hafter
      | ok signal => exact ⟨signal, rfl⟩
    rw [forText_of_turn hturn hafter]
    rcases ih t with ⟨hrest, hresult⟩ | ⟨done, ch', rest', u, ended, rfl, hdone, hlast, hleft⟩
    · exact .inl ⟨.cons hturn hafter hrest, hresult⟩
    · exact .inr ⟨ch :: done, ch', rest', u, ended, rfl, .cons hturn hafter hdone, hlast, hleft⟩

theorem forText_iff {chars : List Char} :
    forText turn chars setup s = (result, u) ↔ TextLoopEnds turn setup chars s result u := by
  constructor
  · intro hrun
    have hends := textLoop_ends turn setup chars s
    rwa [hrun] at hends
  · rintro (⟨hturns, rfl⟩ | ⟨done, ch, rest, t, ended, rfl, hturns, hturn, hleft⟩)
    · rw [← List.append_nil chars, forText_of_turns hturns]
      rfl
    · rw [forText_of_turns hturns, forText_of_left hturn hleft]

theorem forEach_text_iff {first : Ref} {text : String} (hfirst : again setup s = (.ok first, t))
    (htext : t.heap.value first = .string text) :
    forEach again turn fuel setup s = (result, u) ↔
      TextLoopEnds turn setup text.toList t result u := by
  rw [forEach, bind_of_ok hfirst, bind_of_ok (op_of_ok (Op.value_eq first t.heap)), htext]
  exact forText_iff

end

/-! ## The statement -/

section

variable (M : Machine) (c : Context) (target : LoopTarget) (mark : Option Mark) (iterable : Expr)
  (body : List Stmt) (setup : Setup) (s : State)

/-- A loop statement takes its turns one after the other, as long as there are items and no turn
ends it. Over a List it looks at the items anew before each turn, and if they are always the same
values there is one turn for each; over a String it takes the characters that were there when it
started. -/
theorem loop_takes_turns {first : Ref} {t : State}
    (hfirst : evalExpr M iterable c setup (begun (target.loop mark iterable body) s) =
      (.ok first, t)) :
    (∀ items, t.heap.value first = .list items →
      (∀ result u, exec M c (target.loop mark iterable body) setup s = (result, u) ↔
        ListLoopEnds (evalExpr M iterable c) (target.turn M c body) setup M.fuel
          (begun (target.loop mark iterable body) s) result u) ∧
      ∀ (α : Type) (Is : State → Ref → α → Prop) (values : List α),
        StaysSame (evalExpr M iterable c) (target.turn M c body) setup Is values
          (begun (target.loop mark iterable body) s) →
        ∃ u, TurnForEach (evalExpr M iterable c) (target.turn M c body) setup Is values t u ∧
          (values.length < M.fuel →
            exec M c (target.loop mark iterable body) setup s = (.ok .success, u))) ∧
    (∀ text, t.heap.value first = .string text →
      ∀ result u, exec M c (target.loop mark iterable body) setup s = (result, u) ↔
        TextLoopEnds (target.turn M c body) setup text.toList t result u) := by
  rw [exec_loop]
  refine ⟨fun items hitems => ⟨fun result u => ?_, fun α Is values hsame => ?_⟩,
    fun text htext result u => ?_⟩
  · exact forEach_list_iff hfirst hitems
  · exact forEach_of_staysSame hfirst hitems hsame
  · exact forEach_text_iff hfirst htext

end

/-- A List of two Numbers in the variable `l`, and one namespace for everything. -/
def twoNumbers : State where
  heap := { cells := #[{ value := .dict { entries := [("l", ⟨1⟩)] } },
    { value := .list [⟨2⟩, ⟨3⟩] }, { value := .number 1 }, { value := .number 2 }] }

/-- The variable that holds the List. -/
def heldList : Expr := .var none (some .global) [.plain "l"]

/-- Binds the items of the List to `x`, and takes the first item out of the List in every turn. -/
def shrinkingLoop : Stmt :=
  LoopTarget.loop none heldList [.unlet none [.index none heldList (.int none 0)] false]
    (.single (.var none (some .global) [.plain "x"]))

/-- The loop never comes to the second item, which has moved to the first position by then. -/
theorem shrinkingLoop_skips_item :
    ∃ u, exec (Machine.ofFuel 3) { script := default } shrinkingLoop plainSetup twoNumbers =
        (.ok .success, u) ∧
      (u.heap.table ⟨0⟩).get? "x" = some ⟨2⟩ ∧ u.heap.items ⟨1⟩ = [⟨3⟩] := by
  let again := evalExpr (Machine.ofFuel 3) heldList { script := default }
  let turn := LoopTarget.turn (Machine.ofFuel 3) { script := default }
    (.single (.var none (some .global) [.plain "x"]))
    [.unlet none [.index none heldList (.int none 0)] false]
  have hfirst : again plainSetup (begun shrinkingLoop twoNumbers) =
      (.ok ⟨1⟩, begun shrinkingLoop twoNumbers) := rfl
  obtain ⟨u, hturn, hagain, hitems, hx⟩ : ∃ u,
      turn ⟨2⟩ plainSetup (begun shrinkingLoop twoNumbers) = (.ok .success, u) ∧
      again plainSetup u = (.ok ⟨1⟩, u) ∧ u.heap.value ⟨1⟩ = .list [⟨3⟩] ∧
      (u.heap.table ⟨0⟩).get? "x" = some ⟨2⟩ := ⟨_, rfl, rfl, rfl, rfl⟩
  have hnext : Arrives again turn plainSetup (begun shrinkingLoop twoNumbers) 1 [⟨3⟩] u :=
    .next (.first hfirst rfl) rfl hturn rfl hagain hitems
  have hends := (loop_takes_turns (Machine.ofFuel 3) { script := default } _ none heldList _
    plainSetup twoNumbers hfirst).1 _ rfl
  refine ⟨u, (hends.1 _ _).2 (.inl ⟨1, [⟨3⟩], u, by decide, hnext, .finished (by decide)⟩), hx, ?_⟩
  exact Heap.items_of_list hitems

end Vimscript
