import Vimscript.Eval.Stmt
import Vimscript.Proofs.Run.Result

/-!
# Selecting a `:catch` clause

Which clause of a `:try` takes an error, told without the interpreter. A
clause takes a message when its pattern counts as false, or when the
matcher finds the pattern in the message, where slashes around the pattern
are not part of it (`Clause.Takes`).

Asking a clause can have three answers: yes, no, or that the pattern is no
good. `Clause.verdict` is that answer as a value, and `findHandler_cons`
says that selecting a handler asks the clauses in order up to the first
answer other than no. A pattern that gives neither yes nor no is what the
matcher does not accept; where all patterns are accepted the third answer
does not occur, and the first clause that takes the message is selected.
-/

namespace Vimscript

open Run

/-! ## Patterns -/

/-- A pattern and what is left of it without the slashes around it. -/
inductive Bare : String → String → Prop where
  | slashed (p : String) : Bare ("/" ++ p ++ "/") p
  | plain {p : String} : (∀ q, p ≠ "/" ++ q ++ "/") → Bare p p

theorem toList_slashed (p : String) : ("/" ++ p ++ "/").toList = '/' :: (p.toList ++ ['/']) := by
  simp [String.toList_append]

theorem bare_barePattern (p : String) : Bare p (barePattern p) := by
  unfold barePattern
  split
  case h_1 rest hp =>
    split
    case isTrue hlast =>
      obtain ⟨inner, rfl⟩ := List.getLast?_eq_some_iff.1 (eq_of_beq hlast)
      have hslashed : p = "/" ++ String.ofList inner ++ "/" := by
        apply String.toList_injective
        rw [toList_slashed, String.toList_ofList, hp]
      rw [hslashed, List.dropLast_concat]
      exact .slashed _
    case isFalse hlast =>
      refine .plain fun q hq => hlast ?_
      rw [hq, toList_slashed] at hp
      cases hp
      simp
  case h_2 hno =>
    refine .plain fun q hq => hno (q.toList ++ ['/']) ?_
    rw [hq, toList_slashed]

/-- Taking the slashes off has only one result. -/
theorem Bare.eq_barePattern {p q : String} (h : Bare p q) : q = barePattern p := by
  cases h with
  | slashed => simp [barePattern, String.toList_append]
  | plain hno =>
      have hbare := bare_barePattern p
      generalize barePattern p = r at hbare
      cases hbare with
      | slashed => exact absurd rfl (hno r)
      | plain => rfl

/-- Data that counts as false is no pattern, other text is one, and nothing else can be. -/
theorem patternText?_cases (d : Data) :
    (d.isTruthy = false ∧ patternText? d = .ok none) ∨
    (∃ p, d = .text p ∧ p ≠ "" ∧ patternText? d = .ok (some p)) ∨
    (d.isTruthy = true ∧ (∀ p, d ≠ .text p) ∧ ∃ f, patternText? d = .error f) := by
  unfold patternText?
  split
  case h_1 p =>
    by_cases he : p = ""
    · exact .inl ⟨by simp [Data.isTruthy, he], by simp [he]⟩
    · exact .inr (.inl ⟨p, rfl, he, by simp [he]⟩)
  case h_2 hno =>
    by_cases hd : d.isTruthy = true
    · exact .inr (.inr ⟨hd, fun p => hno p, _, by rw [if_pos hd]⟩)
    · exact .inl ⟨by simpa using hd, by rw [if_neg hd]⟩

/-! ## Clauses -/

namespace Clause

/-- A clause takes a message. -/
inductive Takes (matcher : Matcher) (message : String) (k : Clause) : Prop where
  | any : k.pattern.isTruthy = false → Takes matcher message k
  | found {p q : String} : k.pattern = .text p → p ≠ "" → Bare p q →
      matcher q message = .ok true → Takes matcher message k

/-- The pattern of a clause is one the matcher can tell about, for any message. -/
def Accepted (matcher : Matcher) (k : Clause) : Prop :=
  k.pattern.isTruthy = true →
    ∃ p, k.pattern = .text p ∧ ∀ q, Bare p q → ∀ message, ∃ b, matcher q message = .ok b

/-- Whether a clause takes a message, as the program finds out. -/
def verdict (matcher : Matcher) (message : String) (k : Clause) : Result Bool :=
  match patternText? k.pattern with
  | .error f => .error (.fault f)
  | .ok none => .ok true
  | .ok (some p) => matcher (barePattern p) message

variable {matcher : Matcher} {message : String} {k : Clause}

theorem verdict_eq_true_iff : k.verdict matcher message = .ok true ↔ k.Takes matcher message := by
  unfold verdict
  rcases patternText?_cases k.pattern with ⟨hd, htext⟩ | ⟨p, hp, hne, htext⟩ | ⟨hd, hno, f, htext⟩
  · rw [htext]
    exact ⟨fun _ => .any hd, fun _ => rfl⟩
  · rw [htext]
    constructor
    · intro h
      exact .found hp hne (bare_barePattern p) h
    · rintro (hfalse | ⟨hq, -, hbare, hfound⟩)
      · simp [hp, Data.isTruthy, hne] at hfalse
      · rw [hp, Data.text.injEq] at hq
        subst hq
        change matcher (barePattern p) message = .ok true
        rw [← hbare.eq_barePattern, hfound]
  · rw [htext]
    constructor
    · intro h
      cases h
    · rintro (hfalse | ⟨hp, -, -, -⟩)
      · rw [hd] at hfalse
        cases hfalse
      · exact absurd hp (hno _)

theorem not_takes_of_verdict (h : k.verdict matcher message = .ok false) :
    ¬k.Takes matcher message := by
  intro htakes
  rw [verdict_eq_true_iff.2 htakes] at h
  cases h

theorem Accepted.verdict (h : k.Accepted matcher) (message : String) :
    ∃ b, k.verdict matcher message = .ok b := by
  unfold Clause.verdict
  rcases patternText?_cases k.pattern with ⟨-, htext⟩ | ⟨p, hp, hne, htext⟩ | ⟨hd, hno, f, htext⟩
  · rw [htext]
    exact ⟨true, rfl⟩
  · rw [htext]
    obtain ⟨q, hq, hmatcher⟩ := h (by simp [hp, Data.isTruthy, hne])
    rw [hp, Data.text.injEq] at hq
    rw [hq]
    exact hmatcher _ (bare_barePattern q) message
  · obtain ⟨p, hp, -⟩ := h hd
    exact absurd hp (hno p)

theorem Accepted.verdict_eq_false (h : k.Accepted matcher) (hno : ¬k.Takes matcher message) :
    k.verdict matcher message = .ok false := by
  obtain ⟨b, hb⟩ := h.verdict message
  cases b with
  | true => exact absurd (verdict_eq_true_iff.1 hb) hno
  | false => exact hb

end Clause

/-! ## The selection -/

/-- The state in which a clause has been selected: a pattern that was found is traced. -/
def selected (setup : Setup) (k : Clause) (message : String) (s : State) : State :=
  match patternText? k.pattern with
  | .ok (some p) => traced setup ["catch matched", Text.quoted p, message] s
  | _ => s

section

variable {M : Machine} {c : Context} {setup : Setup} {s : State} {message : String}

/-- Selecting a handler asks the first clause, and goes on only where the answer is no. -/
theorem findHandler_cons (k : Clause) (rest : List Clause) :
    findHandler message (execClauses M c (k :: rest)) setup s =
      match k.verdict setup.matcher message with
      | .error stop => (.error stop, s)
      | .ok true => (.ok (some (execAll M c k.body)), selected setup k message s)
      | .ok false => findHandler message (execClauses M c rest) setup s := by
  rw [execClauses.eq_def]
  obtain ⟨pattern, body⟩ := k
  simp only [findHandler, Clause.verdict, selected, Clause.pattern, Clause.body]
  rcases htext : patternText? pattern with f | _ | p
  · rfl
  · rfl
  · rw [bind_of_ok (a := some p) (t := s) rfl]
    simp only []
    rw [bind_of_ok (a := setup) (t := s) rfl]
    rcases hm : setup.matcher (barePattern p) message with stop | b
    · exact bind_of_error rfl
    · rw [bind_of_ok (a := b) (t := s) rfl]
      cases b with
      | true =>
          simp only [if_true]
          rw [bind_of_ok (trace_eq _ setup s)]
          rfl
      | false => rfl

theorem findHandler_skip {before rest : List Clause}
    (hbefore : ∀ j ∈ before, j.verdict setup.matcher message = .ok false) :
    findHandler message (execClauses M c (before ++ rest)) setup s =
      findHandler message (execClauses M c rest) setup s := by
  induction before with
  | nil => rfl
  | cons j before ih =>
      rw [List.cons_append, findHandler_cons, hbefore j List.mem_cons_self]
      exact ih fun i hi => hbefore i (List.mem_cons_of_mem j hi)

theorem findHandler_of_none {clauses : List Clause}
    (h : ∀ j ∈ clauses, j.verdict setup.matcher message = .ok false) :
    findHandler message (execClauses M c clauses) setup s = (.ok none, s) := by
  rw [← List.append_nil clauses, findHandler_skip h, execClauses]
  rfl

theorem findHandler_of_first {before after : List Clause} {k : Clause}
    (hbefore : ∀ j ∈ before, j.verdict setup.matcher message = .ok false)
    (hk : k.verdict setup.matcher message = .ok true) :
    findHandler message (execClauses M c (before ++ k :: after)) setup s =
      (.ok (some (execAll M c k.body)), selected setup k message s) := by
  rw [findHandler_skip hbefore, findHandler_cons, hk]

theorem findHandler_of_error {before after : List Clause} {k : Clause} {stop : Stop}
    (hbefore : ∀ j ∈ before, j.verdict setup.matcher message = .ok false)
    (hk : k.verdict setup.matcher message = .error stop) :
    findHandler message (execClauses M c (before ++ k :: after)) setup s = (.error stop, s) := by
  rw [findHandler_skip hbefore, findHandler_cons, hk]

end

/-- Either every clause says no, or there is a first one that does not. -/
theorem refuse_or_first (matcher : Matcher) (message : String) (clauses : List Clause) :
    (∀ j ∈ clauses, j.verdict matcher message = .ok false) ∨
    ∃ before k after, clauses = before ++ k :: after ∧
      (∀ j ∈ before, j.verdict matcher message = .ok false) ∧
        k.verdict matcher message ≠ .ok false := by
  induction clauses with
  | nil => exact .inl (by simp)
  | cons j rest ih =>
      by_cases hj : j.verdict matcher message = .ok false
      · rcases ih with hrest | ⟨before, k, after, rfl, hbefore, hk⟩
        · exact .inl (by simpa [hj] using hrest)
        · exact .inr ⟨j :: before, k, after, rfl, by simpa [hj] using hbefore, hk⟩
      · exact .inr ⟨[], j, rest, rfl, by simp, hj⟩

end Vimscript
