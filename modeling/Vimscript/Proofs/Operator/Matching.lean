import Vimscript.Operator.Apply
import Vimscript.Proofs.Eval.Handler
import Vimscript.Proofs.Operator.Arithmetic
import Vimscript.Proofs.Pattern.Literal

/-!
# Matching against a literal pattern

Patterns are used by the operators `=~` and `!~` and by `:catch`. Both ask a
matcher, and what the default one answers to a literal pattern is whether the
text contains it (`Pattern.matches?_containment`). That carries over to the
operators, where either operand may be a Number that stands for its text, and
to the clauses of a `:try`: one with a literal pattern is selected exactly if
the message contains the pattern.
-/

namespace Vimscript

/-- A text contains another one. -/
def Text.Contains (t p : String) : Prop := ∃ before after, t = before ++ p ++ after

theorem Text.contains_iff {t p : String} : Text.Contains t p ↔ p.toList <:+: t.toList := by
  constructor
  · rintro ⟨before, after, rfl⟩
    exact ⟨before.toList, after.toList, by simp⟩
  · rintro ⟨before, after, h⟩
    refine ⟨String.ofList before, String.ofList after, String.toList_injective ?_⟩
    simp [← h]

/-- What a literal pattern tells about a text is whether the text contains it. -/
theorem Pattern.matches?_containment {p : String} (hp : IsLiteral p) (t : String) :
    ∃ found, matches? p t = .ok found ∧ (found = true ↔ Text.Contains t p) := by
  obtain ⟨found, hfound, hiff⟩ := matches?_literal hp t
  exact ⟨found, hfound, hiff.trans Text.contains_iff.symm⟩

variable {p t : String} {found : Bool}

/-! ## Operators -/

/-- The operands of a comparison that regards case are used as a text and a pattern. -/
structure Heap.Matched (h : Heap) (rule : CaseRule) (a b : Ref) (t p : String) : Prop where
  text : (h.value a).toText = .ok t
  pattern : (h.value b).toText = .ok p
  regardsCase : rule.ignoresCase = false

section

variable {h : Heap} {a b : Ref} {matcher : Matcher} {rule : CaseRule}

theorem Heap.Matched.matching (hm : h.Matched rule a b t p) (hfound : matcher p t = .ok found) :
    h.matching (some matcher) rule.ignoresCase a b = .ok found := by
  rw [hm.regardsCase, Heap.matching, hm.pattern, hm.text]
  exact hfound

theorem BinaryOp.apply_compare {relation : Relation} {matcher : Option Matcher} {holds : Bool}
    (hholds : h.compares matcher relation rule a b = .ok holds) :
    ((compare relation rule).apply matcher a b).MakesNumber h (if holds then 1 else 0) := by
  have hread := Op.reading_eq (fun h => h.compares matcher relation rule a b) h
  rw [hholds] at hread
  exact Op.bind_of_ok hread

/-- The operators tell what the matcher tells, and the opposite. -/
theorem Heap.Matched.apply (hm : h.Matched rule a b t p) (hfound : matcher p t = .ok found) :
    ((BinaryOp.compare .matching rule).apply (some matcher) a b).MakesNumber h
        (if found then 1 else 0) ∧
      ((BinaryOp.compare .notMatching rule).apply (some matcher) a b).MakesNumber h
        (if found then 0 else 1) := by
  have hnot : h.compares (some matcher) .notMatching rule a b = .ok !found := by
    rw [Heap.compares, hm.matching hfound]
    rfl
  refine ⟨BinaryOp.apply_compare (hm.matching hfound), ?_⟩
  have happly := BinaryOp.apply_compare hnot
  cases found <;> exact happly

end

/-! ## Clauses -/

/-- A clause with a pattern that is not empty and not written between slashes. -/
structure Clause.Plain (k : Clause) (p : String) : Prop where
  pattern : k.pattern = .text p
  ne_empty : p ≠ ""
  unslashed : ∀ q, p ≠ "/" ++ q ++ "/"

section

variable {M : Machine} {c : Context} {setup : Setup} {s : State} {k : Clause}

/-- Such a clause is asked with its pattern as it stands. -/
theorem Clause.Plain.verdict {matcher : Matcher} (hk : k.Plain p) :
    k.verdict matcher t = matcher p t := by
  have hpattern : patternText? k.pattern = .ok (some p) := by
    rw [hk.pattern, patternText?, if_neg (by simpa using hk.ne_empty)]
  rw [Clause.verdict, hpattern]
  dsimp only
  rw [← (Bare.plain hk.unslashed).eq_barePattern]

/-- It is selected if the matcher finds the pattern in the message, and passed over if it does
not. -/
theorem findHandler_of_plain {rest : List Clause} (hk : k.Plain p)
    (hfound : setup.matcher p t = .ok found) :
    findHandler t (execClauses M c (k :: rest)) setup s =
      if found then (.ok (some (execAll M c k.body)), selected setup k t s)
      else findHandler t (execClauses M c rest) setup s := by
  rw [findHandler_cons, hk.verdict, hfound]
  cases found <;> rfl

end

/-! ## Literal patterns -/

/-- The default matcher finds a literal pattern in a text exactly if the text contains it, and so do
the operators and clauses that ask it. -/
theorem literal_pattern_tests_containment {p : String} (hp : Pattern.IsLiteral p) (t : String) :
    ∃ found, (found = true ↔ Text.Contains t p) ∧ Pattern.matches? p t = .ok found ∧
      (∀ (h : Heap) (rule : CaseRule) (a b : Ref), h.Matched rule a b t p →
        ((BinaryOp.compare .matching rule).apply (some Pattern.matches?) a b).MakesNumber h
            (if found then 1 else 0) ∧
        ((BinaryOp.compare .notMatching rule).apply (some Pattern.matches?) a b).MakesNumber h
            (if found then 0 else 1)) ∧
      ∀ (M : Machine) (c : Context) (setup : Setup) (s : State) (k : Clause) (rest : List Clause),
        setup.matcher = Pattern.matches? → k.Plain p →
        findHandler t (execClauses M c (k :: rest)) setup s =
          if found then (.ok (some (execAll M c k.body)), selected setup k t s)
          else findHandler t (execClauses M c rest) setup s := by
  obtain ⟨found, hfound, hcontains⟩ := Pattern.matches?_containment hp t
  refine ⟨found, hcontains, hfound, ?_, ?_⟩
  · intro h rule a b hmatched
    exact hmatched.apply hfound
  · intro M c setup s k rest hmatcher hk
    exact findHandler_of_plain hk (hmatcher ▸ hfound)

/-- A text and a pattern of two characters that mean something elsewhere. -/
def plusAndParen : Heap := (({} : Heap).alloc (.string "a+(b")).2.alloc (.string "+(") |>.2

/-- The pattern is found in the text, by an operator and by a clause. -/
theorem plusAndParen_found :
    Pattern.IsLiteral "+(" ∧ Pattern.matches? "+(" "a+(b" = .ok true ∧
      ((BinaryOp.compare .matching .plain).apply (some Pattern.matches?) ⟨0⟩ ⟨1⟩).MakesNumber
        plusAndParen 1 ∧
      ∀ (M : Machine) (c : Context) (setup : Setup) (s : State) (k : Clause) (rest : List Clause),
        setup.matcher = Pattern.matches? → k.pattern = .text "+(" →
        findHandler "a+(b" (execClauses M c (k :: rest)) setup s =
          (.ok (some (execAll M c k.body)), selected setup k "a+(b" s) := by
  have hp : Pattern.IsLiteral "+(" := by decide
  obtain ⟨found, hcontains, hfound, happly, hselect⟩ := literal_pattern_tests_containment hp "a+(b"
  obtain rfl : found = true := hcontains.mpr ⟨"a", "b", by decide⟩
  have hunslashed : ∀ q, "+(" ≠ "/" ++ q ++ "/" := by
    intro q hq
    have hlists := congrArg String.toList hq
    rw [toList_slashed] at hlists
    simp at hlists
  refine ⟨hp, hfound, (happly plusAndParen .plain ⟨0⟩ ⟨1⟩ ⟨rfl, rfl, rfl⟩).1, ?_⟩
  intro M c setup s k rest hmatcher hk
  exact hselect M c setup s k rest hmatcher ⟨hk, by decide, hunslashed⟩

end Vimscript
