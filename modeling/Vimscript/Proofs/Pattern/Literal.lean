import Vimscript.Pattern.Basic

/-!
# Literal patterns

A pattern in which no character has a meaning (`IsLiteral`) matches what it
is. The way there is long, since a pattern is not matched as it stands: it is
turned into a regular expression, in which other characters have a meaning
and are escaped (`regularFrom_literal`); the expression is read again, where
each character, escaped or not, comes to one item (`readSeq_literal`); the
items make up the `word` of the pattern (`compile_literal`), and a word
matches exactly where the text goes on with it (`matcher_word`).

Searching then is looking for a part of a text. The pattern is found if and
only if it is one (`matches?_literal`).
-/

namespace Vimscript.Pattern

/-! ## Literal patterns -/

/-- A character that means something in a search pattern without a backslash before it, or is the
backslash. -/
def isSpecial (c : Char) : Bool := ['\\', '.', '*', '[', '^', '$'].contains c

/-- A pattern in which no character has a meaning. -/
def IsLiteral (p : String) : Prop := ∀ c ∈ p.toList, isSpecial c = false

instance (p : String) : Decidable (IsLiteral p) :=
  List.decidableBAll (fun c => isSpecial c = false) p.toList

variable {c : Char} {cs rest : List Char}

theorem isSpecial_eq_false_iff : isSpecial c = false ↔
    c ≠ '\\' ∧ c ≠ '.' ∧ c ≠ '*' ∧ c ≠ '[' ∧ c ≠ '^' ∧ c ≠ '$' := by
  simp [isSpecial]

theorem isPlainOperator_iff : isPlainOperator c = true ↔
    c = '(' ∨ c = ')' ∨ c = '|' ∨ c = '+' ∨ c = '?' ∨ c = '\x7b' ∨ c = '\x7d' := by
  simp [isPlainOperator]

theorem regularFrom_literal (hcs : ∀ c ∈ cs, isSpecial c = false) :
    regularFrom none false cs = some ⟨cs.flatMap plain, false⟩ := by
  induction cs with
  | nil => rfl
  | cons c cs ih =>
      obtain ⟨hc, -⟩ := isSpecial_eq_false_iff.mp (hcs c List.mem_cons_self)
      rw [regularFrom, ih fun d hd => hcs d (List.mem_cons_of_mem c hd)]
      · rfl
      · exact fun _ _ h => absurd h hc

/-! ## Reading -/

theorem startsOctal_cons (hc : Number.isOctal c = false) : startsOctal (c :: rest) = false := by
  unfold startsOctal
  split
  · rename_i heq
    cases heq
    rw [List.all_cons, hc, Bool.false_and]
  · rfl

/-- Behind a backslash, an operator stands for itself. -/
theorem readEscape_operator (o : Options) (s : Seen) (hc : isPlainOperator c = true) :
    readEscape o s c rest = .ok (o.literal c, rest) := by
  have hoctal : startsOctal (c :: rest) = false := by
    apply startsOctal_cons
    rcases isPlainOperator_iff.mp hc with rfl | rfl | rfl | rfl | rfl | rfl | rfl <;> decide
  rcases isPlainOperator_iff.mp hc with rfl | rfl | rfl | rfl | rfl | rfl | rfl <;>
    simp [readEscape, classItem?, controlChar?, hoctal] <;> rfl

/-- A character without a meaning, neither in a pattern nor in a regular expression, is an item. -/
theorem readSeq_ordinary (fuel : Nat) (s : Seen) (items : List Item) (hc : isSpecial c = false)
    (hoperator : ¬isPlainOperator c = true) :
    readSeq (fuel + 1) {} s items (c :: rest) =
      readSeq fuel {} s (.single (.char .exact false c) :: items) rest := by
  obtain ⟨hbackslash, hdot, hstar, hbracket, hcaret, hdollar⟩ := isSpecial_eq_false_iff.mp hc
  rw [isPlainOperator_iff] at hoperator
  simp only [not_or] at hoperator
  obtain ⟨hopen, hclose, hbar, hplus, hquestion, hbrace, -⟩ := hoperator
  have hbounds : readBounds? (c :: rest) = .ok none := by
    rw [readBounds?] <;> rintro rest' ⟨⟩ <;> contradiction
  have hitem : bareItem {} c = .char .exact false c := by
    rw [bareItem] <;> first | assumption | rfl
  rw [readSeq, hbounds, hitem]
  · rfl
  all_goals simp_all

/-- A character of a literal pattern is an item, whether it has to be escaped or not. -/
theorem readSeq_plain (fuel : Nat) (s : Seen) (items : List Item) (hc : isSpecial c = false) :
    readSeq (fuel + 1) {} s items (plain c ++ rest) =
      readSeq fuel {} s (.single (.char .exact false c) :: items) rest := by
  by_cases hoperator : isPlainOperator c = true
  · rw [plain, if_pos hoperator, List.cons_append, List.cons_append, List.nil_append, readSeq,
      readEscape_operator _ _ hoperator]
    rfl
  · rw [plain, if_neg hoperator, List.cons_append, List.nil_append,
      readSeq_ordinary fuel s items hc hoperator]

/-- The expression that matches the characters of a word one after the other. -/
def word (w : List Char) : Regex := sequence (w.map (.char .exact false))

theorem readSeq_literal {fuel : Nat} {s : Seen} {items : List Item} (hfuel : cs.length < fuel)
    (hcs : ∀ c ∈ cs, isSpecial c = false) :
    readSeq fuel {} s items (cs.flatMap plain) =
      .ok (items.reverse.flatMap Item.parts ++ cs.map (.char .exact false), s, []) := by
  induction cs generalizing fuel items with
  | nil =>
      cases fuel with
      | zero => cases hfuel
      | succ fuel => simp [readSeq]
  | cons c cs ih =>
      cases fuel with
      | zero => cases hfuel
      | succ fuel =>
          rw [List.flatMap_cons, readSeq_plain fuel s items (hcs c List.mem_cons_self),
            ih (Nat.lt_of_succ_lt_succ hfuel) fun d hd => hcs d (List.mem_cons_of_mem c hd)]
          simp [Item.parts]

theorem head?_plain (hc : isSpecial c = false) : (plain c ++ rest).head? ≠ some '(' := by
  by_cases hoperator : isPlainOperator c = true
  · rw [plain, if_pos hoperator]
    nofun
  · rw [plain, if_neg hoperator]
    rintro ⟨⟩
    exact hoperator (by decide)

/-- Nothing in a literal pattern sets options for the whole expression. -/
theorem readHeader_literal (fuel : Nat) (hcs : ∀ c ∈ cs, isSpecial c = false) :
    readHeader fuel [] (cs.flatMap plain) = ([], cs.flatMap plain) := by
  have hopen : (cs.flatMap plain).head? ≠ some '(' := by
    cases cs with
    | nil => nofun
    | cons c cs => exact head?_plain (hcs c List.mem_cons_self)
  generalize cs.flatMap plain = body at hopen ⊢
  cases fuel with
  | zero => rfl
  | succ fuel =>
      unfold readHeader
      split
      · exact absurd rfl hopen
      · exact absurd rfl hopen
      · rfl
      · rfl

theorem length_le_flatMap_plain (cs : List Char) : cs.length ≤ (cs.flatMap plain).length := by
  induction cs with
  | nil => exact Nat.le_refl _
  | cons c cs ih =>
      have hone : 1 ≤ (plain c).length := by
        unfold plain
        split <;> simp
      rw [List.flatMap_cons, List.length_append, List.length_cons]
      omega

/-- Where a word matches is looked for at every place. -/
theorem lead?_word (w : List Char) (ascii : Bool) : (word w).lead? ascii = none := by
  match w with
  | [] | [_] | _ :: _ :: _ => rfl

theorem parse_literal (hcs : ∀ c ∈ cs, isSpecial c = false) :
    parse false (cs.flatMap plain) = .ok { regex := word cs, lead := none } := by
  have hfuel : cs.length < 3 * (cs.flatMap plain).length + 2 := by
    have := length_le_flatMap_plain cs
    omega
  have hoptions : ({ ignoreCase := false } : Options).change [] [] = {} := rfl
  have halts : readAlts (3 * (cs.flatMap plain).length + 3) {} {} (cs.flatMap plain) =
      .ok ((cs.map (.char .exact false), []), {}, []) := by
    rw [readAlts, readSeq_literal hfuel hcs]
    rfl
  have hjoined : alternatives ({} : Options).fold (cs.map (.char .exact false)) [] =
      cs.map (.char .exact false) := by
    cases cs <;> rfl
  rw [parse, readHeader_literal _ hcs]
  dsimp only
  rw [hoptions, halts]
  change Except.ok
    { regex := sequence (alternatives ({} : Options).fold (cs.map (.char .exact false)) []),
      lead := if _ then none else Regex.lead? _ _ : Expression } = _
  rw [hjoined, ← word, lead?_word, ite_self]

/-- A literal pattern is compiled to the word that it is. -/
theorem compile_literal {p : String} (hp : IsLiteral p) :
    compile p = .ok { regex := word p.toList, lead := none } := by
  rw [compile, regular?, regularFrom_literal hp]
  dsimp only
  rw [parse_literal hp]
  rfl

/-! ## Matching -/

/-- Moves over `n` characters. -/
def Cursor.skip : Nat → Cursor → Cursor
  | 0, c => c
  | n + 1, c => Cursor.skip n c.advance

theorem Cursor.advance_eq {c : Cursor} {x : Char} (hc : c.after = x :: rest) :
    c.advance = { c with before := x :: c.before, after := rest, left := c.left - 1 } := by
  rw [Cursor.advance, hc]

theorem Cursor.after_skip (n : Nat) (c : Cursor) : (c.skip n).after = c.after.drop n := by
  induction n generalizing c with
  | zero => rfl
  | succ n ih =>
      rw [Cursor.skip, ih]
      cases hc : c.after with
      | nil => rw [Cursor.advance, hc, hc, List.drop_nil, List.drop_nil]
      | cons x rest => rw [Cursor.advance_eq hc, List.drop_succ_cons]

theorem Cursor.left_skip {n : Nat} {c : Cursor} (hn : n ≤ c.after.length) :
    (c.skip n).left = c.left - n := by
  induction n generalizing c with
  | zero => rfl
  | succ n ih =>
      cases hc : c.after with
      | nil =>
          rw [hc] at hn
          cases hn
      | cons x rest =>
          rw [hc, List.length_cons] at hn
          have hrest : n ≤ c.advance.after.length := by
            rw [Cursor.advance_eq hc]
            exact Nat.le_of_succ_le_succ hn
          rw [Cursor.skip, ih hrest, Cursor.advance_eq hc, Nat.sub_sub, Nat.add_comm 1 n]

theorem matcher_word_cons (x : Char) (w : List Char) (c : Cursor) (k : Cursor → Option Cursor) :
    (word (x :: w)).matcher c k =
      matchChar (fun y => Fold.exact.same x y != false) c fun d => (word w).matcher d k := by
  cases w <;> rfl

/-- A word matches where the text goes on with it. -/
theorem matcher_word (w : List Char) (c : Cursor) (k : Cursor → Option Cursor) :
    (word w).matcher c k = if w <+: c.after then k (c.skip w.length) else none := by
  induction w generalizing c with
  | nil =>
      rw [if_pos List.nil_prefix]
      rfl
  | cons x w ih =>
      have hsame : ∀ y, (Fold.exact.same x y != false) = decide (x = y) := fun y => by
        simp [Fold.same, Fold.lower]
        rfl
      rw [matcher_word_cons, matchChar]
      cases hc : c.after with
      | nil => simp
      | cons y rest =>
          have hafter : c.advance.after = rest := by rw [Cursor.advance_eq hc]
          simp only [hsame, decide_eq_true_eq, ih, hafter, List.cons_prefix_cons]
          by_cases hxy : x = y <;> by_cases hw : w <+: rest <;> simp [hxy, hw, Cursor.skip]

/-! ## Searching -/

variable {w text pre post : List Char}

theorem matchHere_word (w : List Char) (advance : Bool) (c : Cursor) :
    (word w).matchHere advance c =
      if w <+: c.after then
        if advance && (c.skip w.length).left == c.left then none else some (c.skip w.length)
      else none := by
  rw [Regex.matchHere, matcher_word]

/-- The expression that looks for a word. -/
def Expression.ofWord (w : List Char) : Expression := { regex := word w, lead := none }

theorem searchFrom_word (w : List Char) (advance : Bool) (before after : List Char) (left : Nat) :
    (Expression.ofWord w).searchFrom advance before after left =
      match (word w).matchHere advance { before, after, left } with
      | some last => some ({ before, after, left }, last)
      | none =>
        match after with
        | [] => none
        | x :: rest => (Expression.ofWord w).searchFrom false (x :: before) rest (left - 1) := by
  rw [Expression.searchFrom.eq_def]
  rfl

/-- A word is found exactly if it is a part of the text. -/
theorem isSome_searchFrom_word (w before after : List Char) (left : Nat) :
    ((Expression.ofWord w).searchFrom false before after left).isSome = true ↔ w <:+: after := by
  induction after generalizing before left with
  | nil =>
      rw [searchFrom_word, matchHere_word]
      by_cases hw : w = [] <;> simp [hw]
  | cons x rest ih =>
      rw [searchFrom_word, matchHere_word, List.infix_cons_iff, ← ih (x :: before) (left - 1)]
      by_cases hw : w <+: x :: rest <;> simp [hw]

/-- A literal pattern matches a text exactly if it is a part of it. -/
theorem matches?_literal {p : String} (hp : IsLiteral p) (t : String) :
    ∃ found, matches? p t = .ok found ∧ (found = true ↔ p.toList <:+: t.toList) := by
  refine ⟨_, ?_, isSome_searchFrom_word p.toList [] t.toList t.toList.length⟩
  rw [matches?, compile_literal hp]
  rfl

end Vimscript.Pattern
