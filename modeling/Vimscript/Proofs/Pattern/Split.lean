import Vimscript.Proofs.Pattern.Literal

/-!
# Cutting a text at a word

Cutting a text means to look for the word, to set aside what is before it,
and to go on behind it with what is left; `CutAt` says that of the text
alone, without places or offsets. The search for the expression of a word
finds the first place where the text goes on with it
(`searchFrom_word_cases`), and from one match to the next the offsets of the
matches cut off exactly the pieces in between (`cutAt_spansFrom`). An empty
match, which does not end a piece, does not occur.

What was cut is put together again by writing the word between the pieces
(`CutAt.intercalate`). In the other direction this holds for a word of one
character, where a text cannot be cut in any other way than between the
pieces it was put together from (`CutAt.eq_splitOn`).
-/

namespace Vimscript.Pattern

variable {w text piece rest : List Char} {ps : List (List Char)}

/-! ## The pieces -/

/-- A text goes on with a word behind `piece`, and nowhere before that; `rest` is what comes
next. -/
structure FirstCut (w text piece rest : List Char) : Prop where
  eq : text = piece ++ w ++ rest
  first : ∀ n < piece.length, ¬w <+: text.drop n

/-- The pieces of a text between the occurrences of a word, each of them the first one in what the
ones before it have left. -/
inductive CutAt (w : List Char) : List Char → List (List Char) → Prop where
  | whole {text : List Char} : ¬w <:+: text → CutAt w text [text]
  | next {text piece rest : List Char} {ps : List (List Char)} :
      FirstCut w text piece rest → CutAt w rest ps → CutAt w text (piece :: ps)

theorem FirstCut.here (h : w <+: text) : FirstCut w text [] (text.drop w.length) where
  eq := by
    rw [List.nil_append]
    exact (List.prefix_iff_eq_append.mp h).symm
  first := nofun

theorem FirstCut.cons {x : Char} (hx : ¬w <+: x :: text) (h : FirstCut w text piece rest) :
    FirstCut w (x :: text) (x :: piece) rest where
  eq := by
    rw [h.eq]
    rfl
  first n hn := by
    cases n with
    | zero => exact hx
    | succ n => exact h.first n (Nat.lt_of_succ_lt_succ hn)

theorem CutAt.ne_nil (h : CutAt w text ps) : ps ≠ [] := by
  cases h <;> nofun

/-- Nothing is lost, and nothing but the word is left out. -/
theorem CutAt.intercalate (h : CutAt w text ps) : w.intercalate ps = text := by
  induction h with
  | whole => exact List.intercalate_singleton
  | @next text piece rest ps hcut hrest ih =>
      obtain ⟨p, ps, rfl⟩ := List.exists_cons_of_ne_nil hrest.ne_nil
      rw [List.intercalate_cons_cons, ih, hcut.eq]

theorem FirstCut.not_mem {c : Char} (h : FirstCut [c] text piece rest) : c ∉ piece := by
  intro hc
  obtain ⟨before, after, rfl⟩ := List.append_of_mem hc
  refine h.first before.length (by simp) ⟨after ++ [c] ++ rest, ?_⟩
  rw [h.eq]
  simp

theorem not_mem_of_not_isInfix {c : Char} (h : ¬[c] <:+: text) : c ∉ text := by
  intro hc
  obtain ⟨before, after, rfl⟩ := List.append_of_mem hc
  exact h ⟨before, after, by simp⟩

/-- A text can be cut at a character in one way only. -/
theorem CutAt.eq_splitOn {c : Char} (h : CutAt [c] text ps) : ps = text.splitOn c := by
  induction h with
  | whole hno => rw [List.splitOn_eq_singleton (not_mem_of_not_isInfix hno)]
  | @next text piece rest ps hcut _ ih =>
      rw [hcut.eq, List.append_assoc, List.singleton_append,
        List.splitOn_append_cons_self_of_not_mem hcut.not_mem, ih]

/-! ## The search -/

theorem matchHere_of_ne_nil (hw : w ≠ []) (advance : Bool) (before text : List Char) :
    (word w).matchHere advance { before, after := text, left := text.length } =
      if w <+: text then some (Cursor.skip w.length { before, after := text, left := text.length })
      else none := by
  rw [matchHere_word]
  split
  · rename_i hpre
    have hmoved : (Cursor.skip w.length { before, after := text, left := text.length }).left ≠
        text.length := by
      have hpos := List.length_pos_iff.mpr hw
      have hlength := hpre.length_le
      rw [Cursor.left_skip hlength]
      dsimp only at hlength ⊢
      omega
    rw [beq_false_of_ne hmoved, Bool.and_false]
    rfl
  · rfl

/-- A search for a word ends without a result where the text does not contain it, and else at its
first occurrence. -/
theorem searchFrom_word_cases (hw : w ≠ []) (advance : Bool) (before text : List Char) :
    ((Expression.ofWord w).searchFrom advance before text text.length = none ∧ ¬w <:+: text) ∨
    ∃ piece rest first last,
      (Expression.ofWord w).searchFrom advance before text text.length = some (first, last) ∧
      FirstCut w text piece rest ∧ first.left = w.length + rest.length ∧
      last.after = rest ∧ last.left = rest.length := by
  induction text generalizing advance before with
  | nil =>
      have hno : ¬w <+: [] := fun h => hw (List.prefix_nil.mp h)
      refine .inl ⟨?_, fun h => hw (List.infix_nil.mp h)⟩
      rw [searchFrom_word, matchHere_of_ne_nil hw, if_neg hno]
  | cons x text ih =>
      rw [searchFrom_word, matchHere_of_ne_nil hw]
      by_cases hpre : w <+: x :: text
      · rw [if_pos hpre]
        refine .inr ⟨[], _, _, _, rfl, .here hpre, ?_, Cursor.after_skip _ _, ?_⟩
        · have := hpre.length_le
          rw [List.length_drop]
          dsimp only
          omega
        · rw [Cursor.left_skip hpre.length_le, List.length_drop]
      · rw [if_neg hpre]
        rcases ih false (x :: before) with
          ⟨hnone, hno⟩ | ⟨piece, rest, first, last, hfound, hcut, h⟩
        · exact .inl ⟨hnone, fun h => (List.infix_cons_iff.mp h).elim hpre hno⟩
        · exact .inr ⟨x :: piece, rest, first, last, hfound, hcut.cons hpre, h⟩

/-- The offsets of the matches, counted from the beginning of a text of `size` characters, cut what
is ahead of a place at the word. -/
theorem cutAt_spansFrom (hw : w ≠ []) (size fuel : Nat) (advance : Bool) {c : Cursor}
    (hleft : c.left = c.after.length) (hsize : c.left ≤ size) (hfuel : c.left < fuel) :
    CutAt w c.after
      (pieces c.after (size - c.left) ((Expression.ofWord w).spansFrom size fuel advance c)) := by
  induction fuel generalizing advance c with
  | zero => exact absurd hfuel (Nat.not_lt_zero _)
  | succ fuel ih =>
      rw [Expression.spansFrom, hleft]
      rcases searchFrom_word_cases hw advance c.before c.after with
        ⟨hnone, hno⟩ | ⟨piece, rest, first, last, hfound, hcut, hfirst, hafter, hlast⟩
      · rw [hnone]
        exact .whole hno
      · have hpos := List.length_pos_iff.mpr hw
        have hlength : c.after.length = piece.length + w.length + rest.length := by
          rw [hcut.eq, List.length_append, List.length_append]
        have hnext := ih (first.left == last.left) (c := last) (by rw [hlast, hafter])
          (by omega) (by omega)
        -- Offsets count from the beginning of the text, the lengths of pieces from where they are.
        have htake : c.after.take (size - first.left - (size - c.after.length)) = piece := by
          have hn : size - first.left - (size - c.after.length) = piece.length := by omega
          rw [hn, hcut.eq, List.append_assoc, List.take_left]
        have hdrop : c.after.drop (size - last.left - (size - c.after.length)) = rest := by
          have hn : size - last.left - (size - c.after.length) = (piece ++ w).length := by
            rw [List.length_append]
            omega
          rw [hn, hcut.eq, List.drop_left]
        rw [hfound]
        dsimp only
        rw [pieces, if_neg (by omega), htake, hdrop]
        rw [hafter] at hnext
        exact .next hcut hnext

/-- What is between the matches of a word is a text cut at the word. -/
theorem cutAt_pieces (hw : w ≠ []) (text : List Char) :
    CutAt w text (pieces text 0 ((Expression.ofWord w).spans text)) := by
  have hcut := cutAt_spansFrom hw text.length (2 * text.length + 3) false
    (c := Cursor.ofText text) rfl (Nat.le_refl _) (by dsimp only [Cursor.ofText]; omega)
  rw [Cursor.ofText, Nat.sub_self] at hcut
  exact hcut

/-! ## The ends -/

section

variable {α β : Type}

/-- A blank item at the beginning is dropped, if there is one. -/
inductive HeadDropped (blank : α) : List α → List α → Prop where
  | blank (items : List α) : HeadDropped blank (blank :: items) items
  | kept {items : List α} : items.head? ≠ some blank → HeadDropped blank items items

/-- A blank item at the end is dropped, if there is one. -/
inductive LastDropped (blank : α) : List α → List α → Prop where
  | blank (items : List α) : LastDropped blank (items ++ [blank]) items
  | kept {items : List α} : items.getLast? ≠ some blank → LastDropped blank items items

/-- One blank item is dropped at either end, where there is one. -/
def EndsDropped (blank : α) (items rest : List α) : Prop :=
  ∃ middle, HeadDropped blank items middle ∧ LastDropped blank middle rest

variable {f : α → β} {blank : α} {items rest : List α}

theorem HeadDropped.map (hf : f.Injective) (h : HeadDropped blank items rest) :
    HeadDropped (f blank) (items.map f) (rest.map f) := by
  cases h with
  | blank => exact .blank _
  | kept hne =>
      refine .kept fun hsome => hne ?_
      rw [List.head?_map] at hsome
      obtain ⟨x, hx, hblank⟩ := Option.map_eq_some_iff.mp hsome
      rw [hx, hf hblank]

theorem LastDropped.map (hf : f.Injective) (h : LastDropped blank items rest) :
    LastDropped (f blank) (items.map f) (rest.map f) := by
  cases h with
  | blank =>
      rw [List.map_append]
      exact .blank _
  | kept hne =>
      refine .kept fun hsome => hne ?_
      rw [List.getLast?_map] at hsome
      obtain ⟨x, hx, hblank⟩ := Option.map_eq_some_iff.mp hsome
      rw [hx, hf hblank]

theorem EndsDropped.map (hf : f.Injective) (h : EndsDropped blank items rest) :
    EndsDropped (f blank) (items.map f) (rest.map f) := by
  obtain ⟨middle, hhead, hlast⟩ := h
  exact ⟨middle.map f, hhead.map hf, hlast.map hf⟩

end

theorem endsDropped_dropEmptyEnds (ps : List (List Char)) :
    EndsDropped [] ps (dropEmptyEnds ps) := by
  have hlast (ps : List (List Char)) :
      LastDropped [] ps (if ps.getLast? == some [] then ps.dropLast else ps) := by
    split
    · rename_i hblank
      obtain ⟨before, rfl⟩ := List.getLast?_eq_some_iff.mp (eq_of_beq hblank)
      rw [List.dropLast_concat]
      exact .blank before
    · rename_i hne
      exact .kept fun h => hne (beq_iff_eq.mpr h)
  match ps with
  | [] :: ps => exact ⟨ps, .blank ps, hlast ps⟩
  | [] => exact ⟨[], .kept nofun, hlast []⟩
  | (c :: cs) :: ps => exact ⟨(c :: cs) :: ps, .kept nofun, hlast _⟩

/-! ## Splitting -/

theorem split_true (e : Expression) (t : String) :
    split e true t = (pieces t.toList 0 (e.spans t.toList)).map String.ofList := rfl

/-- Unless empty pieces are kept, one is dropped at either end, whatever a text is cut at. -/
theorem split_drops_ends (e : Expression) (t : String) :
    EndsDropped "" (split e true t) (split e false t) :=
  (endsDropped_dropEmptyEnds _).map fun _ _ => String.ofList_inj.mp

/-- With empty pieces kept, a text is cut at the word. -/
theorem cutAt_split {sep : String} (hsep : sep ≠ "") (t : String) :
    CutAt sep.toList t.toList ((split (.ofWord sep.toList) true t).map String.toList) := by
  have hw : sep.toList ≠ [] := fun h => hsep (String.toList_eq_nil_iff.mp h)
  rw [split_true, List.map_map, String.toList_comp_ofList, List.map_id]
  exact cutAt_pieces hw t.toList

/-- A text cut at a word is put together again with the word between the pieces. -/
theorem intercalate_split {sep : String} (hsep : sep ≠ "") (t : String) :
    sep.intercalate (split (.ofWord sep.toList) true t) = t := by
  rw [← String.toList_inj, String.toList_intercalate]
  exact (cutAt_split hsep t).intercalate

/-- Texts without a character, put together with the character between them, are what the result is
cut into. -/
theorem split_intercalate {c : Char} {parts : List String} (hparts : parts ≠ [])
    (hc : ∀ p ∈ parts, c ∉ p.toList) :
    split (.ofWord [c]) true ((String.singleton c).intercalate parts) = parts := by
  have hsep : String.singleton c ≠ "" := fun h => by simpa using congrArg String.toList h
  have hcut := cutAt_split hsep ((String.singleton c).intercalate parts)
  rw [String.toList_intercalate, String.toList_singleton] at hcut
  have htexts : ∀ cs ∈ parts.map String.toList, c ∉ cs := by
    simpa using hc
  have hpieces := hcut.eq_splitOn
  rw [List.splitOn_intercalate c htexts (by simpa using hparts)] at hpieces
  exact (List.map_inj_right fun _ _ => String.toList_inj.mp).mp hpieces

end Vimscript.Pattern
