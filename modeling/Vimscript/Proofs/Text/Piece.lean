/-!
# Pieces of a text

A text is often read piece by piece: a run of one class of characters ends
where a character of another class stands (`StopsAt`), and what was joined
with a separator is the first piece followed by the others, each after the
separator (`joined`).
-/

namespace Vimscript.Text

/-! ## Runs -/

/-- Where a text stops, no character of a class follows. -/
def StopsAt (p : Char → Bool) (rest : List Char) : Prop := ∀ c ∈ rest.head?, p c = false

variable {p : Char → Bool} {run run' rest rest' : List Char}

theorem stopsAt_cons {c : Char} : StopsAt p (c :: rest) ↔ p c = false := by
  simp [StopsAt]

theorem takeWhile_append_rest (hrun : ∀ c ∈ run, p c = true) (hrest : StopsAt p rest) :
    (run ++ rest).takeWhile p = run := by
  rw [List.takeWhile_append_of_pos hrun]
  cases rest with
  | nil => simp
  | cons c rest => simp [stopsAt_cons.mp hrest]

theorem dropWhile_append_rest (hrun : ∀ c ∈ run, p c = true) (hrest : StopsAt p rest) :
    (run ++ rest).dropWhile p = rest := by
  rw [List.dropWhile_append_of_pos hrun]
  cases rest with
  | nil => rfl
  | cons c rest => simp [stopsAt_cons.mp hrest]

/-- Two runs of one class of characters that are continued to the same whole are the same. -/
theorem run_append (hrun : ∀ c ∈ run, p c = true) (hrun' : ∀ c ∈ run', p c = true)
    (hrest : StopsAt p rest) (hrest' : StopsAt p rest') (h : run ++ rest = run' ++ rest') :
    run = run' ∧ rest = rest' := by
  constructor
  · rw [← takeWhile_append_rest hrun hrest, h, takeWhile_append_rest hrun' hrest']
  · rw [← dropWhile_append_rest hrun hrest, h, dropWhile_append_rest hrun' hrest']

/-! ## Joined texts -/

/-- What follows the first of some texts that are joined. -/
def joined (separator : String) (texts : List String) : List Char :=
  texts.flatMap fun s => separator.toList ++ s.toList

theorem joined_cons (separator s : String) (texts : List String) :
    joined separator (s :: texts) = separator.toList ++ (s.toList ++ joined separator texts) := by
  rw [joined, List.flatMap_cons, List.append_assoc]
  rfl

theorem toList_intercalate_cons (separator s : String) (texts : List String) :
    (separator.intercalate (s :: texts)).toList = s.toList ++ joined separator texts := by
  induction texts generalizing s with
  | nil => simp [joined]
  | cons t texts ih =>
      rw [String.intercalate_cons_cons, String.toList_append, String.toList_append, ih,
        joined_cons, List.append_assoc]

end Vimscript.Text
