import Vimscript.Library.Text
import Vimscript.Proofs.Eval.Storing
import Vimscript.Proofs.Pattern.Split

/-!
# `split()` and `join()`

The two functions undo each other where the separator is a literal pattern.
What a text is cut into and what the pieces make up again is settled for
texts (`Pattern.intercalate_split`, `Pattern.split_intercalate`); what is
left is that the functions read these texts from the heap and write the
results into it. Every result is new, and nothing that was there changes, so
that an argument which both calls use is the same for the second one.
-/

namespace Vimscript

/-! ## Texts in a heap -/

namespace Heap

variable {h h' : Heap} {r : Ref} {items : List Ref} {t : String} {texts : List String}

/-- What is not there counts as zero, so anything else is there, and stays. -/
theorem Kept.value_of_ne (hk : h.Kept h') (hr : h.value r ≠ .number 0) :
    h'.value r = h.value r :=
  hk.value (Nat.lt_of_not_le fun hout => hr (value_of_size_le hout))

/-- An object is used as a text. -/
structure ReadsText (h : Heap) (r : Ref) (t : String) : Prop where
  index_lt : r.index < h.size
  toText : (h.value r).toText = .ok t

/-- Objects are Strings that hold texts. -/
def AreTexts (h : Heap) (items : List Ref) (texts : List String) : Prop :=
  items.map h.value = texts.map .string

/-- An object is a List of Strings that hold texts. -/
def HasTexts (h : Heap) (l : Ref) (texts : List String) : Prop :=
  ∃ items, h.value l = .list items ∧ h.AreTexts items texts

theorem ReadsText.kept (hr : h.ReadsText r t) (hk : h.Kept h') : h'.ReadsText r t where
  index_lt := Nat.lt_of_lt_of_le hr.index_lt hk.size
  toText := by rw [hk.value hr.index_lt, hr.toText]

/-- Unlike a Number, which may be the zero that what is not there counts as, a String is there. -/
theorem readsText_of_string (hr : h.value r = .string t) : h.ReadsText r t where
  index_lt := by
    refine Nat.lt_of_not_le fun hout => ?_
    rw [value_of_size_le hout] at hr
    cases hr
  toText := by
    rw [hr]
    rfl

theorem areTexts_cons {text : String} :
    h.AreTexts (r :: items) (text :: texts) ↔
      h.value r = .string text ∧ h.AreTexts items texts := by
  simp [AreTexts]

theorem AreTexts.kept (hi : h.AreTexts items texts) (hk : h.Kept h') :
    h'.AreTexts items texts := by
  rw [AreTexts, ← hi]
  refine List.map_congr_left fun r hr => hk.value_of_ne fun hzero => ?_
  have hmem : h.value r ∈ texts.map Value.string := hi ▸ List.mem_map_of_mem hr
  rw [hzero] at hmem
  simp at hmem

theorem itemText_of_string (hr : h.value r = .string t) : h.itemText r = .ok t := by
  rw [itemText, hr]

theorem AreTexts.mapM_itemText (hi : h.AreTexts items texts) :
    items.mapM h.itemText = .ok texts := by
  induction items generalizing texts with
  | nil =>
      cases texts with
      | nil => rfl
      | cons => cases hi
  | cons r items ih =>
      cases texts with
      | nil => cases hi
      | cons text texts =>
          obtain ⟨hr, hi⟩ := areTexts_cons.mp hi
          rw [List.mapM_cons, itemText_of_string hr, ih hi]
          rfl

end Heap

/-! ## Making texts -/

namespace Op

variable {h : Heap}

/-- An operation ends with an object that satisfies `P` and has changed nothing that was there. -/
def Ends (op : Op Ref) (h : Heap) (P : Heap → Ref → Prop) : Prop :=
  ∃ r h', op h = (.ok r, h') ∧ h.Kept h' ∧ P h' r

theorem Ends.bind {op : Op Ref} {f : Ref → Op Ref} {P Q : Heap → Ref → Prop} (hop : op.Ends h P)
    (hf : ∀ r h', h.Kept h' → P h' r → (f r).Ends h' Q) : (op >>= f).Ends h Q := by
  obtain ⟨r, h', hrun, hk, hr⟩ := hop
  obtain ⟨r', h'', hrun', hk', hr'⟩ := hf r h' hk hr
  refine ⟨r', h'', ?_, Heap.kept_extending.trans hk hk', hr'⟩
  rw [bind_of_ok hrun, hrun']

theorem ends_alloc (h : Heap) (v : Value) : (alloc v).Ends h fun h' r => h'.value r = v :=
  ⟨_, _, rfl, Heap.kept_extending.alloc h v, h.value_alloc_self v⟩

theorem mapM_string (texts : List String) (h : Heap) :
    ∃ items h', texts.mapM string h = (.ok items, h') ∧ h.Kept h' ∧ h'.AreTexts items texts := by
  induction texts generalizing h with
  | nil => exact ⟨[], h, rfl, Heap.kept_extending.refl h, rfl⟩
  | cons text texts ih =>
      obtain ⟨items, h', hrun, hk, hitems⟩ := ih (h.alloc (.string text)).2
      have hnew : h'.value (h.alloc (.string text)).1 = .string text := by
        rw [hk.value_of_ne] <;> rw [h.value_alloc_self]
        nofun
      refine ⟨(h.alloc (.string text)).1 :: items, h', ?_,
        Heap.kept_extending.trans (Heap.kept_extending.alloc h _) hk,
        Heap.areTexts_cons.mpr ⟨hnew, hitems⟩⟩
      have hfirst : string text h = (.ok (h.alloc (.string text)).1, (h.alloc (.string text)).2) :=
        rfl
      rw [List.mapM_cons, bind_of_ok hfirst, bind_of_ok hrun]
      rfl

end Op

/-! ## The functions -/

namespace Library

variable {h h' : Heap} {r s l keep : Ref} {t sep : String} {pattern keepEmpty : Option Ref}
  {isKept : Bool} {e : Pattern.Expression}

/-- What `split()` is given for a pattern, if it is, comes to an expression. -/
def CutsBy (h : Heap) (pattern : Option Ref) (e : Pattern.Expression) : Prop :=
  ∃ p, Op.toTextD "" pattern h = (.ok p, h) ∧
    Pattern.compile (if p = "" then defaultSeparator else p) = .ok e

theorem split_ends (hr : h.ReadsText r t) (hp : CutsBy h pattern e)
    (hkeep : Op.toBoolD keepEmpty h = (.ok isKept, h)) :
    (split r pattern keepEmpty).Ends h fun h' l => h'.HasTexts l (Pattern.split e isKept t) := by
  obtain ⟨p, hpattern, hcompile⟩ := hp
  have hrun : split r pattern keepEmpty h =
      (do Op.list (← (Pattern.split e isKept t).mapM Op.string)) h := by
    rw [split, Op.bind_of_ok (Op.toText_eq hr.toText), Op.bind_of_ok hpattern, hcompile]
    exact Op.bind_of_ok hkeep
  obtain ⟨items, h', hmap, hk, htexts⟩ := Op.mapM_string (Pattern.split e isKept t) h
  obtain ⟨l, h'', halloc, hk', hl⟩ := Op.ends_alloc h' (.list items)
  refine ⟨l, h'', ?_, Heap.kept_extending.trans hk hk', items, hl, htexts.kept hk'⟩
  rw [hrun, Op.bind_of_ok hmap]
  exact halloc

theorem join_ends {texts : List String} (hl : h.HasTexts l texts) (hs : h.ReadsText s sep) :
    (join l (some s)).Ends h fun h' j => h'.value j = .string (sep.intercalate texts) := by
  obtain ⟨items, hitems, htexts⟩ := hl
  have hrun : join l (some s) h = Op.string (sep.intercalate texts) h := by
    have hread := Op.reading_eq (fun h => items.mapM h.itemText) h
    rw [htexts.mapM_itemText] at hread
    rw [join, Op.bind_of_ok (Op.value_eq l h), hitems]
    dsimp only
    rw [Op.toTextD, Op.bind_of_ok (Op.toText_eq hs.toText), Op.bind_of_ok hread]
  obtain ⟨j, h', halloc, hk, hj⟩ := Op.ends_alloc h (.string (sep.intercalate texts))
  exact ⟨j, h', hrun.trans halloc, hk, hj⟩

/-! ## Literal separators -/

/-- A literal separator, and an argument that asks `split()` to keep empty pieces. -/
structure LiteralCut (h : Heap) (sep : String) (s keep : Ref) : Prop where
  literal : Pattern.IsLiteral sep
  ne_empty : sep ≠ ""
  separator : h.ReadsText s sep
  keeps : (h.value keep).toBool = .ok true

theorem LiteralCut.kept (ha : LiteralCut h sep s keep) (hk : h.Kept h') :
    LiteralCut h' sep s keep where
  literal := ha.literal
  ne_empty := ha.ne_empty
  separator := ha.separator.kept hk
  keeps := by
    rw [hk.value_of_ne, ha.keeps]
    -- What is not there would not count as true.
    intro hzero
    have hkeeps := ha.keeps
    rw [hzero] at hkeeps
    cases hkeeps

theorem LiteralCut.cutsBy (ha : LiteralCut h sep s keep) :
    CutsBy h (some s) (.ofWord sep.toList) := by
  refine ⟨sep, Op.toText_eq ha.separator.toText, ?_⟩
  rw [if_neg ha.ne_empty]
  exact Pattern.compile_literal ha.literal

theorem toBoolD_keeps (hkeep : (h.value keep).toBool = .ok true) :
    Op.toBoolD (some keep) h = (.ok true, h) := by
  rw [Op.toBoolD, Op.toBool, Op.bind_of_ok (Op.value_eq keep h), hkeep]
  rfl

theorem LiteralCut.split_ends (ha : LiteralCut h sep s keep) (hr : h.ReadsText r t) :
    (split r (some s) (some keep)).Ends h
      fun h' l => h'.HasTexts l (Pattern.split (.ofWord sep.toList) true t) :=
  Library.split_ends hr ha.cutsBy (toBoolD_keeps ha.keeps)

/-- With a literal separator, a text is cut where it occurs and put together again. With one of a
single character, texts without it that are put together are cut again. Without keeping empty
pieces the result, whatever the pattern, is the same but for one at either end. -/
theorem split_join_inverse {h : Heap} {sep : String} {s keep : Ref}
    (ha : LiteralCut h sep s keep) :
    (∀ r t, h.ReadsText r t →
      (∃ pieces, Pattern.CutAt sep.toList t.toList (pieces.map String.toList) ∧
        (split r (some s) (some keep)).Ends h fun h' l => h'.HasTexts l pieces) ∧
      (do join (← split r (some s) (some keep)) (some s) : Op Ref).Ends h
        fun h' j => h'.value j = .string t) ∧
    (∀ c l parts, sep = String.singleton c → h.HasTexts l parts → parts ≠ [] →
      (∀ p ∈ parts, c ∉ p.toList) →
      (do split (← join l (some s)) (some s) (some keep) : Op Ref).Ends h
        fun h' l' => h'.HasTexts l' parts) ∧
    (∃ e, CutsBy h (some s) e) ∧
    ∀ r t pattern e dropping, h.ReadsText r t → CutsBy h pattern e →
      Op.toBoolD dropping h = (.ok false, h) →
      ∃ pieces rest, Pattern.EndsDropped "" pieces rest ∧
        (split r pattern (some keep)).Ends h (fun h' l => h'.HasTexts l pieces) ∧
        (split r pattern dropping).Ends h fun h' l => h'.HasTexts l rest := by
  refine ⟨?_, ?_, ⟨_, ha.cutsBy⟩, ?_⟩
  · intro r t hr
    refine ⟨⟨_, Pattern.cutAt_split ha.ne_empty t, ha.split_ends hr⟩, ?_⟩
    refine (ha.split_ends hr).bind fun l h' hk hl => ?_
    have hjoin := join_ends hl (ha.kept hk).separator
    rw [Pattern.intercalate_split ha.ne_empty] at hjoin
    exact hjoin
  · rintro c l parts rfl hl hparts hc
    refine (join_ends hl ha.separator).bind fun j h' hk hj => ?_
    have hsplit := (ha.kept hk).split_ends (Heap.readsText_of_string hj)
    rw [String.toList_singleton, Pattern.split_intercalate hparts hc] at hsplit
    exact hsplit
  · intro r t pattern e dropping hr hp hdropping
    exact ⟨_, _, Pattern.split_drops_ends e t, split_ends hr hp (toBoolD_keeps ha.keeps),
      split_ends hr hp hdropping⟩

/-- A comma, a Number, a text with commas at both ends of it, and a List of two Strings. -/
def commas : Heap where
  cells := #[{ value := .string "," }, { value := .number 1 }, { value := .string ",a,," },
    { value := .string "x" }, { value := .string "" }, { value := .list [⟨3⟩, ⟨4⟩] }]

/-- The text is cut and put together, the Strings are put together and cut. -/
theorem commas_cut_and_joined : LiteralCut commas "," ⟨0⟩ ⟨1⟩ ∧
    (do join (← split ⟨2⟩ (some ⟨0⟩) (some ⟨1⟩)) (some ⟨0⟩) : Op Ref).Ends commas
      (fun h' j => h'.value j = .string ",a,,") ∧
    (do split (← join ⟨5⟩ (some ⟨0⟩)) (some ⟨0⟩) (some ⟨1⟩) : Op Ref).Ends commas
      (fun h' l' => h'.HasTexts l' ["x", ""]) ∧
    ∃ pieces rest, Pattern.EndsDropped "" pieces rest ∧
      (split ⟨2⟩ (some ⟨0⟩) (some ⟨1⟩)).Ends commas (fun h' l => h'.HasTexts l pieces) ∧
      (split ⟨2⟩ (some ⟨0⟩) none).Ends commas fun h' l => h'.HasTexts l rest := by
  have ha : LiteralCut commas "," ⟨0⟩ ⟨1⟩ :=
    ⟨by decide, by decide, ⟨by decide, rfl⟩, rfl⟩
  obtain ⟨hcut, hjoined, ⟨e, hpattern⟩, hdropping⟩ := split_join_inverse ha
  refine ⟨ha, (hcut ⟨2⟩ ",a,," ⟨by decide, rfl⟩).2, ?_, ?_⟩
  · exact hjoined ',' ⟨5⟩ ["x", ""] rfl ⟨_, rfl, rfl⟩ (by decide) (by decide)
  · exact hdropping ⟨2⟩ ",a,," _ e none ⟨by decide, rfl⟩ hpattern rfl

end Library

end Vimscript
