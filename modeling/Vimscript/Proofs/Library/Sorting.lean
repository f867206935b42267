import Mathlib.Data.String.Basic
import Vimscript.Proofs.Eval.Storing
import Vimscript.Proofs.Eval.Try
import Vimscript.Proofs.Library.MergeSort

/-!
# What `sort()` makes of a List

With a function to compare by, `sort()` is the merge sort that asks it
(`mergeSortM_inquires`), and the List is written once, after the last
answer. Without one it sorts by a key of each item: a text, of which the
code points count, or a number. The keys are computed before anything is
compared, so a `sort()` that stops at an item without a key has changed
nothing.
-/

namespace Vimscript.Library

open Run
open Op (reading_eq)

/-! ## Keys -/

/-- The code points of a text. -/
def codes (s : String) : List Int := s.toList.map fun c => (c.toNat : Int)

/-- What an item is sorted by. Texts compare by their code points, and a number is a single one. -/
inductive KeyOf (h : Heap) : SortKey → Ref → List Int → Prop
  | text {r : Ref} {s : String} : h.itemText r = .ok s → KeyOf h .text r (codes s)
  | foldedText {r : Ref} {s : String} : h.itemText r = .ok s →
      KeyOf h .foldedText r (codes (Text.lower s))
  | number {r : Ref} {n : Int} : h.value r = .number n → KeyOf h .number r [n]
  | leading {r : Ref} {n : Int} : h.value r = .number n → KeyOf h .leadingNumber r [n]
  | leadingText {r : Ref} {s : String} : h.value r = .string s →
      ¬Number.maxDigits < (Number.decimalDigits s).length →
      KeyOf h .leadingNumber r [Number.leading s]

/-- How the key of an item cannot be computed: the item cannot be printed, or it is a String that
starts with more digits than are read. -/
inductive NoKey (h : Heap) : SortKey → Ref → Stop → Prop
  | text {r : Ref} {stop : Stop} : h.itemText r = .error stop → NoKey h .text r stop
  | foldedText {r : Ref} {stop : Stop} : h.itemText r = .error stop → NoKey h .foldedText r stop
  | leadingText {r : Ref} {s : String} : h.value r = .string s →
      Number.maxDigits < (Number.decimalDigits s).length →
      NoKey h .leadingNumber r (.fault (.tooManyDigits (some (Number.decimalDigits s).length)))

/-- What is sorted by a key: anything by its text, Numbers as numbers, and Numbers and Strings by
the numbers they start with. -/
inductive Suits (h : Heap) : SortKey → Ref → Prop
  | text {r : Ref} : Suits h .text r
  | foldedText {r : Ref} : Suits h .foldedText r
  | number {r : Ref} {n : Int} : h.value r = .number n → Suits h .number r
  | leading {r : Ref} {n : Int} : h.value r = .number n → Suits h .leadingNumber r
  | leadingText {r : Ref} {s : String} : h.value r = .string s → Suits h .leadingNumber r

namespace KeyOf

variable {h : Heap} {r : Ref} {k : List Int}

theorem ofText (hkey : KeyOf h .text r k) : ∃ s, h.itemText r = .ok s ∧ k = codes s := by
  cases hkey with
  | text hs => exact ⟨_, hs, rfl⟩

theorem ofFoldedText (hkey : KeyOf h .foldedText r k) :
    ∃ s, (do return Text.lower (← h.itemText r) : Result String) = .ok s ∧ k = codes s := by
  cases hkey with
  | foldedText hs => exact ⟨_, by rw [hs]; rfl, rfl⟩

theorem ofNumber (hkey : KeyOf h .number r k) : ∃ n, h.value r = .number n ∧ k = [n] := by
  cases hkey with
  | number hn => exact ⟨_, hn, rfl⟩

theorem ofLeadingNumber (hkey : KeyOf h .leadingNumber r k) :
    ∃ n, leadingOf (h.value r) = .ok n ∧ k = [n] := by
  cases hkey with
  | leading hn => exact ⟨_, by rw [hn]; rfl, rfl⟩
  | leadingText hs hshort => exact ⟨_, by rw [hs, leadingOf, toNumber_string, if_neg hshort], rfl⟩

end KeyOf

theorem Suits.keyOf_or {h : Heap} {key : SortKey} {r : Ref} (hsuits : Suits h key r) :
    (∃ k, KeyOf h key r k) ∨ ∃ stop, NoKey h key r stop := by
  cases hsuits with
  | text =>
    cases hr : h.itemText r with
    | ok s => exact .inl ⟨_, .text hr⟩
    | error stop => exact .inr ⟨_, .text hr⟩
  | foldedText =>
    cases hr : h.itemText r with
    | ok s => exact .inl ⟨_, .foldedText hr⟩
    | error stop => exact .inr ⟨_, .foldedText hr⟩
  | number hn => exact .inl ⟨_, .number hn⟩
  | leading hn => exact .inl ⟨_, .leading hn⟩
  | @leadingText _ s hs =>
    by_cases hlong : Number.maxDigits < (Number.decimalDigits s).length
    · exact .inr ⟨_, .leadingText hs hlong⟩
    · exact .inl ⟨_, .leadingText hs hlong⟩

theorem codes_lt {s t : String} (h : s < t) : codes s < codes t :=
  List.map_lt (fun _ _ hlt => Int.ofNat_lt.mpr hlt) (String.lt_iff.mp h)

/-- Texts are ordered by their code points. -/
theorem orderTexts_eq (s t : String) : (orderTexts s t != .gt) = decide (codes s ≤ codes t) := by
  rw [orderTexts]
  by_cases hst : s < t
  · rw [if_pos hst, decide_eq_true (le_of_lt (codes_lt hst))]
    rfl
  rw [if_neg hst]
  by_cases hts : t < s
  · rw [if_pos hts, decide_eq_false (not_le_of_gt (codes_lt hts))]
    rfl
  rw [if_neg hts, le_antisymm (not_lt.mp hts) (not_lt.mp hst), decide_eq_true (le_refl _)]
  rfl

theorem compare_eq (m n : Int) : (compare m n != .gt) = decide ([m] ≤ [n]) := by
  have hsingle {i j : Int} (h : i < j) : [i] < [j] := List.Lex.rel h
  rcases lt_trichotomy m n with h | rfl | h
  · rw [Int.compare_eq_lt.mpr h, decide_eq_true (le_of_lt (hsingle h))]
    rfl
  · rw [Int.compare_eq_eq.mpr rfl, decide_eq_true (le_refl _)]
    rfl
  · rw [Int.compare_eq_gt.mpr h, decide_eq_false (not_le_of_gt (hsingle h))]
    rfl

theorem totalPreorder_key {α : Type} (k : α → List Int) :
    TotalPreorder fun a b => decide (k a ≤ k b) where
  trans a b c hab hbc := by
    rw [decide_eq_true_eq] at *
    exact le_trans hab hbc
  total a b := by
    rw [Bool.or_eq_true, decide_eq_true_eq, decide_eq_true_eq]
    exact le_total _ _

/-! ## Sorting by keys -/

section

variable {κ : Type} {key : Ref → Result κ} {items : List Ref}

theorem keyed_eq_ok {k : Ref → κ} (hkeys : ∀ r ∈ items, key r = .ok (k r)) :
    keyed key items = .ok (items.map fun r => (k r, r)) := by
  induction items with
  | nil => rfl
  | cons r rest ih =>
    obtain ⟨hr, hrest⟩ := List.forall_mem_cons.mp hkeys
    have hih := ih hrest
    rw [keyed] at hih
    rw [keyed, List.mapM_cons, hr, hih]
    rfl

theorem keyed_eq_error {before after : List Ref} {r : Ref} {stop : Stop}
    (hbefore : ∀ x ∈ before, ∃ k, key x = .ok k) (hr : key r = .error stop) :
    keyed key (before ++ r :: after) = .error stop := by
  induction before with
  | nil =>
    rw [keyed, List.nil_append, List.mapM_cons, hr]
    rfl
  | cons x rest ih =>
    obtain ⟨⟨k, hk⟩, hrest⟩ := List.forall_mem_cons.mp hbefore
    have hih := ih hrest
    rw [keyed] at hih
    rw [keyed, List.cons_append, List.mapM_cons, hk, hih]
    rfl

/-- Sorting items with their keys is sorting the items. -/
theorem sortByKey_eq {order : κ → κ → Ordering} {k : Ref → κ} {before : Ref → Ref → Bool}
    (horder : ∀ a ∈ items, ∀ b ∈ items, before a b = (order (k a) (k b) != .gt)) :
    sortByKey order (items.map fun r => (k r, r)) = items.mergeSort before := by
  rw [sortByKey, ← List.map_mergeSort horder, List.map_map]
  exact List.map_id _

end

section

variable {h : Heap} {key : SortKey} {items : List Ref}

/-- Where every item has a text, sorting by the texts is sorting by the code points. -/
theorem sortByText_eq {g : Ref → Result String} {k : Ref → List Int}
    (hkeys : ∀ r ∈ items, ∃ s, g r = .ok s ∧ k r = codes s) :
    ∃ keys, keyed g items = .ok keys ∧
      sortByKey orderTexts keys = items.mergeSort fun a b => decide (k a ≤ k b) := by
  choose! text htext hcodes using hkeys
  refine ⟨_, keyed_eq_ok htext, sortByKey_eq fun a ha b hb => ?_⟩
  rw [orderTexts_eq, hcodes a ha, hcodes b hb]

theorem sortByNumber_eq {g : Ref → Result Int} {k : Ref → List Int}
    (hkeys : ∀ r ∈ items, ∃ n, g r = .ok n ∧ k r = [n]) :
    ∃ keys, keyed g items = .ok keys ∧
      sortByKey compare keys = items.mergeSort fun a b => decide (k a ≤ k b) := by
  choose! number hnumber hsingle using hkeys
  refine ⟨_, keyed_eq_ok hnumber, sortByKey_eq fun a ha b hb => ?_⟩
  rw [compare_eq, hsingle a ha, hsingle b hb]

/-- Numbers are sorted by what they are, with no regard to what does not compare. -/
theorem sortByPartialKey_numbers {k : Ref → List Int}
    (hkeys : ∀ r ∈ items, ∃ n, h.value r = .number n ∧ k r = [n]) :
    sortByPartialKey isUnordered orderNumeric (items.map fun r => (h.value r, r)) =
      items.mergeSort fun a b => decide (k a ≤ k b) := by
  choose! number hnumber hsingle using hkeys
  have hall : (items.map fun r => (h.value r, r)).any (fun e => isUnordered e.1) = false := by
    rw [List.any_map, List.any_eq_false]
    intro r hr
    simp [hnumber r hr, isUnordered]
  rw [sortByPartialKey, hall, if_neg Bool.false_ne_true]
  refine sortByKey_eq fun a ha b hb => ?_
  rw [hnumber a ha, hnumber b hb, hsingle a ha, hsingle b hb, ← compare_eq]
  rfl

theorem sortItems_stable {k : Ref → List Int} (hkeys : ∀ r ∈ items, KeyOf h key r (k r)) :
    ∃ sorted, sortItems h key items = .ok sorted ∧
      StableSort (fun a b => decide (k a ≤ k b)) items sorted := by
  refine ⟨_, ?_, .mergeSort (totalPreorder_key k) items⟩
  unfold sortItems
  cases key with
  | text =>
    obtain ⟨keys, hkeyed, hsort⟩ := sortByText_eq fun r hr => (hkeys r hr).ofText
    rw [← hsort, hkeyed]
    rfl
  | foldedText =>
    obtain ⟨keys, hkeyed, hsort⟩ := sortByText_eq fun r hr => (hkeys r hr).ofFoldedText
    rw [← hsort, hkeyed]
    rfl
  | number =>
    rw [← sortByPartialKey_numbers fun r hr => (hkeys r hr).ofNumber]
    rfl
  | leadingNumber =>
    obtain ⟨keys, hkeyed, hsort⟩ := sortByNumber_eq fun r hr => (hkeys r hr).ofLeadingNumber
    rw [← hsort, hkeyed]
    rfl
  | float | comparator =>
    -- no item has such a key
    cases items with
    | nil =>
      rw [List.mergeSort_nil]
      simp only [keyed, List.mapM_nil, pure_bind, sortByPartialKey, sortByKey, List.any_nil,
        Bool.false_eq_true, if_false, List.mergeSort_nil, List.map_nil]
      rfl
    | cons r rest => nomatch hkeys r List.mem_cons_self

section

variable {before after : List Ref} {r : Ref} {stop : Stop}
  (hbefore : ∀ x ∈ before, ∃ k, KeyOf h key x k)
include hbefore

/-- Keys are computed up to the first item that has none. -/
theorem keyed_stops {κ : Type} {g : Ref → Result κ} {Codes : κ → List Int → Prop}
    (hcomputed : ∀ {x k}, KeyOf h key x k → ∃ a, g x = .ok a ∧ Codes a k)
    (hr : g r = .error stop) : keyed g (before ++ r :: after) = .error stop := by
  refine keyed_eq_error (fun x hx => ?_) hr
  obtain ⟨k, hk⟩ := hbefore x hx
  obtain ⟨a, ha, -⟩ := hcomputed hk
  exact ⟨a, ha⟩

/-- An item without a key stops everything, before anything is compared. -/
theorem sortItems_stops (hr : NoKey h key r stop) :
    sortItems h key (before ++ r :: after) = .error stop := by
  unfold sortItems
  cases hr with
  | text hr =>
    rw [keyed_stops hbefore KeyOf.ofText hr]
    rfl
  | foldedText hr =>
    rw [keyed_stops hbefore KeyOf.ofFoldedText (by rw [hr]; rfl)]
    rfl
  | leadingText hs hlong =>
    rw [keyed_stops hbefore KeyOf.ofLeadingNumber
      (by rw [hs, leadingOf, toNumber_string, if_pos hlong]; rfl)]
    rfl

end

/-- Either all items have keys, or there is a first one without. -/
theorem keys_or_first (hsuits : ∀ r ∈ items, Suits h key r) :
    (∀ r ∈ items, ∃ k, KeyOf h key r k) ∨
      ∃ before r after stop, items = before ++ r :: after ∧
        (∀ x ∈ before, ∃ k, KeyOf h key x k) ∧ NoKey h key r stop := by
  induction items with
  | nil => exact .inl (List.forall_mem_nil _)
  | cons r rest ih =>
    obtain ⟨hr, hrest⟩ := List.forall_mem_cons.mp hsuits
    obtain hkey | ⟨stop, hstop⟩ := hr.keyOf_or
    · obtain hkeys | ⟨before, x, after, stop, rfl, hbefore, hx⟩ := ih hrest
      · exact .inl (List.forall_mem_cons.mpr ⟨hkey, hkeys⟩)
      · exact .inr ⟨r :: before, x, after, stop, rfl, List.forall_mem_cons.mpr ⟨hkey, hbefore⟩, hx⟩
    · exact .inr ⟨[], r, rest, stop, rfl, List.forall_mem_nil _, hstop⟩

end

/-! ## The whole -/

/-- What `sort()` is told to sort by: nothing, the name of a mode, a Number that is one, or a
function. -/
inductive ModeOf (h : Heap) : Option Ref → SortKey → Prop
  | absent : ModeOf h none .text
  | named {how : Ref} {m : String} : h.value how = .string m → ModeOf h (some how) (.ofMode m)
  | numbered {how : Ref} {n : Int} {m : String} : h.value how = .number n →
      Number.write n = .ok m → ModeOf h (some how) (.ofMode m)
  | function {how : Ref} {f : Funcref} : h.value how = .funcref f → ModeOf h (some how) .comparator

/-- Compares two items by a function: whether it says that the first may stand before the second. -/
def compareBy (M : Machine) (f : Funcref) (c : Context) (a b : Ref) : Run Bool := do
  return (← Op.toNumber (← callFuncref M f [a, b] none c)) ≤ 0

section

variable {M : Machine} {c : Context} {setup : Setup} {s t u : State} {r : Ref} {items : List Ref}
  {how self : Option Ref} {key : SortKey}

theorem sortMode_eq (hmode : ModeOf s.heap how key) : sortMode how setup s = (.ok key, s) := by
  cases hmode with
  | absent => rfl
  | named hhow =>
    rw [sortMode, bind_of_ok (op_of_ok (Op.value_eq _ s.heap)), hhow]
    rfl
  | @numbered how n m hhow hm =>
    have hn : (liftM (Except.ok n : Result Int) : Run Int) setup s = (.ok n, s) := rfl
    rw [sortMode, bind_of_ok (op_of_ok (Op.value_eq _ s.heap)), hhow]
    dsimp only [Value.toNumber]
    refine (bind_of_ok hn).trans ?_
    rw [hm]
    rfl
  | function hhow =>
    rw [sortMode, bind_of_ok (op_of_ok (Op.value_eq _ s.heap)), hhow]
    rfl

variable (hitems : s.heap.value r = .list items) (hfree : s.heap.isLocked r = false)
include hitems hfree

/-- With a function to compare by, the List is written once, after all comparisons. -/
theorem sort_by_comparator {how : Ref} (hmode : ModeOf s.heap (some how) .comparator) :
    sort M r (some how) self c setup s =
      (do
        let f ← comparator how self c
        let sorted ← mergeSortM (compareBy M f c) items
        Op.setValue r (.list sorted)
        return r : Run Ref) setup s := by
  rw [sort, bind_of_ok (op_of_ok (Op.value_eq r s.heap)), hitems]
  dsimp only
  rw [bind_of_ok (op_of_ok (Op.isLocked_eq r s.heap)), hfree, if_neg Bool.false_ne_true,
    bind_of_ok (sortMode_eq hmode)]
  rfl

/-- Without one, it is written once the items are sorted by their keys. -/
theorem sort_by_key (hmode : ModeOf s.heap how key) (hkey : key ≠ .comparator) :
    sort M r how self c setup s =
      (do
        let sorted ← Op.reading fun h => sortItems h key items
        Op.setValue r (.list sorted)
        return r : Run Ref) setup s := by
  rw [sort, bind_of_ok (op_of_ok (Op.value_eq r s.heap)), hitems]
  dsimp only
  rw [bind_of_ok (op_of_ok (Op.isLocked_eq r s.heap)), hfree, if_neg Bool.false_ne_true,
    bind_of_ok (sortMode_eq hmode)]
  cases key with
  | comparator => exact absurd rfl hkey
  | _ => rfl

end

/-! ## What comes of it -/

/-- A List has been given these items. -/
def rewritten (r : Ref) (items : List Ref) (s : State) : State :=
  { s with heap := s.heap.setValue r (.list items) }

theorem value_rewritten {r : Ref} {items old : List Ref} {s t : State}
    (hr : s.heap.value r = .list old) (hgrows : Grows s t) :
    (rewritten r items t).heap.value r = .list items :=
  Heap.value_setValue _ _ (Nat.lt_of_lt_of_le (Heap.index_lt_of_list hr) hgrows)

/-- A function that compares items always gives an answer: whatever has been asked before, each
question about an item and one that stands behind it. -/
def Answers (le : Ref → Ref → Run Bool) (setup : Setup) (items : List Ref) (s : State) : Prop :=
  ∀ pairs answers t p, Passed (asked le) setup pairs s answers t →
    (∀ q ∈ pairs ++ [p], [q.1, q.2].Sublist items) →
    ∃ answer u, asked le p setup t = (.ok answer, u)

section

variable {setup : Setup} {s t u : State} {r how : Ref} {self : Option Ref} {items : List Ref}
  {c : Context} {f : Funcref} {n : Nat}

/-- Comparing does not remove the List. -/
theorem asked_grows {pairs : List (Ref × Ref)} {answers : List Bool}
    (hf : comparator how self c setup s = (.ok f, t))
    (hpassed : Passed (asked (compareBy (Machine.ofFuel n) f c)) setup pairs t answers u) :
    Grows s u := by
  have hR := grows_steady
  have hcompare (a b : Ref) : Keeps Grows (compareBy (Machine.ofFuel n) f c a b) :=
    .bind hR (callFuncref_keeps hR (Machine.ofFuel_keeps hR n) f [a, b] none c) fun _ =>
      .bind hR (.op hR (Op.toNumber_keeps Heap.grows_extending _)) fun _ => .pure hR _
  have hstart : Grows s t := by
    have hkeeps := comparator_keeps hR how self c setup s
    rwa [hf] at hkeeps
  refine hpassed.keep (fun p v _ hv b w hp => hR.trans hv ?_) hstart
  have hkeeps := hcompare p.1 p.2 setup v
  rw [asked] at hp
  rwa [hp] at hkeeps

/-- Either every comparison has given an answer and the List is written, or one of them has stopped
everything. -/
theorem sort_follows (M : Machine) (hitems : s.heap.value r = .list items)
    (hfree : s.heap.isLocked r = false) (hmode : ModeOf s.heap (some how) .comparator)
    (hf : comparator how self c setup s = (.ok f, t)) :
    (∃ pairs answers u sorted, Passed (asked (compareBy M f c)) setup pairs t answers u ∧
      (∀ p ∈ pairs, [p.1, p.2].Sublist items) ∧ SortedBy items (pairs.zip answers) sorted ∧
      sort M r (some how) self c setup s = (.ok r, rewritten r sorted u)) ∨
    ∃ pairs answers u p stop v, Passed (asked (compareBy M f c)) setup pairs t answers u ∧
      (∀ q ∈ pairs ++ [p], [q.1, q.2].Sublist items) ∧
      asked (compareBy M f c) p setup u = (.error stop, v) ∧
      sort M r (some how) self c setup s = (.error stop, v) := by
  rw [sort_by_comparator hitems hfree hmode, bind_of_ok hf]
  rcases hrun : mergeSortM (compareBy M f c) items setup t with ⟨result, v⟩
  cases mergeSortM_inquires items hrun with
  | done hpassed hmay hsorted =>
    refine .inl ⟨_, _, _, _, hpassed, hmay, hsorted, ?_⟩
    rw [bind_of_ok hrun]
    rfl
  | stopped hpassed hmay hstop =>
    exact .inr ⟨_, _, _, _, _, _, hpassed, hmay, hstop, bind_of_error hrun⟩

end

/-- `sort()` is stable. With a function that always gives an answer, however it comes to it, the
items of the List are put in another order and none is lost; each question is about an item and one
that stood behind it. If the answers are those of a total preorder, that is the order of the
items, and items that compare equal follow one another as before. Without a function the
order is that of the keys; that a key cannot be computed is the only way to fail, and it leaves
everything as it was. -/
theorem sort_is_stable (n : Nat) (self : Option Ref) (c : Context) {setup : Setup} {s : State}
    {r : Ref} {items : List Ref} (hitems : s.heap.value r = .list items)
    (hfree : s.heap.isLocked r = false) :
    (∀ how f t, ModeOf s.heap (some how) .comparator →
      comparator how self c setup s = (.ok f, t) →
      Answers (compareBy (Machine.ofFuel n) f c) setup items t →
      ∃ pairs answers u sorted,
        Passed (asked (compareBy (Machine.ofFuel n) f c)) setup pairs t answers u ∧
        (∀ p ∈ pairs, [p.1, p.2].Sublist items) ∧
        sort (Machine.ofFuel n) r (some how) self c setup s = (.ok r, rewritten r sorted u) ∧
        (rewritten r sorted u).heap.value r = .list sorted ∧ sorted.Perm items ∧
        ∀ before, TotalPreorder before → Agree before (pairs.zip answers) →
          StableSort before items sorted) ∧
    ∀ how key, ModeOf s.heap how key → key ≠ .comparator → (∀ x ∈ items, Suits s.heap key x) →
      (∃ k : Ref → List Int, ∃ sorted, (∀ x ∈ items, KeyOf s.heap key x (k x)) ∧
        sort (Machine.ofFuel n) r how self c setup s = (.ok r, rewritten r sorted s) ∧
        (rewritten r sorted s).heap.value r = .list sorted ∧
        StableSort (fun a b => decide (k a ≤ k b)) items sorted) ∨
      ∃ before x after stop, items = before ++ x :: after ∧
        (∀ y ∈ before, ∃ k, KeyOf s.heap key y k) ∧ NoKey s.heap key x stop ∧
        sort (Machine.ofFuel n) r how self c setup s = (.error stop, s) := by
  constructor
  · intro how f t hmode hf hanswers
    obtain ⟨pairs, answers, u, sorted, hpassed, hmay, ⟨hperm, hstable⟩, hsort⟩ |
      ⟨pairs, answers, u, p, stop, v, hpassed, hmay, hstop, -⟩ :=
        sort_follows (Machine.ofFuel n) hitems hfree hmode hf
    · exact ⟨pairs, answers, u, sorted, hpassed, hmay, hsort,
        value_rewritten hitems (asked_grows hf hpassed), hperm, hstable⟩
    · obtain ⟨answer, w, hanswer⟩ := hanswers pairs answers u p hpassed hmay
      cases hanswer.symm.trans hstop
  · intro how key hmode hkey hsuits
    rw [sort_by_key hitems hfree hmode hkey]
    obtain hkeys | ⟨before, x, after, stop, rfl, hbefore, hx⟩ := keys_or_first hsuits
    · left
      choose! k hk using hkeys
      obtain ⟨sorted, hsorted, hstable⟩ := sortItems_stable hk
      refine ⟨k, sorted, hk, ?_, value_rewritten hitems (grows_steady.refl s), hstable⟩
      rw [bind_of_ok (op_of_ok ((reading_eq _ s.heap).trans (by rw [hsorted])))]
      rfl
    · right
      refine ⟨before, x, after, stop, rfl, hbefore, hx, ?_⟩
      exact bind_of_error (op_of_error ((reading_eq _ s.heap).trans
        (by rw [sortItems_stops hbefore hx])))

/-- A state with the Lists `[[2], 0]` and `[2, 0]`, and `get()` as a function to compare by. -/
def mixedItems (more : List Cell) : State where
  heap := { cells := ⟨[{ value := .dict {} }, { value := .list [⟨4⟩, ⟨5⟩] },
    { value := .funcref { callee := .builtin .get, arguments := ⟨3⟩ } }, { value := .list [] },
    { value := .list [⟨6⟩] }, { value := .number 0 }, { value := .number 2 },
    { value := .list [⟨6⟩, ⟨5⟩] }, { value := .string "n" }] ++ more⟩ }

/-- Asks `get()`. -/
def askGet : Ref × Ref → Run Bool :=
  asked (compareBy (Machine.ofFuel 1) { callee := .builtin .get, arguments := ⟨3⟩ }
    { script := default })

theorem askGet_eq {p : Ref × Ref} (hp : [p.1, p.2].Sublist [⟨4⟩, ⟨5⟩]) (more : List Cell) :
    askGet p plainSetup (mixedItems more) =
      (.ok false, mixedItems (more.concat { value := .number 0 })) := by
  obtain ⟨a, b⟩ := p
  cases hp.eq_of_length rfl
  rfl

theorem askGet_passed {pairs : List (Ref × Ref)} {answers : List Bool} {s u : State}
    (hpassed : Passed askGet plainSetup pairs s answers u)
    (hmay : ∀ p ∈ pairs, [p.1, p.2].Sublist [⟨4⟩, ⟨5⟩]) (hs : ∃ more, s = mixedItems more) :
    (∃ more, u = mixedItems more) ∧ ∀ answer ∈ answers, answer = false := by
  induction hpassed with
  | nil => exact ⟨hs, nofun⟩
  | cons hask _ ih =>
    obtain ⟨more, rfl⟩ := hs
    obtain ⟨hp, hmay⟩ := List.forall_mem_cons.mp hmay
    cases (askGet_eq hp more).symm.trans hask
    obtain ⟨hu, hanswers⟩ := ih hmay ⟨_, rfl⟩
    exact ⟨hu, List.forall_mem_cons.mpr ⟨rfl, hanswers⟩⟩

/-- The item at index 0 of `[2]` is greater than zero, so `[2]` is put behind `0`. -/
theorem mixedItems_sorted :
    (∃ u, sort (Machine.ofFuel 1) ⟨1⟩ (some ⟨2⟩) none { script := default } plainSetup
        (mixedItems []) = (.ok ⟨1⟩, u) ∧ u.heap.value ⟨1⟩ = .list [⟨5⟩, ⟨4⟩]) ∧
      ∃ u, sort (Machine.ofFuel 1) ⟨7⟩ (some ⟨8⟩) none { script := default } plainSetup
        (mixedItems []) = (.ok ⟨7⟩, u) ∧ u.heap.value ⟨7⟩ = .list [⟨5⟩, ⟨6⟩] := by
  constructor
  · have hanswers : Answers (compareBy (Machine.ofFuel 1)
        { callee := .builtin .get, arguments := ⟨3⟩ } { script := default }) plainSetup
        [⟨4⟩, ⟨5⟩] (mixedItems []) := by
      intro pairs answers t p hpassed hmay
      obtain ⟨hmay, hp⟩ := List.forall_mem_append.mp hmay
      obtain ⟨⟨more, rfl⟩, -⟩ := askGet_passed hpassed hmay ⟨[], rfl⟩
      exact ⟨_, _, askGet_eq (hp p List.mem_cons_self) more⟩
    obtain ⟨pairs, answers, u, sorted, hpassed, hmay, hsort, hvalue, -, hstable⟩ :=
      (sort_is_stable 1 none { script := default } (rfl : (mixedItems []).heap.value ⟨1⟩ = _)
        rfl).1 ⟨2⟩ { callee := .builtin .get, arguments := ⟨3⟩ } (mixedItems []) (.function rfl)
        rfl hanswers
    -- the answers are those of an order that the second item comes first in
    let k : Ref → List Int := fun a => [-(a.index : Int)]
    have hagree : Agree (fun a b => decide (k a ≤ k b)) (pairs.zip answers) := by
      rintro ⟨⟨a, b⟩, answer⟩ hmem
      obtain ⟨hp, hanswer⟩ := List.of_mem_zip hmem
      cases (hmay _ hp).eq_of_length rfl
      exact (askGet_passed hpassed hmay ⟨[], rfl⟩).2 _ hanswer
    cases (hstable _ (totalPreorder_key k) hagree).eq_swapped (by decide)
    exact ⟨_, hsort, hvalue⟩
  · have hsuits : ∀ x ∈ [(⟨6⟩ : Ref), ⟨5⟩], Suits (mixedItems []).heap .number x := by
      rw [List.forall_mem_cons, List.forall_mem_singleton]
      exact ⟨.number rfl, .number rfl⟩
    obtain ⟨k, sorted, hk, hsort, hvalue, hstable⟩ | ⟨_, _, _, _, _, _, hnone, _⟩ :=
      (sort_is_stable 1 none { script := default } (rfl : (mixedItems []).heap.value ⟨7⟩ = _)
        rfl).2 (some ⟨8⟩) .number (.named (m := "n") rfl) (by rintro ⟨⟩) hsuits
    · obtain ⟨m, hm, hmkey⟩ := (hk ⟨6⟩ (by simp)).ofNumber
      obtain ⟨n, hn, hnkey⟩ := (hk ⟨5⟩ (by simp)).ofNumber
      cases hm
      cases hn
      cases hstable.eq_swapped (by rw [hmkey, hnkey]; decide)
      exact ⟨_, hsort, hvalue⟩
    · nomatch hnone

/-- A state with a List of two Strings, the first of which starts with more digits than are read. -/
def longText : State where
  heap := { cells := #[{ value := .dict {} }, { value := .list [⟨2⟩, ⟨3⟩] },
    { value := .string (String.ofList (List.replicate 4301 '9')) }, { value := .string "1" },
    { value := .string "N" }] }

/-- Strings are sorted by the numbers they start with unless there is one that is too long. -/
theorem longText_not_sorted :
    longText.heap.value ⟨1⟩ = .list [⟨2⟩, ⟨3⟩] ∧ longText.heap.isLocked ⟨1⟩ = false ∧
      ModeOf longText.heap (some ⟨4⟩) .leadingNumber ∧
      (∀ x ∈ [(⟨2⟩ : Ref), ⟨3⟩], Suits longText.heap .leadingNumber x) ∧
      sort (Machine.ofFuel 1) ⟨1⟩ (some ⟨4⟩) none { script := default } plainSetup longText =
        (.error (.fault (.tooManyDigits (some 4301))), longText) := by
  have hmode : ModeOf longText.heap (some ⟨4⟩) .leadingNumber := .named (m := "N") rfl
  have hsuits : ∀ x ∈ [(⟨2⟩ : Ref), ⟨3⟩], Suits longText.heap .leadingNumber x := by
    rw [List.forall_mem_cons, List.forall_mem_singleton]
    exact ⟨.leadingText rfl, .leadingText rfl⟩
  have hdigits :
      (Number.decimalDigits (String.ofList (List.replicate 4301 '9'))).length = 4301 := by
    rw [Number.decimalDigits, String.toList_ofList]
    decide +kernel
  have hlong : NoKey longText.heap .leadingNumber ⟨2⟩ (.fault (.tooManyDigits (some 4301))) := by
    rw [← hdigits]
    exact .leadingText rfl (by rw [hdigits]; decide)
  have hstop : sortItems longText.heap .leadingNumber ([] ++ ⟨2⟩ :: [⟨3⟩]) =
      .error (.fault (.tooManyDigits (some 4301))) :=
    sortItems_stops (List.forall_mem_nil _) hlong
  refine ⟨rfl, rfl, hmode, hsuits, ?_⟩
  rw [sort_by_key rfl rfl hmode (by rintro ⟨⟩)]
  exact bind_of_error (op_of_error ((reading_eq _ _).trans (congrArg (·, longText.heap) hstop)))

end Vimscript.Library
