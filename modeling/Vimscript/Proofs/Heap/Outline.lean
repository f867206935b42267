import Vimscript.Heap.Print
import Vimscript.Proofs.Heap.Acyclic

/-!
# What is printed at each place

The printed form of a value follows a tree, the outline of the value: at
every place something is printed, and the parts of an object are printed
inside of it. Which outline it is can be said without printing. A place is
reached by a way through the heap, from an object to one of the objects that
are printed inside of it. If no List or Dictionary is passed twice, then
the object at the end of the way is printed there, and it is marked exactly
if it is one of those passed (`Heap.printedLabel?`).

Printing keeps the Lists and Dictionaries it is inside of on a path. They are
those that are passed on the way (`Heap.entered`). None is entered twice, so
that the number of those not yet entered goes down from one container to the
next, and between two of them there is at most one Funcref. This is what
bounds the number of steps (`Heap.exists_printsOutline`).
-/

namespace Vimscript

/-! ## Outlines -/

/-- What is printed at a place, apart from the parts inside. -/
inductive Outline.Label where
  | number (n : Int)
  | float (x : Float)
  | string (s : String)
  | blob (bytes : List UInt8)
  | list
  | dict (keys : List String)
  | funcref (name : String)
  | listAgain
  | dictAgain

/-- What is printed, at every place. -/
inductive Outline where
  | node (label : Outline.Label) (parts : List Outline)

instance : Inhabited Outline := ⟨.node .list []⟩

namespace Outline

/-- The text of a place, with the texts of the parts inside. -/
def Label.text : Label → List String → String
  | .number n, _ => toString n
  | .float x, _ => Decimal.fixed x
  | .string s, _ => quoteString s
  | .blob bytes, _ => blobText bytes
  | .list, texts => "[" ++ ", ".intercalate texts ++ "]"
  | .dict keys, texts =>
    "\x7b" ++ ", ".intercalate (keys.zipWith (quoteString · ++ ": " ++ ·) texts) ++ "\x7d"
  | .funcref name, texts => "function(" ++ ", ".intercalate (quoteString name :: texts) ++ ")"
  | .listAgain, _ => "[...]"
  | .dictAgain, _ => "\x7b...\x7d"

/-- Whether a place has a mark for a List or Dictionary instead of what it holds. -/
def Label.isMark : Label → Bool
  | .listAgain | .dictAgain => true
  | _ => false

/-- Whether a Number with too many digits is at a place. -/
def Label.isLong : Label → Bool
  | .number n => Number.isLong n
  | _ => false

mutual

/-- The text of an outline. -/
def text : Outline → String
  | .node label parts => label.text (textAll parts)

def textAll : List Outline → List String
  | [] => []
  | o :: rest => text o :: textAll rest

end

mutual

/-- Whether an outline has a Number with too many digits. -/
def isLong : Outline → Bool
  | .node label parts => label.isLong || isLongAny parts

def isLongAny : List Outline → Bool
  | [] => false
  | o :: rest => isLong o || isLongAny rest

end

/-- What is at a place, if there is such a place. -/
def label? : Outline → List Nat → Option Label
  | .node label _, [] => some label
  | .node _ parts, i :: place => parts[i]?.bind fun o => label? o place

/-- An outline has this at some place. -/
def Shows (o : Outline) (label : Label) : Prop := ∃ place, o.label? place = some label

@[induction_eliminator]
theorem induct {motive : Outline → Prop}
    (node : ∀ label parts, (∀ o ∈ parts, motive o) → motive (.node label parts)) : ∀ o, motive o
  | .node label parts => node label parts fun o _ => induct node o

variable {o o' : Outline} {label : Label} {parts : List Outline}

theorem text_node : (node label parts).text = label.text (parts.map text) := by
  have hall : ∀ parts, textAll parts = parts.map text := by
    intro parts
    induction parts with
    | nil => rfl
    | cons o rest ih => rw [textAll, ih, List.map_cons]
  rw [text, hall]

theorem isLong_node : (node label parts).isLong = (label.isLong || parts.any isLong) := by
  have hall : ∀ parts, isLongAny parts = parts.any isLong := by
    intro parts
    induction parts with
    | nil => rfl
    | cons o rest ih => rw [isLongAny, ih, List.any_cons]
  rw [isLong, hall]

theorem shows_node {label' : Label} :
    (node label parts).Shows label' ↔ label = label' ∨ ∃ o ∈ parts, o.Shows label' := by
  constructor
  · rintro ⟨place, hplace⟩
    cases place with
    | nil => exact .inl (Option.some.inj hplace)
    | cons i place =>
        obtain ⟨o, ho, hlabel⟩ := Option.bind_eq_some_iff.mp hplace
        exact .inr ⟨o, List.mem_of_getElem? ho, place, hlabel⟩
  · rintro (rfl | ⟨o, ho, place, hplace⟩)
    · exact ⟨[], rfl⟩
    · obtain ⟨i, hi⟩ := List.getElem?_of_mem ho
      exact ⟨i :: place, Option.bind_eq_some_iff.mpr ⟨o, hi, hplace⟩⟩

theorem isLong_iff : o.isLong = true ↔ ∃ n, o.Shows (.number n) ∧ Number.isLong n = true := by
  induction o with
  | node label parts ih =>
      have hlabel : label.isLong = true ↔ ∃ n, label = .number n ∧ Number.isLong n = true := by
        cases label <;> simp [Label.isLong]
      have hparts : parts.any isLong = true ↔
          ∃ n, (∃ o ∈ parts, o.Shows (.number n)) ∧ Number.isLong n = true := by
        rw [List.any_eq_true]
        constructor
        · rintro ⟨o, ho, hlong⟩
          obtain ⟨n, hn, hlong⟩ := (ih o ho).mp hlong
          exact ⟨n, ⟨o, ho, hn⟩, hlong⟩
        · rintro ⟨n, ⟨o, ho, hn⟩, hlong⟩
          exact ⟨o, ho, (ih o ho).mpr ⟨n, hn, hlong⟩⟩
      rw [isLong_node, Bool.or_eq_true, hlabel, hparts, ← exists_or]
      refine exists_congr fun n => ?_
      rw [shows_node, or_and_right]

/-- An outline is determined by what is at its places. -/
theorem ext (h : ∀ place, o.label? place = o'.label? place) : o = o' := by
  induction o generalizing o' with
  | node label parts ih =>
      obtain ⟨label', parts'⟩ := o'
      have hlabel : label = label' := Option.some.inj (h [])
      have hparts : parts = parts' := by
        refine List.ext_getElem? fun i => ?_
        have hi : ∀ place, (parts[i]?.bind fun o => o.label? place) =
            parts'[i]?.bind fun o => o.label? place := fun place => h (i :: place)
        cases hp : parts[i]? with
        | none =>
            cases hp' : parts'[i]? with
            | none => rfl
            | some p' =>
                rw [hp, hp'] at hi
                obtain ⟨_, _⟩ := p'
                cases hi []
        | some p =>
            cases hp' : parts'[i]? with
            | none =>
                rw [hp, hp'] at hi
                obtain ⟨_, _⟩ := p
                cases hi []
            | some p' =>
                rw [hp, hp'] at hi
                exact congrArg some (ih p (List.mem_of_getElem? hp) hi)
      rw [hlabel, hparts]

end Outline

/-! ## Ways through the heap -/

namespace Heap

/-- What is printed inside of an object: the items of a List, the values of a Dictionary, and of a
Funcref the captured arguments, if there are any, and the Dictionary it is fixed to. -/
def printedParts (h : Heap) (r : Ref) : List Ref :=
  match h.value r with
  | .list items => items
  | .dict t => t.values
  | .funcref f =>
    (if (h.items f.arguments).isEmpty then [] else [f.arguments]) ++
      (if f.isSelfFixed then f.self.toList else [])
  | _ => []

/-- An object is printed directly inside of another. -/
def Prints (h : Heap) (r s : Ref) : Prop := s ∈ h.printedParts r

/-- The Lists and Dictionaries among the objects that are passed on a way. -/
def entered (h : Heap) (above : List Ref) : List Ref :=
  above.filter fun r => (h.value r).isContainer

/-- What is printed for an object at the end of a way: a List or Dictionary that was passed on the
way is marked. -/
def labelAt (h : Heap) (above : List Ref) (r : Ref) : Outline.Label :=
  match h.value r with
  | .number n => .number n
  | .float x => .float x
  | .string s => .string s
  | .blob bytes => .blob bytes
  | .list _ => if r ∈ above then .listAgain else .list
  | .dict t => if r ∈ above then .dictAgain else .dict t.keys
  | .funcref f => .funcref f.callee.name

/-- What is printed at a place inside of an object, to which a way has led. There is something if no
List or Dictionary is passed twice on the way to that place. -/
def printedLabel? (h : Heap) : (above : List Ref) → Ref → (place : List Nat) → Option Outline.Label
  | above, r, [] => if (h.entered above).Nodup then some (h.labelAt above r) else none
  | above, r, i :: place =>
    (h.printedParts r)[i]?.bind fun s => h.printedLabel? (r :: above) s place

/-- What is at a place of the unfolding of an object, in which everything is repeated wherever it
occurs. -/
def unfoldedLabel? (h : Heap) : Ref → (place : List Nat) → Option Outline.Label
  | r, [] => some (h.labelAt [] r)
  | r, i :: place => (h.printedParts r)[i]?.bind fun s => h.unfoldedLabel? s place

/-- No object that is printed for a value is printed, at whatever depth, inside of itself. -/
def Untangled (h : Heap) (v : Ref) : Prop :=
  ∀ r, Relation.ReflTransGen h.Prints v r → ¬Relation.TransGen h.Prints r r

/-- The captured arguments of each Funcref are a List, and what it is called on is a Dictionary. -/
structure FuncrefsFormed (h : Heap) : Prop where
  arguments {r : Ref} {f : Funcref} : h.value r = .funcref f →
    ∃ items, h.value f.arguments = .list items
  self {r d : Ref} {f : Funcref} : h.value r = .funcref f → f.self = some d →
    ∃ t, h.value d = .dict t

variable {h : Heap} {above : List Ref} {r s v : Ref}

theorem entered_cons : h.entered (r :: above) =
    if (h.value r).isContainer = true then r :: h.entered above else h.entered above :=
  List.filter_cons

theorem mem_entered : r ∈ h.entered above ↔ r ∈ above ∧ (h.value r).isContainer = true :=
  List.mem_filter

theorem not_contains_entered (hnew : r ∉ h.entered above) :
    (h.entered above).contains r = false := by
  rw [Bool.eq_false_iff, ne_eq, List.contains_iff_mem]
  exact hnew

theorem not_nodup_entered_cons (hagain : r ∈ h.entered above) :
    ¬(h.entered (r :: above)).Nodup := by
  rw [entered_cons, if_pos (mem_entered.mp hagain).2]
  exact fun hnodup => (List.nodup_cons.mp hnodup).1 hagain

theorem nodup_entered_cons (hnew : r ∉ h.entered above) (hnodup : (h.entered above).Nodup) :
    (h.entered (r :: above)).Nodup := by
  rw [entered_cons]
  split
  · exact List.nodup_cons.mpr ⟨hnew, hnodup⟩
  · exact hnodup

/-- There is nothing beyond a List or Dictionary that has been passed before. -/
theorem printedLabel?_of_not_nodup (hrepeats : ¬(h.entered above).Nodup) (place : List Nat) :
    h.printedLabel? above r place = none := by
  induction place generalizing above r with
  | nil => exact if_neg hrepeats
  | cons i place ih =>
      have hmore : ¬(h.entered (r :: above)).Nodup := fun hnodup =>
        hrepeats (hnodup.sublist ((List.sublist_cons_self r above).filter _))
      exact Option.bind_eq_none_iff.mpr fun s _ => ih hmore

/-- A mark stands exactly for a List or Dictionary that was passed. -/
theorem isMark_labelAt : (h.labelAt above r).isMark = true ↔ r ∈ h.entered above := by
  rw [mem_entered]
  unfold labelAt
  cases h.value r with
  | list _ | dict _ =>
      by_cases hr : r ∈ above <;> simp [hr, Outline.Label.isMark, Value.isContainer]
  | number _ | float _ | string _ | blob _ | funcref _ =>
      simp [Outline.Label.isMark, Value.isContainer]

theorem labelAt_of_not_entered (hnew : r ∉ h.entered above) :
    h.labelAt above r = h.labelAt [] r := by
  unfold labelAt
  cases hv : h.value r with
  | list _ | dict _ =>
      have hmem : r ∉ above := fun hr => hnew (mem_entered.mpr ⟨hr, by rw [hv]; rfl⟩)
      simp only [if_neg hmem, if_neg List.not_mem_nil]
  | number _ | float _ | string _ | blob _ | funcref _ => rfl

/-! ## Steps -/

/-- A List or Dictionary that has been entered is marked, and nothing in it is looked at. -/
theorem printWithin_again (hagain : r ∈ h.entered above) (fuel : Nat) :
    h.printWithin (fuel + 1) (h.entered above) r = (h.labelAt above r).text [] ∧
      h.meetsLong (fuel + 1) (h.entered above) r = (h.labelAt above r).isLong := by
  obtain ⟨hmem, hkind⟩ := mem_entered.mp hagain
  have hcontains := List.contains_iff_mem.mpr hagain
  unfold labelAt
  rw [printWithin, meetsLong]
  cases hv : h.value r with
  | list _ | dict _ =>
      simp only [hcontains, hmem, if_true]
      exact ⟨rfl, rfl⟩
  | number _ | float _ | string _ | blob _ | funcref _ =>
      rw [hv] at hkind
      cases hkind

/-- The text of any other object consists of the texts of what is printed inside of it. -/
theorem printWithin_new (hnew : r ∉ h.entered above) (fuel : Nat) :
    h.printWithin (fuel + 1) (h.entered above) r = (h.labelAt [] r).text
      ((h.printedParts r).map (h.printWithin fuel (h.entered (r :: above)))) := by
  have hcontains := not_contains_entered hnew
  rw [entered_cons]
  unfold labelAt printedParts
  rw [printWithin]
  cases hv : h.value r with
  | list items =>
      simp only [hcontains, Bool.false_eq_true, List.not_mem_nil, if_false]
      rfl
  | dict t =>
      have hentries : ∀ print : Ref → String,
          t.entries.map (fun e => quoteString e.1 ++ ": " ++ print e.2) =
            t.keys.zipWith (quoteString · ++ ": " ++ ·) (t.values.map print) := by
        intro print
        rw [Table.keys, Entries.names, Table.values, List.map_map, List.zipWith_map,
          List.zipWith_self]
        rfl
      simp only [hcontains, Bool.false_eq_true, List.not_mem_nil, if_false, hentries]
      rfl
  | funcref f =>
      dsimp only
      cases (h.items f.arguments).isEmpty <;> cases f.isSelfFixed <;> cases f.self <;> rfl
  | number _ | float _ | string _ | blob _ => rfl

/-- Captured arguments that are not printed have no Number in them. -/
theorem meetsLong_arguments {f : Funcref} {items : List Ref}
    (hitems : h.value f.arguments = .list items) (fuel : Nat) (path : List Ref) :
    (if (h.items f.arguments).isEmpty then [] else [f.arguments]).any (h.meetsLong fuel path) =
      h.meetsLong fuel path f.arguments := by
  have heq : h.items f.arguments = items := by rw [Heap.items, hitems]
  rw [heq]
  cases items with
  | nil =>
      cases fuel with
      | zero => rfl
      | succ fuel =>
          rw [meetsLong, hitems]
          exact (Bool.and_false _).symm
  | cons _ _ => exact Bool.or_false _

theorem meetsLong_new (hf : h.FuncrefsFormed) (hnew : r ∉ h.entered above) (fuel : Nat) :
    h.meetsLong (fuel + 1) (h.entered above) r = ((h.labelAt [] r).isLong ||
      (h.printedParts r).any (h.meetsLong fuel (h.entered (r :: above)))) := by
  have hcontains := not_contains_entered hnew
  rw [entered_cons]
  unfold labelAt printedParts
  rw [meetsLong]
  cases hv : h.value r with
  | list items =>
      simp only [hcontains, List.not_mem_nil, if_false]
      rfl
  | dict t =>
      simp only [hcontains, List.not_mem_nil, if_false, Table.values, List.any_map]
      rfl
  | funcref f =>
      obtain ⟨items, hitems⟩ := hf.arguments hv
      have hself : ∀ p : Ref → Bool, (if f.isSelfFixed then f.self.toList else []).any p =
          (f.isSelfFixed && f.self.any p) := by
        intro p
        cases f.isSelfFixed <;> cases f.self <;> simp
      dsimp only
      rw [List.any_append, meetsLong_arguments hitems, hself]
      rfl
  | number n => exact (Bool.or_false _).symm
  | float _ | string _ | blob _ => rfl

/-! ## Outlines of objects -/

/-- An outline is that of an object to which a way has led, and a number of steps is enough to print
it. -/
structure PrintsOutline (h : Heap) (steps : Nat) (above : List Ref) (r : Ref) (o : Outline) :
    Prop where
  places (place : List Nat) : o.label? place = h.printedLabel? above r place
  text {fuel : Nat} : steps ≤ fuel → h.printWithin fuel (h.entered above) r = o.text
  isLong {fuel : Nat} : steps ≤ fuel → h.meetsLong fuel (h.entered above) r = o.isLong

theorem printsOutline_again (hnodup : (h.entered above).Nodup) (hagain : r ∈ h.entered above)
    (steps : Nat) : h.PrintsOutline (steps + 1) above r (.node (h.labelAt above r) []) where
  places
    | [] => (if_pos hnodup).symm
    | i :: place => by
        refine Eq.symm (Option.bind_eq_none_iff.mpr fun s _ => ?_)
        exact printedLabel?_of_not_nodup (not_nodup_entered_cons hagain) place
  text {fuel} hfuel := by
    obtain ⟨n, rfl⟩ := Nat.exists_eq_add_of_le' (Nat.le_of_add_left_le hfuel)
    rw [(printWithin_again hagain n).1, Outline.text_node]
    rfl
  isLong {fuel} hfuel := by
    obtain ⟨n, rfl⟩ := Nat.exists_eq_add_of_le' (Nat.le_of_add_left_le hfuel)
    rw [(printWithin_again hagain n).2, Outline.isLong_node]
    exact (Bool.or_false _).symm

/-- The outline of any other object has those of the parts in it. -/
theorem printsOutline_new (hf : h.FuncrefsFormed) (hnodup : (h.entered above).Nodup)
    (hnew : r ∉ h.entered above) {steps : Nat} {outline : Ref → Outline}
    (hparts : ∀ s ∈ h.printedParts r, h.PrintsOutline steps (r :: above) s (outline s)) :
    h.PrintsOutline (steps + 1) above r
      (.node (h.labelAt above r) ((h.printedParts r).map outline)) where
  places
    | [] => (if_pos hnodup).symm
    | i :: place => by
        rw [Outline.label?, printedLabel?, List.getElem?_map]
        cases hs : (h.printedParts r)[i]? with
        | none => rfl
        | some s => exact (hparts s (List.mem_of_getElem? hs)).places place
  text {fuel} hfuel := by
    obtain ⟨n, rfl⟩ := Nat.exists_eq_add_of_le' (Nat.le_of_add_left_le hfuel)
    rw [printWithin_new hnew, Outline.text_node, labelAt_of_not_entered hnew, List.map_map]
    refine congrArg _ (List.map_congr_left fun s hs => ?_)
    exact (hparts s hs).text (Nat.le_of_succ_le_succ hfuel)
  isLong {fuel} hfuel := by
    obtain ⟨n, rfl⟩ := Nat.exists_eq_add_of_le' (Nat.le_of_add_left_le hfuel)
    rw [meetsLong_new hf hnew, Outline.isLong_node, labelAt_of_not_entered hnew, List.any_map]
    refine congrArg _ ?_
    rw [Bool.eq_iff_iff, List.any_eq_true, List.any_eq_true]
    refine exists_congr fun s => and_congr_right fun hs => ?_
    rw [(hparts s hs).isLong (Nat.le_of_succ_le_succ hfuel)]
    rfl

/-- A number of steps that is enough to print an object: two for each List or Dictionary that can
still be entered, of which one leads from a Funcref to it. -/
def stepsFor (h : Heap) (above : List Ref) (r : Ref) : Nat :=
  2 * (h.size - (h.entered above).length) + if (h.value r).isContainer then 1 else 2

theorem length_entered_le (hnodup : (h.entered above).Nodup) :
    (h.entered above).length ≤ h.size :=
  length_le_size hnodup fun _ hr => index_lt_of_isContainer (mem_entered.mp hr).2

/-- What a Funcref prints are a List and a Dictionary. -/
theorem FuncrefsFormed.isContainer_part (hf : h.FuncrefsFormed) (hs : s ∈ h.printedParts r)
    (hr : (h.value r).isContainer = false) : (h.value s).isContainer = true := by
  unfold printedParts at hs
  cases hv : h.value r with
  | funcref f =>
      rw [hv] at hs
      rcases List.mem_append.mp hs with hs | hs
      · obtain ⟨items, hitems⟩ := hf.arguments hv
        split at hs
        · cases hs
        · rw [List.mem_singleton.mp hs, hitems]
          rfl
      · split at hs
        · obtain ⟨t, ht⟩ := hf.self hv (Option.mem_toList.mp hs)
          rw [ht]
          rfl
        · cases hs
  | list _ | dict _ =>
      rw [hv] at hr
      cases hr
  | number _ | float _ | string _ | blob _ =>
      rw [hv] at hs
      cases hs

/-- What is printed inside of an object takes fewer steps. -/
theorem stepsFor_part (hf : h.FuncrefsFormed) (hnodup : (h.entered above).Nodup)
    (hnew : r ∉ h.entered above) (hs : s ∈ h.printedParts r) :
    h.stepsFor (r :: above) s < h.stepsFor above r := by
  have hlength := length_entered_le (nodup_entered_cons hnew hnodup)
  unfold stepsFor
  rw [entered_cons] at hlength ⊢
  cases hr : (h.value r).isContainer with
  | true =>
      rw [hr, if_pos rfl, List.length_cons] at hlength
      rw [if_pos rfl, if_pos rfl, List.length_cons]
      split <;> omega
  | false =>
      rw [hf.isContainer_part hs hr]
      simp

theorem exists_printsOutline (hf : h.FuncrefsFormed) {steps : Nat}
    (hnodup : (h.entered above).Nodup) (hsteps : h.stepsFor above r ≤ steps) :
    ∃ o, h.PrintsOutline steps above r o := by
  induction steps generalizing above r with
  | zero =>
      unfold stepsFor at hsteps
      split at hsteps <;> omega
  | succ steps ih =>
      by_cases hagain : r ∈ h.entered above
      · exact ⟨_, printsOutline_again hnodup hagain steps⟩
      · have hparts : ∀ s ∈ h.printedParts r, ∃ o, h.PrintsOutline steps (r :: above) s o := by
          intro s hs
          refine ih (nodup_entered_cons hagain hnodup) ?_
          have := stepsFor_part hf hnodup hagain hs
          omega
        choose! outline houtline using hparts
        exact ⟨_, printsOutline_new hf hnodup hagain houtline⟩

/-! ## Values without cycles -/

theorem untangled_of_parts (hparts : ∀ s ∈ h.printedParts v, h.Untangled s) : h.Untangled v :=
  noLoop_of_steps hparts

/-- Nothing is passed twice on a way through a value without cycles, so that what is at a place does
not depend on the way that leads there. -/
theorem Untangled.printedLabel?_eq (hv : h.Untangled v) {place : List Nat}
    (hr : Relation.ReflTransGen h.Prints v r) (hnodup : above.Nodup)
    (habove : ∀ p ∈ above, Relation.TransGen h.Prints p r) :
    h.printedLabel? above r place = h.unfoldedLabel? r place := by
  have hnew : r ∉ above := fun hmem => hv r hr (habove r hmem)
  induction place generalizing above r with
  | nil =>
      have hentered : (h.entered above).Nodup := hnodup.filter _
      rw [printedLabel?, if_pos hentered, unfoldedLabel?,
        labelAt_of_not_entered fun hmem => hnew (mem_entered.mp hmem).1]
  | cons i place ih =>
      refine Option.bind_congr fun s hs => ?_
      have hpart : h.Prints r s := List.mem_of_getElem? hs
      have habove' : ∀ p ∈ r :: above, Relation.TransGen h.Prints p s := by
        intro p hp
        rcases List.mem_cons.mp hp with rfl | hp
        · exact .single hpart
        · exact (habove p hp).tail hpart
      exact ih (hr.tail hpart) (List.nodup_cons.mpr ⟨hnew, hnodup⟩) habove'
        fun hmem => hv s (hr.tail hpart) (habove' s hmem)

theorem isMark_of_unfoldedLabel? {place : List Nat} {label : Outline.Label}
    (hlabel : h.unfoldedLabel? r place = some label) : label.isMark = false := by
  induction place generalizing r with
  | nil =>
      rw [← Option.some.inj hlabel, Bool.eq_false_iff, ne_eq, isMark_labelAt]
      exact List.not_mem_nil
  | cons i place ih =>
      obtain ⟨s, -, hs⟩ := Option.bind_eq_some_iff.mp hlabel
      exact ih hs

/-- What is printed for a value without cycles is its unfolding. -/
theorem Untangled.printedLabel?_nil (hv : h.Untangled v) (place : List Nat) :
    h.printedLabel? [] v place = h.unfoldedLabel? v place :=
  hv.printedLabel?_eq .refl .nil fun _ hp => absurd hp List.not_mem_nil

/-- An outline without marks is that of a value without cycles. -/
theorem untangled_of_unmarked {o : Outline}
    (hplaces : ∀ place, o.label? place = h.printedLabel? above r place)
    (hnodup : (h.entered above).Nodup) (hmarks : ∀ label, o.Shows label → label.isMark = false) :
    h.Untangled r := by
  induction o generalizing above r with
  | node label parts ih =>
      have hroot : label = h.labelAt above r :=
        Option.some.inj ((hplaces []).trans (if_pos hnodup))
      have hnew : r ∉ h.entered above := by
        rw [← isMark_labelAt, ← hroot, hmarks label ⟨[], rfl⟩]
        exact Bool.false_ne_true
      have hnodup' := nodup_entered_cons hnew hnodup
      refine untangled_of_parts fun s hs => ?_
      obtain ⟨i, hi⟩ := List.getElem?_of_mem hs
      have hpart : ∀ place, (parts[i]?.bind fun o => o.label? place) =
          h.printedLabel? (r :: above) s place := by
        intro place
        rw [← Option.bind_some s (fun s => h.printedLabel? (r :: above) s place), ← hi]
        exact hplaces (i :: place)
      obtain ⟨o, ho, -⟩ := Option.bind_eq_some_iff.mp ((hpart []).trans (if_pos hnodup'))
      rw [ho] at hpart
      have hmem : o ∈ parts := List.mem_of_getElem? ho
      exact ih o hmem hpart hnodup' fun label hshows =>
        hmarks label (Outline.shows_node.mpr (.inr ⟨o, hmem, hshows⟩))

end Heap

/-! ## What printing gives -/

/-- What is shown of a value that stands alone, if this is not its printed form. -/
def Value.bareText? : Value → Option String
  | .string s => some s
  | .funcref f => some f.callee.name
  | _ => none

/-- An outline is printed for a value: it is the only one with what is printed at every place, and
any number of steps from a bound on gives its text. There are marks in it exactly if the value has
cycles, and without cycles it is the unfolding of the value. -/
structure Heap.Outlines (h : Heap) (v : Ref) (o : Outline) : Prop where
  places (place : List Nat) : o.label? place = h.printedLabel? [] v place
  unique {o' : Outline} (ho' : ∀ place, o'.label? place = h.printedLabel? [] v place) : o' = o
  ends {steps : Nat} : h.printFuel ≤ steps → h.printWithin steps [] v = o.text
  string : h.string v = o.text
  echo : h.echo v = (h.value v).bareText?.getD o.text
  printed : (∀ n, o.Shows (.number n) → Number.isLong n = false) → h.printed v = .ok o.text
  refused : (∃ n, o.Shows (.number n) ∧ Number.isLong n = true) →
    h.printed v = faulty (.tooManyDigits none)
  echoed : h.echoed v = match (h.value v).bareText? with
    | some s => .ok s
    | none => h.printed v
  cycles : (∃ label, o.Shows label ∧ label.isMark = true) ↔ ¬h.Untangled v
  unfolding : h.Untangled v → ∀ place, o.label? place = h.unfoldedLabel? v place

namespace Heap

variable {h : Heap} {v : Ref} {o : Outline}

theorem PrintsOutline.outlines (ho : h.PrintsOutline h.printFuel [] v o) : h.Outlines v o where
  places := ho.places
  unique ho' := Outline.ext fun place => (ho' place).trans (ho.places place).symm
  ends := ho.text
  string := ho.text (Nat.le_refl _)
  echo := by
    unfold echo
    cases h.value v with
    | string _ | funcref _ => rfl
    | number _ | float _ | list _ | dict _ | blob _ => exact ho.text (Nat.le_refl _)
  printed hshort := by
    have hlong : o.isLong = false := by
      rw [Bool.eq_false_iff, ne_eq, Outline.isLong_iff]
      rintro ⟨n, hn, hlong⟩
      rw [hshort n hn] at hlong
      cases hlong
    have hmeets : h.meetsLong h.printFuel [] v = false := (ho.isLong (Nat.le_refl _)).trans hlong
    rw [printed, if_neg (Bool.eq_false_iff.mp hmeets)]
    exact congrArg Except.ok (ho.text (Nat.le_refl _))
  refused hlong := if_pos ((ho.isLong (Nat.le_refl _)).trans (Outline.isLong_iff.mpr hlong))
  echoed := by
    unfold echoed echo
    cases h.value v <;> rfl
  cycles := by
    constructor
    · rintro ⟨label, ⟨place, hplace⟩, hmark⟩ hv
      rw [ho.places, hv.printedLabel?_nil] at hplace
      rw [isMark_of_unfoldedLabel? hplace] at hmark
      cases hmark
    · intro htangled
      by_contra hnone
      refine htangled (untangled_of_unmarked ho.places .nil fun label hlabel => ?_)
      rw [Bool.eq_false_iff]
      exact fun hmark => hnone ⟨label, hlabel, hmark⟩
  unfolding hv place := (ho.places place).trans (hv.printedLabel?_nil place)

end Heap

/-- Printing ends for every value of a heap, with or without cycles, in the text of one outline.
Only a Number with too many digits in the outline keeps a script from getting it. -/
theorem printed_at_every_place {h : Heap} (hf : h.FuncrefsFormed) (v : Ref) :
    ∃ o, h.Outlines v o := by
  have hsteps : h.stepsFor [] v ≤ h.printFuel := by
    unfold Heap.stepsFor Heap.printFuel
    split <;> omega
  have hnil : (h.entered []).Nodup := .nil
  obtain ⟨o, ho⟩ := h.exists_printsOutline hf hnil hsteps
  exact ⟨o, ho.outlines⟩

/-- A List that holds itself and a Dictionary. In the Dictionary are the List and a Funcref that is
fixed to it, and whose arguments hold the Funcref. -/
def knotted : Heap where
  cells := #[{ value := .list [⟨0⟩, ⟨1⟩] },
    { value := .dict { entries := [("l", ⟨0⟩), ("f", ⟨2⟩)] } },
    { value := .funcref
        { callee := .declared 0 "F", arguments := ⟨3⟩, self := some ⟨1⟩, isSelfFixed := true } },
    { value := .list [⟨2⟩] }]

theorem knotted_funcref {r : Ref} {f : Funcref} (hf : knotted.value r = .funcref f) :
    f.arguments = ⟨3⟩ ∧ f.self = some ⟨1⟩ := by
  obtain ⟨i⟩ := r
  match i with
  | 0 | 1 | 3 => cases hf
  | 2 =>
      cases hf
      exact ⟨rfl, rfl⟩
  | i + 4 =>
      have hout : knotted.size ≤ i + 4 := Nat.le_add_left 4 i
      rw [Heap.value_of_size_le hout] at hf
      cases hf

theorem knotted_formed : knotted.FuncrefsFormed where
  arguments hf := ⟨[⟨2⟩], by rw [(knotted_funcref hf).1]; rfl⟩
  self hf hd := by
    cases (knotted_funcref hf).2.symm.trans hd
    exact ⟨_, rfl⟩

/-- Every way around ends at a mark. -/
theorem knotted_printed :
    knotted.FuncrefsFormed ∧ (∃ o, knotted.Outlines ⟨0⟩ o) ∧ knotted.string ⟨0⟩ =
      "[[...], \x7b'l': [...], 'f': function('F', [" ++
        "function('F', [...], \x7b...\x7d)], \x7b...\x7d)\x7d]" :=
  ⟨knotted_formed, printed_at_every_place knotted_formed ⟨0⟩, by rfl⟩

/-- A Number with too many digits to be written. -/
def longNumber : Heap where
  cells := #[{ value := .number (Nat.pow 10 Number.maxDigits : Nat) }]

/-- A Number has no cycles, and yet it has no printed form when it is too long. -/
theorem longNumber_unprinted : longNumber.FuncrefsFormed ∧ longNumber.Untangled ⟨0⟩ ∧
    longNumber.printed ⟨0⟩ = faulty (.tooManyDigits none) := by
  have hnumber : ∀ r, ∃ n, longNumber.value r = .number n := by
    rintro ⟨i⟩
    match i with
    | 0 => exact ⟨_, rfl⟩
    | i + 1 => exact ⟨_, Heap.value_of_size_le (Nat.le_add_left 1 i)⟩
  have hvalue : longNumber.value ⟨0⟩ = .number (Nat.pow 10 Number.maxDigits : Nat) := rfl
  have hlong : Number.isLong ((Nat.pow 10 Number.maxDigits : Nat) : Int) = true := by
    rw [Number.isLong, Int.natAbs_natCast]
    exact decide_eq_true (Nat.le_refl _)
  refine ⟨⟨fun {r f} hf => ?_, fun {r d f} hf _ => ?_⟩, ?_, ?_⟩
  · obtain ⟨n, hn⟩ := hnumber r
    cases hn.symm.trans hf
  · obtain ⟨n, hn⟩ := hnumber r
    cases hn.symm.trans hf
  · refine Heap.untangled_of_parts fun s hs => ?_
    rw [Heap.printedParts, hvalue] at hs
    cases hs
  · generalize ((Nat.pow 10 Number.maxDigits : Nat) : Int) = n at hvalue hlong
    have hmeets : longNumber.meetsLong longNumber.printFuel [] ⟨0⟩ = true := by
      unfold Heap.printFuel
      rw [Heap.meetsLong, hvalue]
      exact hlong
    rw [Heap.printed, if_pos hmeets]

end Vimscript
