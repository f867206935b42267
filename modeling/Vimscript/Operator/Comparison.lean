import Vimscript.Heap.Coerce

/-!
# Comparison operators

Containers are compared by content with `==` and `!=` only, and by identity with `is` and `isnot`.
Other values are ordered: as Floats when one is a Float, as texts when both are Strings, and as
Numbers otherwise.
-/

namespace Vimscript

/-- Tells whether a pattern matches a text. -/
abbrev Matcher := String → String → Result Bool

namespace Relation

/-- Whether a relation of order holds, given how the left side lies to the right one. -/
def holds : Relation → Ordering → Bool
  | equal, o => o == .eq
  | notEqual, o => o != .eq
  | greater, o => o == .gt
  | greaterEqual, o => o != .lt
  | less, o => o == .lt
  | lessEqual, o => o != .gt
  | _, _ => false

end Relation

/-- How two Floats lie to each other; not-a-number is neither above nor below anything. -/
def orderFloats (a b : Float) : Ordering :=
  if a > b then .gt else if a < b then .lt else .eq

/-- How two texts lie to each other, character by character. -/
def orderTexts (a b : String) : Ordering :=
  if a < b then .lt else if b < a then .gt else .eq

namespace Heap

/-- Whether two values are the same one: containers by identity, others of one kind by content. -/
def identical (h : Heap) (ignoreCase : Bool) (a b : Ref) : Result Bool :=
  if (h.value a).isShared || (h.value b).isShared then .ok (a == b)
  else if (h.value a).kind == (h.value b).kind then h.equal ignoreCase a b
  else .ok false

/-- Answers `==` and `!=` by an equality and refuses every other relation. -/
def byEquality (relation : Relation) (refusal : Cause) (eq : Result Bool) : Result Bool :=
  match relation with
  | .equal => eq
  | .notEqual => do return !(← eq)
  | _ => fail refusal

/-- Whether a relation of order or equality holds between two values. -/
def related (h : Heap) (relation : Relation) (ignoreCase : Bool) (a b : Ref) : Result Bool :=
  match h.value a, h.value b with
  | .list _, .list _ => byEquality relation .listOperation (h.equal ignoreCase a b)
  | .list _, _ | _, .list _ => fail .compareList
  | .dict _, .dict _ => byEquality relation .dictOperation (h.equal ignoreCase a b)
  | .dict _, _ | _, .dict _ => fail .compareDict
  | .funcref _, .funcref _ => byEquality relation .funcrefOperation (h.equal false a b)
  | .funcref _, _ | _, .funcref _ => byEquality relation .funcrefOperation (.ok false)
  | .string s, .string t =>
    let fold (x : String) : String := if ignoreCase then Text.lower x else x
    .ok (relation.holds (orderTexts (fold s) (fold t)))
  | va, vb =>
    if va.isFloat || vb.isFloat then do
      return relation.holds (orderFloats (← va.toFloat) (← vb.toFloat))
    else do return relation.holds (compare (← va.toNumber) (← vb.toNumber))

/-- Whether the right value, as a pattern, matches the left one. -/
def matching (h : Heap) (matcher : Option Matcher) (ignoreCase : Bool) (a b : Ref) :
    Result Bool :=
  match matcher with
  | none => faulty .noMatcher
  | some m => do
    let pattern ← (h.value b).toText
    let pattern := if ignoreCase then "\\c" ++ pattern else pattern
    m pattern (← (h.value a).toText)

/-- Whether a comparison holds. -/
def compares (h : Heap) (matcher : Option Matcher) (relation : Relation) (rule : CaseRule)
    (a b : Ref) : Result Bool :=
  match relation with
  | .same => h.identical rule.ignoresCase a b
  | .notSame => do return !(← h.identical rule.ignoresCase a b)
  | .matching => h.matching matcher rule.ignoresCase a b
  | .notMatching => do return !(← h.matching matcher rule.ignoresCase a b)
  | relation => h.related relation rule.ignoresCase a b

end Heap

end Vimscript
