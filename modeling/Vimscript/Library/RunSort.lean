/-!
# Sorting by runs

A stable sort that makes use of the order a list is in already: the run it starts with is kept, or
turned around where it descends, and each further item is put in its place by halving. Where
the comparison is that of an order this is the stable sort of the list. It is also fixed what
comes out where some items cannot be compared, since it is fixed which comparisons are made.
-/

namespace Vimscript

variable {α : Type}

/-- Splits off the items that go on a run; `last` is the item before them. -/
def spanRun (goesOn : α → α → Bool) (last : α) : List α → List α × List α
  | [] => ([], [])
  | x :: rest =>
    if goesOn last x then
      let (run, tail) := spanRun goesOn x rest
      (x :: run, tail)
    else ([], x :: rest)

/-- The run a list starts with, in ascending order, and what follows it. A descending run descends
strictly, so that items that compare equal stay in order. -/
def leadingRun (lt : α → α → Bool) : List α → List α × List α
  | a :: b :: rest =>
    if lt b a then
      let (run, tail) := spanRun (fun last x => lt x last) a (b :: rest)
      ((a :: run).reverse, tail)
    else
      let (run, tail) := spanRun (fun last x => !lt x last) a (b :: rest)
      (a :: run, tail)
  | items => (items, [])

/-- The place of an item between two places of a list, found by halving: behind every item that was
looked at and that it does not precede. -/
def placeBetween (lt : α → α → Bool) (x : α) (items : Array α) (low high : Nat) : Nat :=
  if low < high then
    let middle := low + (high - low) / 2
    match items[middle]? with
    | some y =>
      if lt x y then placeBetween lt x items low middle
      else placeBetween lt x items (middle + 1) high
    | none => low
  else low
termination_by high - low

/-- Puts an item in its place. -/
def insertByHalves (lt : α → α → Bool) (items : Array α) (x : α) : Array α :=
  let place := placeBetween lt x items 0 items.size
  items.extract 0 place ++ #[x] ++ items.extract place items.size

/-- Sorts a list. -/
def runSort (lt : α → α → Bool) (items : List α) : List α :=
  let (run, rest) := leadingRun lt items
  (rest.foldl (insertByHalves lt) run.toArray).toList

end Vimscript
