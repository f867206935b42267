/-!
# Sorting with effects

A merge sort whose comparison is a computation. Each comparison is of an item with one that stood
behind it, and of two items that compare equal the one that stood first stays first.
-/

namespace Vimscript

universe u

variable {m : Type → Type u} [Monad m] {α : Type}

/-- Merges two lists; `le a b` tells whether `a`, from the first list, may stand before `b`. -/
def mergeM (le : α → α → m Bool) : List α → List α → m (List α)
  | [], bs => return bs
  | as, [] => return as
  | a :: as, b :: bs => do
    if ← le a b then return a :: (← mergeM le as (b :: bs))
    else return b :: (← mergeM le (a :: as) bs)
termination_by as bs => as.length + bs.length

/-- Sorts a list: each half first, then the two halves merged. -/
def mergeSortM (le : α → α → m Bool) (items : List α) : m (List α) :=
  if items.length ≤ 1 then return items
  else do
    let left ← mergeSortM le (items.take (items.length / 2))
    let right ← mergeSortM le (items.drop (items.length / 2))
    mergeM le left right
termination_by items.length
decreasing_by
  · simp only [List.length_take]; omega
  · simp only [List.length_drop]; omega

end Vimscript
