import Vimscript.Library.Apply
import Vimscript.Proofs.Heap.Keeping

/-!
# What the built-in functions keep of the heap

The built-in functions that call no other function are operations on the
heap. Each of them reads its arguments, makes new objects and, for those
that change a container, replaces what the container holds; so each keeps
every mutating relation between heaps. One lemma per function, in the
order of the library. Those that call functions are computations of the
interpreter and are treated with it.
-/

namespace Vimscript.Library

open Op

variable {H : Heap → Heap → Prop} (hH : Heap.Mutating H)
include hH

/-! ## Numbers -/

theorem abs_keeps (r : Ref) : Keeps H (abs r) := by
  have hH' := hH.toExtending
  refine .bind hH' (value_keeps hH' r) fun v => ?_
  split
  · exact alloc_keeps hH' _
  · exact .bind hH' (.result hH' _) fun _ => number_keeps hH' _

theorem float2nr_keeps (r : Ref) : Keeps H (float2nr r) := by
  have hH' := hH.toExtending
  refine .bind hH' (value_keeps hH' r) fun v => ?_
  split
  · exact .pure hH' r
  · exact number_keeps hH' _
  · exact .fail hH' _

theorem str2float_keeps (r : Ref) : Keeps H (str2float r) := by
  have hH' := hH.toExtending
  refine .bind hH' (toText_keeps hH' r) fun s => ?_
  split
  · exact alloc_keeps hH' _
  · split
    · exact alloc_keeps hH' _
    · exact .faulty hH' _

theorem str2nr_keeps (r : Ref) (base : Option Ref) : Keeps H (str2nr r base) := by
  have hH' := hH.toExtending
  refine .bind hH' (toNumberD_keeps hH' 10 base) fun b => .ite ?_ (.fail hH' _)
  exact .bind hH' (toText_keeps hH' r) fun _ => number_keeps hH' _

theorem range_keeps (r : Ref) (last stride : Option Ref) : Keeps H (range r last stride) := by
  have hH' := hH.toExtending
  have hitems : ∀ first last step, Keeps H (do
      Op.list (← (rangeItems first last step).mapM Op.number)) := fun _ _ _ =>
    .bind hH' (.mapM hH' (number_keeps hH') _) fun _ => list_keeps hH' _
  refine .bind hH' (toNumber_keeps hH' r) fun n => ?_
  cases last with
  | none =>
      exact .bind hH' (.pure hH' (0, n - 1)) fun _ =>
        .bind hH' (toNumberD_keeps hH' 1 stride) fun _ => .failIf hH' (.failIf hH' (hitems _ _ _))
  | some e =>
      exact .bind hH' (toNumber_keeps hH' e) fun last => .bind hH' (.pure hH' (n, last)) fun _ =>
        .bind hH' (toNumberD_keeps hH' 1 stride) fun _ => .failIf hH' (.failIf hH' (hitems _ _ _))

theorem numbersOf_keeps (function : String) (r : Ref) : Keeps H (numbersOf function r) := by
  have hH' := hH.toExtending
  refine .bind hH' (value_keeps hH' r) fun v => ?_
  split
  · exact .mapM hH' (toNumber_keeps hH') _
  · exact .mapM hH' (toNumber_keeps hH') _
  · exact .fail hH' _

theorem maximum_keeps (r : Ref) : Keeps H (maximum r) := by
  have hH' := hH.toExtending
  refine .bind hH' (numbersOf_keeps hH _ r) fun ns => ?_
  split
  · exact number_keeps hH' _
  · exact number_keeps hH' _

theorem minimum_keeps (r : Ref) : Keeps H (minimum r) := by
  have hH' := hH.toExtending
  refine .bind hH' (numbersOf_keeps hH _ r) fun ns => ?_
  split
  · exact number_keeps hH' _
  · exact number_keeps hH' _

/-! ## Texts -/

theorem tolower_keeps (r : Ref) : Keeps H (tolower r) :=
  .bind hH.toExtending (toText_keeps hH.toExtending r) fun _ => string_keeps hH.toExtending _

theorem toupper_keeps (r : Ref) : Keeps H (toupper r) :=
  .bind hH.toExtending (toText_keeps hH.toExtending r) fun _ => string_keeps hH.toExtending _

theorem trim_keeps (r : Ref) (mask direction : Option Ref) : Keeps H (trim r mask direction) := by
  have hH' := hH.toExtending
  refine .bind hH' (toText_keeps hH' r) fun _ => .bind hH' (toTextD_keeps hH' "" mask) fun _ =>
    .bind hH' (toNumberD_keeps hH' 0 direction) fun _ => ?_
  split
  · exact .bind hH' (.orFault hH' _) fun _ => .fail hH' _
  · exact string_keeps hH' _

theorem requireSize_keeps (tooLong : Fault) (length : Nat) (count : Int) :
    Keeps H (requireSize tooLong length count) := by
  have hH' := hH.toExtending
  have hmemory : Keeps H (if maxHeld < length * count then (faulty .noMemory : Op Unit)
      else pure ()) := .ite (.faulty hH' _) (.pure hH' _)
  refine .ite (.bind hH' (.faulty hH' _) fun _ => ?_) ?_
  all_goals exact .ite (.bind hH' (.faulty hH' _) fun _ => hmemory) hmemory

theorem replicate_keeps (r count : Ref) : Keeps H (replicate r count) := by
  have hH' := hH.toExtending
  refine .bind hH' (toNumber_keeps hH' count) fun n => .bind hH' (value_keeps hH' r) fun v => ?_
  split
  · exact .bind hH' (requireSize_keeps hH _ _ n) fun _ => list_keeps hH' _
  · exact .bind hH' (.result hH' _) fun _ => .bind hH' (requireSize_keeps hH _ _ n) fun _ =>
      string_keeps hH' _

theorem split_keeps (r : Ref) (pattern keepEmpty : Option Ref) :
    Keeps H (split r pattern keepEmpty) :=
  have hH' := hH.toExtending
  .bind hH' (toText_keeps hH' r) fun _ => .bind hH' (toTextD_keeps hH' "" pattern) fun _ =>
    .bind hH' (.result hH' _) fun _ => .bind hH' (toBoolD_keeps hH' keepEmpty) fun _ =>
      .bind hH' (.mapM hH' (string_keeps hH') _) fun _ => list_keeps hH' _

theorem join_keeps (r : Ref) (separator : Option Ref) : Keeps H (join r separator) := by
  have hH' := hH.toExtending
  refine .bind hH' (value_keeps hH' r) fun v => ?_
  split
  · exact .bind hH' (toTextD_keeps hH' " " separator) fun _ =>
      .bind hH' (.reading hH' _) fun _ => string_keeps hH' _
  · exact .fail hH' _

theorem stringOf_keeps (r : Ref) : Keeps H (stringOf r) :=
  .bind hH.toExtending (.reading hH.toExtending _) fun _ => string_keeps hH.toExtending _

/-! ## Containers -/

theorem refuseLocked_keeps (r : Ref) (cause : Cause) : Keeps H (refuseLocked r cause) :=
  .bind hH.toExtending (isLocked_keeps hH.toExtending r) fun _ =>
    .ite (.fail hH.toExtending cause) (.pure hH.toExtending _)

theorem withItems_keeps (r : Ref) (items : List Ref) : Keeps H (withItems r items) :=
  .bind hH.toExtending (setValue_keeps hH r _) fun _ => .pure hH.toExtending r

theorem withBytes_keeps (r : Ref) (bytes : List UInt8) : Keeps H (withBytes r bytes) :=
  .bind hH.toExtending (setValue_keeps hH r _) fun _ => .pure hH.toExtending r

theorem typeOf_keeps (r : Ref) : Keeps H (typeOf r) :=
  .bind hH.toExtending (value_keeps hH.toExtending r) fun _ => number_keeps hH.toExtending _

theorem len_keeps (r : Ref) : Keeps H (len r) := by
  have hH' := hH.toExtending
  refine .bind hH' (value_keeps hH' r) fun v => ?_
  split
  · exact number_keeps hH' _
  · exact .bind hH' (.orFault hH' _) fun _ => number_keeps hH' _
  · exact number_keeps hH' _
  · exact number_keeps hH' _
  · exact number_keeps hH' _
  · exact .fail hH' _

theorem empty_keeps (r : Ref) : Keeps H (empty r) := by
  have hH' := hH.toExtending
  refine .bind hH' (value_keeps hH' r) fun v => ?_
  cases v <;> exact truth_keeps hH' _

theorem add_keeps (r item : Ref) : Keeps H (add r item) := by
  have hH' := hH.toExtending
  refine .bind hH' (value_keeps hH' r) fun v => ?_
  split
  · exact .bind hH' (refuseLocked_keeps hH r _) fun _ => withItems_keeps hH r _
  · exact .bind hH' (toNumber_keeps hH' item) fun _ => withBytes_keeps hH r _
  · exact .fail hH' _

theorem insert_keeps (r item : Ref) (at_ : Option Ref) : Keeps H (insert r item at_) := by
  have hH' := hH.toExtending
  refine .bind hH' (value_keeps hH' r) fun v => ?_
  split
  · refine .bind hH' (refuseLocked_keeps hH r _) fun _ =>
      .bind hH' (toNumberD_keeps hH' 0 at_) fun i => .ite ?_ (withItems_keeps hH r _)
    exact .bind hH' (.orFault hH' _) fun _ => .bind hH' (.fail hH' _) fun _ =>
      withItems_keeps hH r _
  · refine .bind hH' (toNumberD_keeps hH' 0 at_) fun i =>
      .bind hH' (toNumber_keeps hH' item) fun n => .ite ?_ (withBytes_keeps hH r _)
    exact .bind hH' (.faulty hH' _) fun _ => withBytes_keeps hH r _
  · exact .fail hH' _

theorem extendEntries_keeps (mode : ExtendMode) (r : Ref) :
    ∀ entries : List (String × Ref), Keeps H (extendEntries mode r entries)
  | [] => .pure hH.toExtending _
  | (key, value) :: rest => by
      have hH' := hH.toExtending
      have hrest := extendEntries_keeps mode r rest
      rw [extendEntries]
      refine .bind hH' (.get hH') fun h => ?_
      split
      · exact .bind hH' (.fail hH' _) fun _ => hrest
      · exact hrest
      · exact .bind hH' (refuseLocked_keeps hH _ _) fun _ =>
          .bind hH' (modifyTable_keeps hH r _) fun _ => hrest
      · exact .bind hH' (refuseLocked_keeps hH r _) fun _ =>
          .bind hH' (modifyTable_keeps hH r _) fun _ => hrest

theorem extend_keeps (r other : Ref) (how : Option Ref) : Keeps H (extend r other how) := by
  have hH' := hH.toExtending
  refine .bind hH' (value_keeps hH' r) fun _ => .bind hH' (value_keeps hH' other) fun _ => ?_
  split
  · refine .bind hH' (refuseLocked_keeps hH r _) fun _ => ?_
    cases how with
    | none => exact withItems_keeps hH r _
    | some e =>
        refine .bind hH' (toNumber_keeps hH' e) fun i => .ite ?_ (withItems_keeps hH r _)
        exact .bind hH' (.orFault hH' _) fun _ => .bind hH' (.fail hH' _) fun _ =>
          withItems_keeps hH r _
  · refine .bind hH' (toTextD_keeps hH' "force" how) fun mode => ?_
    split
    · exact .fail hH' _
    · exact .bind hH' (extendEntries_keeps hH _ r _) fun _ => .pure hH' r
  · exact .fail hH' _

theorem remove_keeps (r key : Ref) (last : Option Ref) : Keeps H (remove r key last) := by
  have hH' := hH.toExtending
  refine .bind hH' (value_keeps hH' r) fun v => ?_
  split
  · refine .bind hH' (refuseLocked_keeps hH r _) fun _ =>
      .bind hH' (toNumber_keeps hH' key) fun i => ?_
    split
    · exact .bind hH' (.orFault hH' _) fun _ => .fail hH' _
    · exact .bind hH' (setValue_keeps hH r _) fun _ => .pure hH' _
    · refine .bind hH' (toNumber_keeps hH' _) fun j => ?_
      split
      · exact .bind hH' (.orFault hH' _) fun _ => .fail hH' _
      · exact .failIf hH' (.bind hH' (setValue_keeps hH r _) fun _ => list_keeps hH' _)
  · refine .failIf hH' (.bind hH' (refuseLocked_keeps hH r _) fun _ =>
      .bind hH' (toText_keeps hH' key) fun k => ?_)
    split
    · exact .fail hH' _
    · exact .bind hH' (setValue_keeps hH r _) fun _ => .pure hH' _
  · refine .bind hH' (toNumber_keeps hH' key) fun i => ?_
    split
    · exact .bind hH' (.orFault hH' _) fun _ => .fail hH' _
    · exact .bind hH' (setValue_keeps hH r _) fun _ => number_keeps hH' _
  · exact .fail hH' _

theorem reverse_keeps (r : Ref) : Keeps H (reverse r) := by
  have hH' := hH.toExtending
  refine .bind hH' (value_keeps hH' r) fun v => ?_
  split
  · exact .bind hH' (refuseLocked_keeps hH r _) fun _ => withItems_keeps hH r _
  · exact withBytes_keeps hH r _
  · exact .fail hH' _

/-! ## Looking into containers -/

theorem funcrefPart_keeps (f : Funcref) (part : String) (fallback : Ref) :
    Keeps H (funcrefPart f part fallback) := by
  have hH' := hH.toExtending
  unfold funcrefPart
  split
  · exact string_keeps hH' _
  · exact .bind hH' (list_keeps hH' _) fun _ => alloc_keeps hH' _
  · exact .bind hH' (.get hH') fun _ => list_keeps hH' _
  · exact .pure hH' _
  · exact .fail hH' _

theorem getItem_keeps (r key : Ref) (default_ : Option Ref) : Keeps H (getItem r key default_) := by
  have hH' := hH.toExtending
  cases default_
  case' some d =>
    refine .bind hH' (.pure hH' d) fun _ => .bind hH' (value_keeps hH' r) fun v => ?_
  case' none =>
    refine .bind hH' (number_keeps hH' 0) fun _ => .bind hH' (value_keeps hH' r) fun v => ?_
  all_goals
    split
    · exact .bind hH' (toNumber_keeps hH' key) fun _ => .pure hH' _
    · refine .bind hH' (toNumber_keeps hH' key) fun i => ?_
      split
      · exact number_keeps hH' _
      · exact .pure hH' _
    · exact .bind hH' (toText_keeps hH' key) fun _ => .pure hH' _
    · exact .bind hH' (toText_keeps hH' key) fun _ => funcrefPart_keeps hH _ _ _
    · exact .fail hH' _

theorem requireDict_keeps (r : Ref) : Keeps H (requireDict r) := by
  have hH' := hH.toExtending
  refine .bind hH' (value_keeps hH' r) fun v => ?_
  split
  · exact .pure hH' _
  · exact .fail hH' _

theorem hasKey_keeps (r key : Ref) : Keeps H (hasKey r key) :=
  .bind hH.toExtending (requireDict_keeps hH r) fun _ =>
    .bind hH.toExtending (toText_keeps hH.toExtending key) fun _ => truth_keeps hH.toExtending _

theorem keys_keeps (r : Ref) : Keeps H (keys r) :=
  have hH' := hH.toExtending
  .bind hH' (requireDict_keeps hH r) fun _ =>
    .bind hH' (.mapM hH' (string_keeps hH') _) fun _ => list_keeps hH' _

theorem values_keeps (r : Ref) : Keeps H (values r) :=
  .bind hH.toExtending (requireDict_keeps hH r) fun _ => list_keeps hH.toExtending _

theorem items_keeps (r : Ref) : Keeps H (items r) := by
  have hH' := hH.toExtending
  refine .bind hH' (requireDict_keeps hH r) fun t => .bind hH' (.mapM hH' ?_ _) fun _ =>
    list_keeps hH' _
  exact fun _ => .bind hH' (string_keeps hH' _) fun _ => list_keeps hH' _

theorem index_keeps (r item : Ref) (start ignoreCase : Option Ref) :
    Keeps H (index r item start ignoreCase) := by
  have hH' := hH.toExtending
  refine .bind hH' (toBoolD_keeps hH' ignoreCase) fun _ => .bind hH' (value_keeps hH' r) fun v => ?_
  split
  · exact .bind hH' (toNumberD_keeps hH' 0 start) fun _ => .bind hH' (.reading hH' _) fun _ =>
      number_keeps hH' _
  · exact .bind hH' (toNumber_keeps hH' item) fun _ =>
      .bind hH' (toNumberD_keeps hH' 0 start) fun _ => .bind hH' (.result hH' _) fun _ =>
        number_keeps hH' _
  · exact .fail hH' _

theorem count_keeps (r item : Ref) (ignoreCase start : Option Ref) :
    Keeps H (count r item ignoreCase start) := by
  have hH' := hH.toExtending
  refine .bind hH' (toBoolD_keeps hH' ignoreCase) fun _ => .bind hH' (value_keeps hH' r) fun v => ?_
  have hcounted : ∀ f : Heap → Result Nat, Keeps H (do Op.number (← Op.reading f)) := fun f =>
    .bind hH' (.reading hH' f) fun _ => number_keeps hH' _
  split
  · refine .bind hH' (toNumberD_keeps hH' 0 start) fun i => .ite ?_ (hcounted _)
    exact .bind hH' (.orFault hH' _) fun _ => .bind hH' (.fail hH' _) fun _ => hcounted _
  · exact hcounted _
  · exact .bind hH' (toText_keeps hH' item) fun _ => number_keeps hH' _
  · exact .fail hH' _

/-! ## Places and Funcrefs -/

theorem follow_keeps : ∀ (r : Ref) (steps : List Accessor), Keeps H (follow r steps)
  | r, [] => .pure hH.toExtending r
  | r, .key name :: rest =>
      have hH' := hH.toExtending
      .bind hH' (string_keeps hH' name) fun _ => .bind hH' (Op.index_keeps hH' r _) fun _ =>
        follow_keeps _ rest
  | r, .index n _ :: rest =>
      have hH' := hH.toExtending
      .bind hH' (.orFault hH' _) fun _ => .bind hH' (number_keeps hH' n) fun _ =>
        .bind hH' (Op.index_keeps hH' r _) fun _ => follow_keeps _ rest

theorem listArgument_keeps (r : Option Ref) : Keeps H (listArgument r) := by
  have hH' := hH.toExtending
  cases r with
  | none => exact .pure hH' _
  | some r =>
      refine .bind hH' (value_keeps hH' r) fun v => ?_
      split
      · exact .pure hH' _
      · exact .fail hH' _

theorem dictArgument_keeps (r : Option Ref) : Keeps H (dictArgument r) := by
  have hH' := hH.toExtending
  cases r with
  | none => exact .pure hH' _
  | some r =>
      refine .bind hH' (value_keeps hH' r) fun v => ?_
      split
      · exact .pure hH' _
      · exact .fail hH' _

theorem funcrefOptions_keeps (arguments self : Option Ref) :
    Keeps H (funcrefOptions arguments self) := by
  have hH' := hH.toExtending
  unfold funcrefOptions
  split
  · refine .bind hH' (value_keeps hH' _) fun v => ?_
    split
    · exact .pure hH' _
    · exact .pure hH' _
  · exact .pure hH' _

end Vimscript.Library
