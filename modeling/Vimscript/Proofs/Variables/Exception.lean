import Vimscript.Proofs.Eval.Try
import Vimscript.Proofs.Variables.Binding
import Vimscript.Proofs.Variables.ReadOnly
import Vimscript.Proofs.Variables.Texts

/-!
# `v:exception` in a clause

A clause starts with the message of its error in `v:exception`, and when it
ends the variable is emptied, whatever was there before. So a clause loses
its message as soon as another one has been run inside it, in a nested
`:try` statement or in a function that it calls.

Whether that has happened can be told from `v:throwpoint`: it is bound to a
new object when a clause is entered and at no other time, and is not set
back. As long as it is bound to the same object the message is there, and
not a moment longer (`exception_kept_untilNextClause`).

Two facts carry this through a run. The variables are either both bound as
they were or both to other objects (`Table.Tells`, `Table.TellsAnew`). The
first of these does not survive the entry of a clause, but from then on the
second does survive everything, so that what is known of a clause as a whole
is known from its body (`telling_handles`).
-/

namespace Vimscript

open Run

/-! ## Entering and leaving a clause -/

/-- The state in which the message and the place of an error have been told. -/
def told (setup : Setup) (c : Context) (e : ScriptError) (s : State) : State :=
  let s := withVimText setup "exception" e.message s
  withVimText setup "throwpoint" (e.throwpoint.getD (placeOf c s)) s

section

variable {setup : Setup} {c : Context} {e : ScriptError} {s u : State}

theorem entered_eq_told (k : Clause) :
    entered setup c e k s = told setup c e (selected setup k e.message s) := rfl

/-- Whatever the handler does, `v:exception` is emptied behind it. -/
theorem handle_of_told {handler : Run Signal} {result : Except Stop Signal}
    (hhandler : handler setup (told setup c e s) = (result, u)) :
    handle e handler c setup s = (.ok result, withVimText setup "exception" "" u) :=
  handle_eq (k := .mk .null []) hhandler

theorem HasVim.withVimText (hs : HasVim setup s) (name text : String) :
    HasVim setup (withVimText setup name text s) := by
  rw [HasVim, size_withVimText]
  exact Nat.lt_succ_of_lt hs

variable (hs : HasVim setup s)
include hs

theorem table_told : (told setup c e s).heap.table setup.spaces.vim =
    ((s.heap.table setup.spaces.vim).insert "exception" ⟨s.heap.size⟩).insert "throwpoint"
      ⟨s.heap.size + 1⟩ := by
  rw [told, table_withVimText (hs.withVimText _ _), table_withVimText hs, size_withVimText]

theorem told_exception :
    vimBinding setup "exception" (told setup c e s) = some ⟨s.heap.size⟩ := by
  rw [vimBinding, table_told hs, Table.get?_insert, if_neg (by decide), Table.get?_insert,
    if_pos rfl]

theorem told_throwpoint :
    vimBinding setup "throwpoint" (told setup c e s) = some ⟨s.heap.size + 1⟩ := by
  rw [vimBinding, table_told hs, Table.get?_insert, if_pos rfl]

/-- A text that has been written into a variable of the editor is read there. -/
theorem withVimText_reads (M : Machine) (c : Context) (text : String) :
    ReadsException M c setup (withVimText setup "exception" text s) text := by
  refine ⟨_, evalExpr_vim M c ?_, value_withVimText_new hs _ _⟩
  rw [table_withVimText hs, Table.get?_insert, if_pos rfl]

end

/-! ## What is told -/

/-- The variables that tell of an error are bound to two objects. -/
structure Table.Tells (t : Table) (message place : Ref) : Prop where
  exception : t.get? "exception" = some message
  throwpoint : t.get? "throwpoint" = some place

/-- Neither of them is bound to its object. -/
structure Table.TellsAnew (t : Table) (message place : Ref) : Prop where
  exception : t.get? "exception" ≠ some message
  throwpoint : t.get? "throwpoint" ≠ some place

/-- Either both of them are bound to their objects or neither is. -/
def Table.Follows (message place : Ref) (t : Table) : Prop :=
  t.Tells message place ∨ t.TellsAnew message place

section

variable {t t' : Table} {message place : Ref}

theorem Table.Tells.of_agree (ht : t.Tells message place)
    (hagree : ∀ name ∉ incidental, t'.get? name = t.get? name) : t'.Tells message place where
  exception := (hagree "exception" (by decide)).trans ht.exception
  throwpoint := (hagree "throwpoint" (by decide)).trans ht.throwpoint

theorem Table.TellsAnew.of_agree (ht : t.TellsAnew message place)
    (hagree : ∀ name ∉ incidental, t'.get? name = t.get? name) :
    t'.TellsAnew message place where
  exception := by
    rw [hagree "exception" (by decide)]
    exact ht.exception
  throwpoint := by
    rw [hagree "throwpoint" (by decide)]
    exact ht.throwpoint

/-- Other objects do not bring the two back. -/
theorem Table.TellsAnew.insert {value : Ref} (ht : t.TellsAnew message place) (name : String)
    (hmessage : value ≠ message) (hplace : value ≠ place) :
    (t.insert name value).TellsAnew message place := by
  constructor <;> rw [Table.get?_insert] <;> split
  · exact fun h => hmessage (Option.some.inj h)
  · exact ht.exception
  · exact fun h => hplace (Option.some.inj h)
  · exact ht.throwpoint

end

/-- Code that leaves the namespace of the editor alone does not write what is told of an error. -/
theorem ReadOnly.editor_secure {setup : Setup} {Keeps : Table → Prop}
    (hkeeps : ∀ t t' : Table, (∀ name ∉ incidental, t'.get? name = t.get? name) →
      Keeps t → Keeps t') : (ReadOnly.editor.seclusion setup Keeps).Secure :=
  have hne {name other : String} (hname : name ∈ incidental) (hother : other ∉ incidental) :
      name ≠ other := fun heq => hother (heq ▸ hname)
  have hagrees : (ReadOnly.editor.seclusion setup (ReadOnly.editor.Agrees {})).Lawful :=
    ReadOnly.seclusion_lawful (fun _ => rfl) {}
  { hagrees with
    set := fun _ hc _ _ _ hok htarget _ _ =>
      absurd (hc.1.of_target htarget) (ReadOnly.not_names_of_ok .editor hok)
    unlet := fun hc hok hspace _ _ =>
      absurd (hc.1.of_space hspace) (ReadOnly.not_names_of_ok .editor hok)
    lockName := fun name _ ht =>
      hkeeps _ _ (fun other _ => Table.get?_lockName _ name other) ht
    unlockName := fun {t} name _ ht => hkeeps t (t.unlockName name) (fun _ _ => rfl) ht
    setVim := fun _ _ hname ht => hkeeps _ _ (fun other hother => by
      rw [Table.get?_insert, if_neg (hne hname hother)]) ht
    dropVim := fun _ hname ht => hkeeps _ _ (fun other hother => by
      rw [Table.get?_erase, if_neg (hne hname hother)]) ht }

/-! ## Clauses inside a clause -/

/-- The regime in which something is true of the editor's variables and the Strings of a heap stay
as they are. -/
abbrev telling (setup : Setup) (start : Heap) (Keeps : Table → Prop) : Regime :=
  (ReadOnly.editor.seclusion setup Keeps).withTexts start

section

variable {setup : Setup} (hparse : (ReadOnly.editor.apart setup).Parses) {start : Heap}
  (hvim : ¬start.IsText setup.spaces.vim) {Keeps : Table → Prop}

/-- What is asked of the table can be told apart from the rest. -/
theorem telling_good_iff {s : State} : (telling setup start Keeps).Good s ↔
    (telling setup start fun _ => True).Good s ∧ Keeps (s.heap.table setup.spaces.vim) := by
  have hback : ∀ {K K' : Table → Prop}, (telling setup start K).Good s →
      K' (s.heap.table setup.spaces.vim) → (telling setup start K').Good s := by
    rintro K K' ⟨⟨hsecluded, htexts⟩, hallows⟩ hkeeps
    have hgood : (ReadOnly.editor.seclusion setup K).Good s :=
      ⟨hsecluded, fun d hd => (hallows d hd).1⟩
    obtain ⟨hsecluded', hallows'⟩ := hgood.keeping hkeeps
    exact ⟨⟨hsecluded', htexts⟩, fun d hd => ⟨hallows' d hd, (hallows d hd).2⟩⟩
  exact ⟨fun hs => ⟨hback hs trivial, Policy.secluded_table hs.1.1⟩, fun hs => hback hs.1 hs.2⟩

theorem hasVim_of_telling {s : State} (hs : (telling setup start Keeps).Good s) :
    HasVim setup s := by
  obtain ⟨⟨⟨⟨t, ht, -⟩, -⟩, -⟩, -⟩ := hs
  exact Heap.index_lt_of_dict ht

include hvim

theorem telling_setVim (name : String) {value : Ref}
    (hgiven : (telling setup start Keeps).policy.Given value)
    (hkeeps : ∀ t, Keeps t → Keeps (t.insert name value)) :
    Op.Safe (telling setup start Keeps).policy (fun _ => True)
      (setup.spaces.setVim name value) :=
  (Seclusion.setVim_safe hgiven.1 fun _ => hkeeps).and (Spaces.setVim_texts hvim value)
    fun _ _ _ => trivial

include hparse

theorem telling_lawful (hkeeps : ∀ t t' : Table,
    (∀ name ∉ incidental, t'.get? name = t.get? name) → Keeps t → Keeps t') :
    (telling setup start Keeps).Lawful :=
  Seclusion.withTexts_lawful (ReadOnly.editor_secure hkeeps)
    ⟨hparse.statements, hparse.expression⟩ hvim

/-- Texts can be written into the variables if nothing is asked of them. -/
theorem told_good {s : State} (hs : (telling setup start Keeps).Good s) (c : Context)
    (e : ScriptError) : (telling setup start fun _ => True).Good (told setup c e s) := by
  have hlawful : (telling setup start fun _ => True).Lawful :=
    telling_lawful hparse hvim fun _ _ _ _ => trivial
  have hwrite : ∀ {s : State} (name text : String), (telling setup start fun _ => True).Good s →
      (telling setup start fun _ => True).Good (withVimText setup name text s) :=
    fun name text hs => (setVimText_safe hlawful text (fun value hgiven _ =>
      telling_setVim hvim name hgiven fun _ _ => trivial) _ hs).1
  exact hwrite _ _ (hwrite _ _ (telling_good_iff.mp hs).1)

theorem anew_lawful (message place : Ref) :
    (telling setup start (·.TellsAnew message place)).Lawful :=
  telling_lawful hparse hvim fun _ _ hagree ht => ht.of_agree hagree

variable {message place : Ref} (hmessage : start.IsText message) (hplace : start.IsText place)
include hmessage hplace

omit hparse in
/-- New objects are not the two. -/
theorem anew_setVim (name : String) {value : Ref}
    (hgiven : (telling setup start (·.TellsAnew message place)).policy.Given value)
    (hfree : (telling setup start (·.TellsAnew message place)).policy.Free value) :
    Op.Safe (telling setup start (·.TellsAnew message place)).policy (fun _ => True)
      (setup.spaces.setVim name value) := by
  refine telling_setVim hvim name hgiven fun t ht => ht.insert name ?_ ?_
  · rintro rfl
    exact hfree.2 hmessage
  · rintro rfl
    exact hfree.2 hplace

/-- Once both variables are bound to other objects, no clause brings the two back. -/
theorem anew_drives (n : Nat) :
    (telling setup start (·.TellsAnew message place)).Drives (Machine.ofFuel n) := by
  have hlawful := anew_lawful hparse hvim message place
  refine Regime.ofFuel_drives hlawful (fun _ => handles_of_setVim hlawful ?_ _) n
  exact fun name _ _ hgiven hfree => anew_setVim hvim hmessage hplace name hgiven hfree

/-- Entering a clause binds both variables to new objects. -/
theorem told_anew {s : State} (hs : (telling setup start Keeps).Good s) (c : Context)
    (e : ScriptError) :
    (telling setup start (·.TellsAnew message place)).Good (told setup c e s) := by
  refine telling_good_iff.mpr ⟨told_good hparse hvim hs c e, ?_⟩
  have hhas := hasVim_of_telling hs
  have hold : ∀ {r : Ref}, start.IsText r → r.index < s.heap.size :=
    fun hr => Policy.isText_bound hs.1.2 hr
  constructor
  · intro hback
    obtain rfl := Option.some.inj ((told_exception hhas).symm.trans hback)
    exact Nat.lt_irrefl _ (hold hmessage)
  · intro hback
    obtain rfl := Option.some.inj ((told_throwpoint hhas).symm.trans hback)
    exact Nat.lt_irrefl _ (Nat.lt_of_succ_lt (hold hplace))

/-- The variables are bound to the two objects, or a clause has been entered and neither is. -/
theorem telling_handles (n : Nat) :
    (telling setup start (Table.Follows message place)).Handles
      (Machine.ofFuel n) := by
  intro e c body hc hbody _ s hs
  have hlawful := anew_lawful hparse hvim message place
  have hdrives := anew_drives hparse hvim hmessage hplace n
  have hentered := told_anew hparse hvim hmessage hplace hs c e
  have hrun : SafeAt setup (telling setup start (·.TellsAnew message place)).Good _
    (execAll (Machine.ofFuel n) c body) (told setup c e s) :=
    execAll_safe hlawful hdrives hc body hbody _ hentered
  obtain ⟨hu, hsignal⟩ := hrun
  rcases hout : execAll (Machine.ofFuel n) c body setup (told setup c e s) with ⟨result, u⟩
  rw [hout] at hu hsignal
  have hleft : (telling setup start (·.TellsAnew message place)).Good
      (withVimText setup "exception" "" u) :=
    (setVimText_safe hlawful "" (fun value => anew_setVim hvim hmessage hplace "exception") u hu).1
  obtain ⟨hgood, hanew⟩ := telling_good_iff.mp hleft
  change Regime.Good _ (handle e _ c setup s).2 ∧ ∀ a, (handle e _ c setup s).1 = .ok a → Gives _ a
  rw [handle_of_told hout]
  refine ⟨telling_good_iff.mpr ⟨hgood, .inr hanew⟩, ?_⟩
  rintro _ ⟨⟩
  exact hsignal

/-- A list of statements leaves the variables bound to the two objects, or both to other ones. -/
theorem telling_execAll {n : Nat} {c : Context} {body : List Stmt} {s : State}
    (hs : (telling setup start (Table.Follows message place)).Good s)
    (hc : (telling setup start (Table.Follows message place)).Runs c)
    (hbody : ∀ t ∈ body, (ReadOnly.editor.apart setup).Does c t) :
    (telling setup start (Table.Follows message place)).Good
      (execAll (Machine.ofFuel n) c body setup s).2 := by
  have hlawful : (telling setup start (Table.Follows message place)).Lawful := by
    refine telling_lawful hparse hvim fun _ _ hagree ht => ?_
    exact ht.imp (·.of_agree hagree) (·.of_agree hagree)
  have hdrives := Regime.ofFuel_drives hlawful (telling_handles hparse hvim hmessage hplace) n
  exact (execAll_safe hlawful hdrives hc body hbody s hs).1

end

/-! ## From the start of a clause -/

theorem Spaces.SeesTables.hidesTexts {sp : Spaces} {h : Heap} {c : Context}
    (hc : sp.SeesTables h c) : sp.HidesTexts h c := by
  rintro r ⟨s, hs⟩ scope name first rest hvisible hmem
  obtain ⟨t, ht⟩ := hc scope name first rest hvisible r hmem
  cases ht.symm.trans hs

/-- No clause has been entered in between. -/
def SameClause (setup : Setup) (s t : State) : Prop :=
  vimBinding setup "throwpoint" t = vimBinding setup "throwpoint" s

section

variable {setup : Setup} {c : Context} {e : ScriptError} {s : State}

theorem value_told_of_ne {r : Ref} (hr : r.index < s.heap.size) (hne : r ≠ setup.spaces.vim) :
    (told setup c e s).heap.value r = s.heap.value r := by
  rw [told, value_withVimText_of_ne _ _ _ hne, value_withVimText_of_ne _ _ hr hne]
  rw [size_withVimText]
  exact Nat.lt_succ_of_lt hr

theorem value_told_message (hs : HasVim setup s) :
    (told setup c e s).heap.value ⟨s.heap.size⟩ = .string e.message := by
  have hne : (⟨s.heap.size⟩ : Ref) ≠ setup.spaces.vim := by
    intro heq
    rw [HasVim, ← heq] at hs
    exact Nat.lt_irrefl _ hs
  rw [told, value_withVimText_of_ne _ _ _ hne, value_withVimText_new hs]
  rw [size_withVimText]
  exact Nat.lt_succ_self _

theorem isText_told_place (hs : HasVim setup s) :
    (told setup c e s).heap.IsText ⟨s.heap.size + 1⟩ := by
  let u := withVimText setup "exception" e.message s
  have hsize : u.heap.size = s.heap.size + 1 := size_withVimText _ _
  rw [← hsize]
  exact ⟨_, value_withVimText_new (hs.withVimText _ _) "throwpoint"
    (e.throwpoint.getD (placeOf c u))⟩

theorem selected_registry (k : Clause) (message : String) :
    (selected setup k message s).registry = s.registry := by
  unfold selected traced
  split
  · split <;> rfl
  · rfl

end

/-- A state in which a namespace is secluded, among the Strings that there are. -/
theorem Seclusion.Good.withTexts {V : Seclusion} {s : State} (hs : V.Good s)
    (hsees : ∀ d ∈ s.registry.declarations,
      V.setup.spaces.SeesTables s.heap ⟨d.script, d.parent⟩) : (V.withTexts s.heap).Good s :=
  ⟨⟨hs.1, fun _ _ hr => hr⟩, fun d hd => ⟨hs.2 d hd, (hsees d hd).hidesTexts⟩⟩

section

variable {setup : Setup} {c : Context} {e : ScriptError} {s : State}

theorem Spaces.SeesTables.told {t : Table} {c' : Context}
    (hsees : setup.spaces.SeesTables s.heap c')
    (hvim : (told setup c e s).heap.value setup.spaces.vim = .dict t) :
    setup.spaces.SeesTables (told setup c e s).heap c' := by
  intro scope name first rest hvisible ns hns
  obtain ⟨t', ht'⟩ := hsees scope name first rest hvisible ns hns
  by_cases heq : ns = setup.spaces.vim
  · exact ⟨t, heq ▸ hvim⟩
  · exact ⟨t', (value_told_of_ne (Heap.index_lt_of_dict ht') heq).trans ht'⟩

/-- When a clause starts, the message and the place of its error are the two objects. -/
theorem telling_told (hparse : (ReadOnly.editor.apart setup).Parses)
    (hs : (ReadOnly.editor.apart setup).Good s)
    (hsees : ∀ d ∈ s.registry.declarations,
      setup.spaces.SeesTables s.heap ⟨d.script, d.parent⟩) (c : Context) (e : ScriptError) :
    (∃ t, (told setup c e s).heap.value setup.spaces.vim = .dict t) ∧
      (telling setup (told setup c e s).heap
        (Table.Follows ⟨s.heap.size⟩ ⟨s.heap.size + 1⟩)).Good (told setup c e s) := by
  have hgood : (telling setup s.heap fun _ => True).Good s := hs.withTexts hsees
  have hhas := hasVim_of_telling hgood
  have hvim : ¬s.heap.IsText setup.spaces.vim := by
    obtain ⟨⟨⟨t, ht, -⟩, -⟩, -⟩ := hs
    rintro ⟨text, htext⟩
    cases ht.symm.trans htext
  have htold := told_good hparse hvim hgood c e
  obtain ⟨t, ht, -⟩ := htold.1.1.1
  have hapart : (ReadOnly.editor.apart setup).Good (told setup c e s) :=
    ⟨htold.1.1, fun d hd => (htold.2 d hd).1⟩
  refine ⟨⟨t, ht⟩, telling_good_iff.mpr ⟨hapart.withTexts fun d hd => (hsees d hd).told ht, ?_⟩⟩
  exact .inl ⟨told_exception hhas, told_throwpoint hhas⟩

end

/-- What a clause that was started in one state can read of its error in another. -/
structure MessageKept (setup : Setup) (M : Machine) (c : Context) (e : ScriptError)
    (start t : State) : Prop where
  /-- As long as no other clause has been entered, the message is there. -/
  reads : SameClause setup start t → ReadsException M c setup t e.message
  /-- The object that was told when the clause was entered is there for so long and no longer. -/
  same_iff : vimBinding setup "exception" t = vimBinding setup "exception" start ↔
    SameClause setup start t
  /-- An error that is handled here enters another clause, -/
  entering (c' : Context) (e' : ScriptError) (k : Clause) :
    ¬SameClause setup start (entered setup c' e' k t)
  /-- and behind that nothing is read. -/
  leaving {c' : Context} {e' : ScriptError} {body : List Stmt}
    {result : Except Stop (Except Stop Signal)} {u : State} :
    handle e' (execAll M c' body) c' setup t = (result, u) → ReadsException M c setup u ""

/-- What is kept of the two objects says what can be read. -/
theorem messageKept_of_telling {setup : Setup} {c : Context} {e : ScriptError} {s t : State}
    (hs : HasVim setup s) (ht : (telling setup (told setup c e s).heap
      (Table.Follows ⟨s.heap.size⟩ ⟨s.heap.size + 1⟩)).Good t) (fuel : Nat) :
    MessageKept setup (Machine.ofFuel fuel) c e (told setup c e s) t := by
  have hhas : HasVim setup t := hasVim_of_telling ht
  obtain ⟨⟨⟨-, htexts⟩, -⟩, hfollows⟩ := telling_good_iff.mp ht
  have hboth : vimBinding setup "exception" t = some ⟨s.heap.size⟩ ↔
      vimBinding setup "throwpoint" t = some ⟨s.heap.size + 1⟩ := by
    rcases hfollows with htells | hanew
    · exact iff_of_true htells.exception htells.throwpoint
    · exact iff_of_false hanew.exception hanew.throwpoint
  have hsame : SameClause setup (told setup c e s) t ↔
      vimBinding setup "throwpoint" t = some ⟨s.heap.size + 1⟩ := by
    rw [SameClause, told_throwpoint hs]
  constructor
  case reads =>
    intro h
    exact ⟨_, evalExpr_vim _ _ (hboth.mpr (hsame.mp h)), htexts _ _ (value_told_message hs)⟩
  case same_iff =>
    rw [hsame, told_exception hs]
    exact hboth
  case entering =>
    intro c' e' k h
    have hbound : s.heap.size + 1 < t.heap.size := Policy.isText_bound htexts (isText_told_place hs)
    have hhas' : HasVim setup (selected setup k e'.message t) := by
      rwa [HasVim, selected_heap]
    rw [SameClause, entered_eq_told, told_throwpoint hhas', told_throwpoint hs,
      selected_heap] at h
    have hsize : t.heap.size + 1 = s.heap.size + 1 := congrArg Ref.index (Option.some.inj h)
    omega
  case leaving =>
    intro c' e' body result u hu
    rcases hout : execAll (Machine.ofFuel fuel) c' body setup (told setup c' e' t) with ⟨r, v⟩
    rw [handle_of_told hout] at hu
    cases hu
    have hgrows : Grows (told setup c' e' t) v := by
      have hkeeps := execAll_keeps grows_steady (Machine.ofFuel_keeps grows_steady fuel) c' body
        setup (told setup c' e' t)
      rwa [hout] at hkeeps
    have htold : HasVim setup (told setup c' e' t) := (hhas.withVimText _ _).withVimText _ _
    exact withVimText_reads (htold.of_grows hgrows) _ c ""

/-- Where no code takes the variables of the editor as a whole, `v:exception` holds the message of
the error in a clause until another clause is entered, and no longer. -/
theorem exception_kept_untilNextClause {setup : Setup}
    (hparse : (ReadOnly.editor.apart setup).Parses)
    {c : Context} (hc : (ReadOnly.editor.apart setup).Runs c) {e : ScriptError} {k : Clause}
    (hk : ∀ stmt ∈ k.body, (ReadOnly.editor.apart setup).Does c stmt) {s : State}
    (hs : (ReadOnly.editor.apart setup).Good s) (hsees : setup.spaces.SeesTables s.heap c)
    (hdeclared : ∀ d ∈ s.registry.declarations,
      setup.spaces.SeesTables s.heap ⟨d.script, d.parent⟩)
    {before : List Stmt} (hbefore : before <+: k.body) {fuel : Nat} {result : Except Stop Signal}
    {t : State}
    (ht : execAll (Machine.ofFuel fuel) c before setup (entered setup c e k s) = (result, t)) :
    MessageKept setup (Machine.ofFuel fuel) c e (entered setup c e k s) t := by
  let u := selected setup k e.message s
  have hheap : u.heap = s.heap := selected_heap setup k e.message s
  have hregistry : u.registry = s.registry := selected_registry k e.message
  have hu : (ReadOnly.editor.apart setup).Good u :=
    (Regime.guards _).same hs hheap hregistry
  have hhas : HasVim setup u := by
    obtain ⟨⟨⟨table, htable, -⟩, -⟩, -⟩ := hu
    exact Heap.index_lt_of_dict htable
  rw [← hheap] at hsees hdeclared
  rw [← hregistry] at hdeclared
  obtain ⟨⟨table, htable⟩, hstart⟩ := telling_told hparse hu hdeclared c e
  have hvim : ¬(told setup c e u).heap.IsText setup.spaces.vim := by
    rintro ⟨text, htext⟩
    cases htable.symm.trans htext
  have hgood := telling_execAll hparse hvim ⟨_, value_told_message hhas⟩ (isText_told_place hhas)
    (n := fuel) hstart ⟨hc, (hsees.told htable).hidesTexts⟩ fun x hx => hk x (hbefore.subset hx)
  have hexec : execAll (Machine.ofFuel fuel) c before setup (told setup c e u) = (result, t) := ht
  rw [hexec] at hgood
  exact messageKept_of_telling hhas hgood fuel

/-! ## A clause with another `:try` -/

/-- `try | let g:x = v:exception | catch | throw 'b' | endtry` -/
def quietTry : Stmt :=
  .tryCatch none [.assign none globalX .set (.var none (some .vim) [.plain "exception"])]
    [.mk .null [.throw none (.text none "b")]] none

/-- `try | throw 'b' | catch | endtry` -/
def caughtThrow : Stmt := .tryCatch none [.throw none (.text none "b")] [.mk .null []] none

/-- The start of a clause for `throw 'a'`. -/
def startOfClause (body : List Stmt) : State :=
  entered apartSetup topContext { cause := .thrown "a" } (.mk .null body) oneGlobal

theorem topContext_runs_editor : (ReadOnly.editor.apart apartSetup).Runs topContext := by
  refine ⟨?_, trivial⟩
  intro scope name first rest hvisible hmem
  cases scope with
  | none => cases hvisible; cases List.mem_singleton.mp hmem
  | some scope =>
      cases scope with
      | vim => rfl
      | locals | arguments | unknown => cases hvisible
      | _ => cases hvisible; cases List.mem_singleton.mp hmem

theorem oneGlobal_good_editor : (ReadOnly.editor.apart apartSetup).Good oneGlobal := by
  refine ⟨⟨⟨_, rfl, trivial⟩, ?_⟩, fun d hd => by simp [oneGlobal] at hd⟩
  rintro ⟨i⟩ hmem
  rcases i with _ | _ | _ | _ | _ | _ | _ | i
  · cases List.mem_singleton.mp hmem
  all_goals cases hmem

theorem topContext_seesTables : apartSetup.spaces.SeesTables oneGlobal.heap topContext := by
  intro scope name first rest hvisible ns hns
  cases scope with
  | none => cases hvisible; cases List.mem_singleton.mp hns; exact ⟨_, rfl⟩
  | some scope =>
      cases scope with
      | locals | arguments | unknown => cases hvisible
      | _ => cases hvisible; cases List.mem_singleton.mp hns; exact ⟨_, rfl⟩

theorem quietTry_clean : (ReadOnly.editor.apart apartSetup).Clean quietTry := by
  refine .mk (fun _ _ => nofun) nofun ?_ nofun nofun
  refine List.forall_mem_cons.mpr ⟨?_, List.forall_mem_singleton.mpr ?_⟩
  · refine .mk (fun _ _ => nofun) ?_ nofun nofun nofun
    exact List.forall_mem_cons.mpr ⟨.leaf (fun _ _ => nofun) rfl,
      List.forall_mem_singleton.mpr (.leaf (fun _ _ => nofun) rfl)⟩
  · refine .mk (fun _ _ => nofun) ?_ nofun nofun nofun
    exact List.forall_mem_singleton.mpr (.leaf (fun _ _ => nofun) rfl)

/-- A `:try` statement in which nothing fails leaves the message of the clause it stands in. -/
theorem quietTry_keeps_message :
    ∃ result t, execAll (Machine.ofFuel 0) topContext [quietTry] apartSetup
        (startOfClause [quietTry, quietTry]) = (result, t) ∧
      SameClause apartSetup (startOfClause [quietTry, quietTry]) t ∧
      ReadsException (Machine.ofFuel 0) topContext apartSetup t "a" := by
  have hparse : (ReadOnly.editor.apart apartSetup).Parses :=
    { statements := fun h => nomatch h
      expression := fun h => nomatch h }
  have hbody : ∀ stmt ∈ (Clause.mk .null [quietTry, quietTry]).body,
      (ReadOnly.editor.apart apartSetup).Does topContext stmt :=
    List.forall_mem_cons.mpr ⟨⟨quietTry_clean, False.elim⟩,
      List.forall_mem_singleton.mpr ⟨quietTry_clean, False.elim⟩⟩
  have hbefore : [quietTry] <+: (Clause.mk .null [quietTry, quietTry]).body := ⟨[quietTry], rfl⟩
  have hsame : vimBinding apartSetup "throwpoint" (execAll (Machine.ofFuel 0) topContext [quietTry]
      apartSetup (startOfClause [quietTry, quietTry])).2 =
        vimBinding apartSetup "throwpoint" (startOfClause [quietTry, quietTry]) := by
    decide +kernel
  rcases hrun : execAll (Machine.ofFuel 0) topContext [quietTry] apartSetup
    (startOfClause [quietTry, quietTry]) with ⟨result, t⟩
  rw [hrun] at hsame
  have hkept := exception_kept_untilNextClause hparse topContext_runs_editor hbody
    oneGlobal_good_editor topContext_seesTables (fun d hd => by simp [oneGlobal] at hd)
    hbefore hrun
  exact ⟨result, t, rfl, hsame, hkept.reads hsame⟩

/-- The text that the statement behind an execution finds in `v:exception`, if it gets there. -/
def textBehind (setup : Setup) : Except Stop Signal × State → Option String
  | (.ok .success, t) =>
    match (vimBinding setup "exception" t).map t.heap.value with
    | some (.string text) => some text
    | _ => none
  | _ => none

theorem reads_of_textBehind {setup : Setup} {ran : Except Stop Signal × State} {text : String}
    (h : textBehind setup ran = some text) (M : Machine) (c : Context) :
    ∃ t, ran = (.ok .success, t) ∧ ReadsException M c setup t text := by
  unfold textBehind at h
  split at h
  next t =>
    split at h
    next text' hvalue =>
      obtain ⟨r, hr, hstring⟩ := Option.map_eq_some_iff.mp hvalue
      cases h
      exact ⟨t, rfl, r, evalExpr_vim M c hr, hstring⟩
    next => cases h
  next => cases h

theorem ReadsException.unique {M : Machine} {c : Context} {setup : Setup} {s : State}
    {text text' : String} (h : ReadsException M c setup s text)
    (h' : ReadsException M c setup s text') : text = text' := by
  obtain ⟨r, hr, hvalue⟩ := h
  obtain ⟨r', hr', hvalue'⟩ := h'
  obtain rfl := Except.ok.inj (Prod.mk.inj (hr.symm.trans hr')).1
  exact Value.string.inj (hvalue.symm.trans hvalue')

/-- A `:try` statement that handles an error takes the message away from the clause it stands in:
the statement behind it reads an empty text. -/
theorem caughtThrow_forgets_message :
    ReadsException (Machine.ofFuel 0) topContext apartSetup
        (startOfClause [caughtThrow, quietTry]) "a" ∧
      ∃ t, execAll (Machine.ofFuel 0) topContext [caughtThrow] apartSetup
          (startOfClause [caughtThrow, quietTry]) = (.ok .success, t) ∧
        ¬ReadsException (Machine.ofFuel 0) topContext apartSetup t "a" := by
  have hbehind : textBehind apartSetup (execAll (Machine.ofFuel 0) topContext [caughtThrow]
      apartSetup (startOfClause [caughtThrow, quietTry])) = some "" := by decide +kernel
  have hhas : HasVim apartSetup oneGlobal := show 1 < 7 by decide
  have hreads := entered_readsException (Machine.ofFuel 0) topContext hhas { cause := .thrown "a" }
    (.mk .null [caughtThrow, quietTry])
  obtain ⟨t, ht, hempty⟩ := reads_of_textBehind hbehind (Machine.ofFuel 0) topContext
  refine ⟨hreads, t, ht, fun ha => ?_⟩
  have htext : "" = "a" := hempty.unique ha
  simp at htext

end Vimscript
