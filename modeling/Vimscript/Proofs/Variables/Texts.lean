import Vimscript.Proofs.Variables.Seclusion

/-!
# Strings stay as they are

Lists, Dictionaries and Blobs are changed in place, Strings are not: what
replaces a value has seen a container or a Blob there. So a name that stays
bound to a String reads the same. One operation does not look first, the
one that makes a variable: it writes into a namespace, and what keeps it off
a String is that no namespace that code can see is one.

`Policy.texts` is this as a policy. Policies can hold side by side
(`Policy.and`), which adds it to that of a seclusion (`Seclusion.withTexts`).
-/

namespace Vimscript

open Run

/-! ## Policies side by side -/

namespace Policy

/-- Both of two policies. -/
def and (P Q : Policy) : Policy where
  Holds h := P.Holds h ∧ Q.Holds h
  Given r := P.Given r ∧ Q.Given r
  Free r := P.Free r ∧ Q.Free r
  Container r := P.Container r ∧ Q.Container r

variable {P Q : Policy}

theorem Carries.and {v : Value} : (P.and Q).Carries v ↔ P.Carries v ∧ Q.Carries v := forall₂_and

theorem Lawful.and (hP : P.Lawful) (hQ : Q.Lawful) : (P.and Q).Lawful where
  carries r hh := Carries.and.mpr ⟨hP.carries r hh.1, hQ.carries r hh.2⟩
  alloc hh hv := by
    obtain ⟨hp, hq⟩ := Carries.and.mp hv
    obtain ⟨hholds, hgiven, hfree⟩ := hP.alloc hh.1 hp
    obtain ⟨hholds', hgiven', hfree'⟩ := hQ.alloc hh.2 hq
    exact ⟨⟨hholds, hholds'⟩, ⟨hgiven, hgiven'⟩, hfree, hfree'⟩
  container hh hr := ⟨hP.container hh.1 hr, hQ.container hh.2 hr⟩
  free hh hr hcontainer hunlocked :=
    ⟨hP.free hh.1 hr.1 hcontainer.1 hunlocked, hQ.free hh.2 hr.2 hcontainer.2 hunlocked⟩
  freeBlob hh hr hblob := ⟨hP.freeBlob hh.1 hr.1 hblob, hQ.freeBlob hh.2 hr.2 hblob⟩
  replace hh hr hv := by
    obtain ⟨hp, hq⟩ := Carries.and.mp hv
    exact ⟨hP.replace hh.1 hr.1 hp, hQ.replace hh.2 hr.2 hq⟩
  setItem hh hlist hitems hitem hfree hvalue :=
    ⟨hP.setItem hh.1 hlist.1 hitems hitem hfree hvalue.1,
      hQ.setItem hh.2 hlist.2 hitems hitem hfree hvalue.2⟩
  setEntry hh hdict ht hadmits hvalue :=
    ⟨hP.setEntry hh.1 hdict.1 ht hadmits hvalue.1, hQ.setEntry hh.2 hdict.2 ht hadmits hvalue.2⟩

end Policy

theorem Op.Safe.and {P Q : Policy} {α : Type} {U V W : α → Prop} {op : Op α} (hP : Safe P U op)
    (hQ : Safe Q V op) (hw : ∀ a, U a → V a → W a) : Safe (P.and Q) W op := by
  intro h hh
  obtain ⟨hholds, hresult⟩ := hP h hh.1
  obtain ⟨hholds', hresult'⟩ := hQ h hh.2
  exact ⟨⟨hholds, hholds'⟩, fun a ha => hw a (hresult a ha) (hresult' a ha)⟩

/-! ## The policy -/

/-- An object is a String. -/
def Heap.IsText (h : Heap) (r : Ref) : Prop := ∃ s, h.value r = .string s

/-- The Strings of a heap are the same Strings in all later ones. -/
def Policy.texts (start : Heap) : Policy where
  Holds h := ∀ r s, start.value r = .string s → h.value r = .string s
  Given _ := True
  Free r := ¬start.IsText r
  Container r := ¬start.IsText r

namespace Policy

variable {start h : Heap} {r : Ref}

theorem not_isText (hh : (texts start).Holds h) (hr : ∀ s, h.value r ≠ .string s) :
    ¬start.IsText r := by
  rintro ⟨s, hs⟩
  exact hr s (hh r s hs)

theorem isText_bound (hh : (texts start).Holds h) (hr : start.IsText r) : r.index < h.size := by
  obtain ⟨s, hs⟩ := hr
  refine Nat.lt_of_not_le fun hout => ?_
  cases (Heap.value_of_size_le hout).symm.trans (hh r s hs)

theorem texts_setValue (hh : (texts start).Holds h) (hr : ¬start.IsText r) (v : Value) :
    (texts start).Holds (h.setValue r v) := by
  intro x s hx
  have hne : x ≠ r := by
    rintro rfl
    exact hr ⟨s, hx⟩
  rw [Heap.value, Heap.cell_setValue_of_ne h v hne]
  exact hh x s hx

theorem texts_lawful : (texts start).Lawful where
  carries _ _ := fun _ _ => trivial
  alloc := by
    intro h v hh _
    refine ⟨fun x s hx => ?_, trivial, fun hr => ?_⟩
    · exact (h.value_alloc_of_lt v (isText_bound hh ⟨s, hx⟩)).trans (hh x s hx)
    · exact Nat.lt_irrefl _ (isText_bound hh hr)
  container hh hr := not_isText hh fun s hs => by
    rw [hs] at hr
    cases hr
  free _ _ hr _ := hr
  freeBlob hh _ hr := not_isText hh fun s hs => nomatch hr.symm.trans hs
  replace hh hr _ := texts_setValue hh hr _
  setItem hh _ hr _ _ _ := texts_setValue hh (not_isText hh fun s hs => nomatch hr.symm.trans hs) _
  setEntry hh _ hr _ _ := texts_setValue hh (not_isText hh fun s hs => nomatch hr.symm.trans hs) _

/-- What binds a name is a Dictionary. -/
theorem not_isText_of_contains {name : String} (hh : (texts start).Holds h)
    (hr : (h.table r).contains name = true) : ¬start.IsText r := by
  refine not_isText hh fun s hs => ?_
  obtain ⟨value, hvalue⟩ := Option.isSome_iff_exists.mp hr
  cases (Heap.value_of_get? hvalue).symm.trans hs

end Policy

/-! ## Variables -/

namespace Spaces

/-- No String of a heap is a namespace that code can see. -/
def HidesTexts (sp : Spaces) (start : Heap) (c : Context) : Prop :=
  ∀ r, start.IsText r → sp.Shows (fun _ => False) r c

variable {sp : Spaces} {start h : Heap} {c : Context} {scope : Option Scope} {name : String}

theorem set_texts (hc : sp.HidesTexts start c) (value : Ref) :
    Op.Safe (.texts start) (fun _ => True) (sp.set scope name value c) := by
  intro h hh
  refine .after (requireWritable_reads scope name c) hh fun _ _ =>
    .after (sp.target_reads scope name c) hh fun ns hns => .get ?_
  dsimp only
  split
  · exact ⟨hh, by rintro b ⟨⟩⟩
  · exact ⟨Policy.texts_setValue hh (fun hr => (hc ns hr).of_target hns) _, fun _ _ => trivial⟩

theorem unlet_texts (bang : Bool) :
    Op.Safe (.texts start) (fun _ => True) (sp.unlet scope name bang c) := by
  intro h hh
  refine .after (requireWritable_reads scope name c) hh fun _ _ =>
    .after (sp.space_reads scope c) hh fun ns _ => .get ?_
  dsimp only
  split
  · cases bang
    · exact ⟨hh, by rintro b ⟨⟩⟩
    · exact .pure hh trivial
  · rename_i hbound
    split
    · exact ⟨hh, by rintro b ⟨⟩⟩
    · have hcontains : (h.table ns).contains name = true := by simpa using hbound
      have hns := Policy.not_isText_of_contains hh hcontains
      exact ⟨Policy.texts_setValue hh hns _, fun _ _ => trivial⟩

theorem setVim_texts (hvim : ¬start.IsText sp.vim) (value : Ref) :
    Op.Safe (.texts start) (fun _ => True) (sp.setVim name value) :=
  fun _ hh => ⟨Policy.texts_setValue hh hvim _, fun _ _ => trivial⟩

theorem lockTo_texts {isLocked : Bool} {depth : Int} {r : Ref}
    (hh : (Policy.texts start).Holds h) :
    (Policy.texts start).Holds (h.lockTo isLocked depth r) := by
  intro x s hx
  rw [Heap.lockTo, Heap.value_lockWithin]
  exact hh x s hx

theorem setLock_texts (isLocked : Bool) (depth : Int) :
    Op.Safe (.texts start) (fun _ => True) (sp.setLock isLocked scope name depth c) := by
  intro h hh
  refine .after (sp.searched_reads scope name c) hh fun namespaces _ => .get ?_
  split
  · exact .fail _ hh
  · rename_i ns howner
    have hcontains := List.find?_some (p := fun ns => (h.table ns).contains name) howner
    have hns := Policy.not_isText_of_contains hh hcontains
    refine Op.SafeAt.bind (U := fun _ => True)
      ⟨Policy.texts_setValue hh hns _, fun _ _ => trivial⟩ fun _ h' _ hh' _ => .get ?_
    split
    · exact ⟨lockTo_texts hh', fun _ _ => trivial⟩
    · exact .pure hh' trivial

end Spaces

/-! ## Seclusions among Strings -/

namespace Seclusion

/-- The regime of a seclusion in which, besides, the Strings of a heap stay as they are. -/
def withTexts (V : Seclusion) (start : Heap) : Regime where
  setup := V.setup
  policy := (Policy.secluded V.space V.Keeps).and (.texts start)
  Runs c := V.Runs c ∧ V.setup.spaces.HidesTexts start c
  Evals := V.Evals
  Does := V.Does
  Assigns := V.regime.Assigns
  Locks := V.Locks
  Allows d := V.Allows d ∧ V.setup.spaces.HidesTexts start ⟨d.script, d.parent⟩

theorem withTexts_lawful {V : Seclusion} (hV : V.Secure) (hparse : V.Parses) {start : Heap}
    (hvim : ¬start.IsText V.setup.spaces.vim) : (V.withTexts start).Lawful :=
  have hG := regime_lawful hV hparse
  { policy := Policy.secluded_lawful.and Policy.texts_lawful
    part := hG.part
    expr := hG.expr
    nested := hG.nested
    target := hG.target
    lock := hG.lock
    unlock := hG.unlock
    statements := fun hc => hG.statements hc.1
    expression := hG.expression
    whole := fun hc he =>
      (hG.whole hc.1 he).and (Op.Reads.safe (V.setup.spaces.space_reads _ _)) fun _ hr _ =>
        ⟨hr, trivial⟩
    set := fun hc ht hname hvalue =>
      (hG.set hc.1 ht hname hvalue.1).and (Spaces.set_texts hc.2 _) fun _ _ _ => trivial
    unlet := fun scope name bang hc =>
      (hG.unlet scope name bang hc.1).and (Spaces.unlet_texts bang) fun _ _ _ => trivial
    setLock := fun scope name depth hc hlocks =>
      (hG.setLock scope name depth hc.1 hlocks).and (Spaces.setLock_texts _ depth)
        fun _ _ _ => trivial
    lockTo := fun depth hlocks hh hr =>
      ⟨hG.lockTo depth hlocks hh.1 hr.1, Spaces.lockTo_texts hh.2⟩
    setVim := fun hname hvalue =>
      (hG.setVim hname hvalue.1).and (Spaces.setVim_texts hvim _) fun _ _ _ => trivial
    dropVim := fun hname hh => ⟨hG.dropVim hname hh.1, Policy.texts_setValue hh.2 hvim _⟩
    lambda := fun name hc he => ⟨hG.lambda name hc.1 he, hc.2⟩
    declared := by
      intro c s signature body name scope hc hs hdeclared
      refine ⟨hG.declared name scope hc.1 hs hdeclared, fun r hr => ?_⟩
      unfold Declaration.make
      dsimp only
      split
      · exact hc.2 r hr
      · exact (hc.2 r hr).top id
    deleted := fun hd => ⟨hG.deleted hd.1, hd.2⟩
    enter := by
      intro d own self hd hown
      refine ⟨hG.enter self hd.1 fun r hr => ⟨(hown r hr).1.1, (hown r hr).2.1⟩, fun r hr => ?_⟩
      have hne : ∀ ns ∈ [own.locals, own.arguments], ns ≠ r := by
        rintro ns hns rfl
        exact (hown ns hns).2.2 hr
      exact (hd.2 r hr).enter (hne _ (by simp)) (hne _ (by simp)) _ self
    body := fun hd hs => hG.body hd.1 hs
    default := fun hd hp => hG.default hd.1 hp }

end Seclusion

end Vimscript
