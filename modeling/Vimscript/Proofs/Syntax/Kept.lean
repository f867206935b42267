import Vimscript.Proofs.Syntax.Places
import Vimscript.Proofs.Syntax.WellFormed

/-!
# Trees keep their code

Reading a tree loses nothing of the code it was written for: not a part,
not whether a part is missing or empty, and not a place. Well-formed code
of every kind has a tree, and places may be put into it anywhere. What is
read then compares as the same as what was written, except that a decimal
literal that is not a number differs from itself.
-/

namespace Vimscript

open Reader (Read)

/-- Code of some kind is kept by its trees. -/
structure ReadsBack {α : Type} (WrittenAs : Placing → α → Data → Prop) (WellFormed : α → Prop)
    (tree : α → Data) (read : Data → Read α) (same : α → α → Bool) (hasNaN : α → Bool) :
    Prop where
  /-- Well-formed code is read from its tree, and compares as the same as itself but for literals
  that are not numbers. -/
  kept {a : α} : WellFormed a →
    WrittenAs .any a (tree a) ∧ read (tree a) = .ok a ∧ same a a = !hasNaN a
  /-- From any tree with its places, code is read with these places. -/
  exact {a : α} {d : Data} : WrittenAs .exact a d → read d = .ok a
  /-- From a tree with places put in, the same code is read with the places of the tree. -/
  placed {a : α} {d : Data} : WrittenAs .any a d →
    ∃ b, read d = .ok b ∧ WrittenAs .exact b d ∧ same b a = !hasNaN a

theorem readsBack_of_written {α : Type} {WrittenAs : Placing → α → Data → Prop}
    {WellFormed : α → Prop} {tree : α → Data} {read : Data → Read α} {same : α → α → Bool}
    {hasNaN : α → Bool}
    (hwritten : ∀ {placing : Placing}, placing.Fits → ∀ {a}, WellFormed a →
      WrittenAs placing a (tree a))
    (hread : ∀ {a d}, WrittenAs .exact a d → read d = .ok a)
    (hplace : ∀ {a d}, WrittenAs .any a d → ∃ b, WrittenAs .exact b d ∧ same b a = !hasNaN a) :
    ReadsBack WrittenAs WellFormed tree read same hasNaN where
  kept := by
    intro a h
    have htree := hread (hwritten Placing.exact_fits h)
    obtain ⟨b, hb, hsame⟩ := hplace (hwritten Placing.any_fits h)
    obtain rfl : a = b := Except.ok.inj (htree.symm.trans (hread hb))
    exact ⟨hwritten Placing.any_fits h, htree, hsame⟩
  exact := hread
  placed := by
    intro a d h
    obtain ⟨b, hb, hsame⟩ := hplace h
    exact ⟨b, hread hb, hb, hsame⟩

/-- Expressions, statements and scripts are kept by their trees. -/
theorem trees_read_back :
    ReadsBack Expr.WrittenAs Expr.WellFormed Expr.tree Reader.expression Expr.same Expr.hasNaN ∧
    ReadsBack Stmt.WrittenAs Stmt.WellFormed Stmt.tree Reader.statement Stmt.same Stmt.hasNaN ∧
    ReadsBack Program.WrittenAs Program.WellFormed Program.tree Reader.program Program.same
      Program.hasNaN :=
  ⟨readsBack_of_written Expr.WellFormed.written Expr.WrittenAs.expression Expr.WrittenAs.place,
    readsBack_of_written Stmt.WellFormed.written Stmt.WrittenAs.statement Stmt.WrittenAs.place,
    readsBack_of_written Program.WellFormed.written Program.WrittenAs.program
      Program.WrittenAs.place⟩

/-- An `:else` without statements is not a missing one. -/
example :
    Reader.statement (Stmt.conditional none [.mk (.int none 1) []] (some [])).tree =
      .ok (.conditional none [.mk (.int none 1) []] (some [])) :=
  rfl

/-- A literal that is not a number differs from itself, an empty scope of an option is read as
none, and a null operator or depth is refused. -/
theorem notANumber_read_back_differs :
    (Expr.float none Decimal.notANumber).WellFormed ∧
    (Expr.float none Decimal.notANumber).WrittenAs .exact
      (.map [(.text "tag", .text "float"), (.text "value", .float Decimal.notANumber)]) ∧
    (∀ e, Reader.expression
        (.map [(.text "tag", .text "float"), (.text "value", .float Decimal.notANumber)]) = .ok e →
      e.same (.float none Decimal.notANumber) = false) ∧
    (∀ e, Reader.expression
        (.map [(.text "tag", .text "option"), (.text "scope", .text ""),
          (.text "name", .text "sw")]) = .ok e →
      e.same (.option none (some "") (.text "sw")) = false) ∧
    Reader.statement
        (.map [(.text "tag", .text "let"), (.text "op", .null),
          (.text "target", .map [(.text "tag", .text "register"), (.text "name", .text "a")]),
          (.text "value", .map [(.text "tag", .text "int"), (.text "value", .int 1)])]) =
      .error (.unknownAssignment "None") ∧
    Reader.statement (.map [(.text "tag", .text "lockvar"), (.text "depth", .null)]) =
      .error (.notIntegral "NoneType") := by
  have hliteral : Reader.expression
      (.map [(.text "tag", .text "float"), (.text "value", .float Decimal.notANumber)]) =
      .ok (.float none Decimal.notANumber) := rfl
  have hoption : Reader.expression
      (.map [(.text "tag", .text "option"), (.text "scope", .text ""),
        (.text "name", .text "sw")]) = .ok (.option none none (.text "sw")) := rfl
  have hdiffers : (Decimal.notANumber == Decimal.notANumber) = false := by decide +kernel
  refine ⟨⟨⟨nofun, trivial⟩, nofun⟩, ?_, ?_, ?_, rfl, rfl⟩
  · exact ⟨_, rfl, rfl, .inl rfl, _, rfl, rfl⟩
  · intro e he
    obtain rfl := Except.ok.inj (hliteral.symm.trans he)
    simpa [Expr.same] using hdiffers
  · intro e he
    obtain rfl := Except.ok.inj (hoption.symm.trans he)
    simp [Expr.same]

end Vimscript
