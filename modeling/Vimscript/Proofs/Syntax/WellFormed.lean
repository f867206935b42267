import Vimscript.Proofs.Syntax.Code
import Vimscript.Proofs.Syntax.Written

/-!
# The tree of well-formed code

What it takes for code to be well-formed, and the tree that is then
written for it: all fields are there, and null where a node does not have
the part.
-/

namespace Vimscript

open Reader (Fields)

/-! ## Well-formed code -/

/-- A place has a line. -/
def Placed (mark : Option Mark) : Prop := ∀ place ∈ mark, place.line ≠ .null

/-- A scope is one of those that exist. -/
def KnownScope (scope : Option Scope) : Prop := ∀ s ∈ scope, s ∈ Scope.known

/-- An expression is well-formed apart from its parts. -/
def Expr.Sound (e : Expr) : Prop :=
  Placed e.mark ∧ match e with
    | .var _ scope parts => KnownScope scope ∧ ∀ d, .misplaced d ∉ parts
    | .option _ scope name =>
      (∀ s ∈ scope, s ≠ "" ∧ s.toList.getLast? ≠ some ':') ∧ name.IsText
    | .wholeScope _ scope => KnownScope scope
    | .call _ scope name _ => KnownScope scope ∧ name.IsText
    | .lambda _ params _ => ∀ n ∈ params, n.IsText
    | _ => True

/-- An expression is well-formed with all its parts. -/
inductive Expr.WellFormed : Expr → Prop
  | mk {e : Expr} : e.Sound → (∀ x ∈ e.parts, WellFormed x) → WellFormed e

/-- The names of a signature are texts. -/
def Signature.Sound (signature : Signature) : Prop :=
  (∀ n ∈ signature.params, n.IsText) ∧ ∀ d ∈ signature.defaults, d.1.IsText

/-- A statement is well-formed apart from its parts. -/
def Stmt.Sound (s : Stmt) : Prop :=
  Placed s.mark ∧ match s with
    | .conditional _ branches _ => branches ≠ []
    | .tryCatch _ _ clauses _ => ∀ c ∈ clauses, c.pattern = .null ∨ c.pattern.IsText
    | .function _ scope name signature _ _ => KnownScope scope ∧ name.IsText ∧ signature.Sound
    | .dictFunction _ _ key signature _ _ => key.IsText ∧ signature.Sound
    | .delFunction _ scope name _ => KnownScope scope ∧ name.IsText
    | .command _ name _ _ => name.IsText
    | _ => True

/-- A statement is well-formed with all its parts. -/
def Stmt.WellFormed : Stmt → Prop := Stmt.Every Stmt.Sound Expr.WellFormed

/-- A script is well-formed. -/
def Program.WellFormed (program : Program) : Prop :=
  Placed program.mark ∧ ∀ s ∈ program.body, s.WellFormed

/-! ## Trees -/

/-- The fields that every node has. -/
def nodeFields (tag : String) (mark : Option Mark) (fields : Fields) : Fields :=
  (.text "tag", .text tag) :: (.text "line", (mark.map (·.line)).getD .null) ::
    (.text "col", (mark.map (·.column)).getD .null) :: fields

/-- The tree of a node. -/
def Data.node (tag : String) (mark : Option Mark) (fields : Fields) : Data :=
  .map (nodeFields tag mark fields)

/-- A scope, or null. -/
def scopeTree (scope : Option Scope) : Data := (scope.map fun s => .text s.text).getD .null

mutual

/-- The tree of an expression. -/
def Expr.tree : Expr → Data
  | .int m n => .node "int" m [(.text "value", .int n)]
  | .truth m b => .node "int" m [(.text "value", .bool b)]
  | .float m x => .node "float" m [(.text "value", .float x)]
  | .text m s => .node "string" m [(.text "value", .text s)]
  | .list m items => .node "list" m [(.text "items", .list (exprTrees items))]
  | .dict m entries => .node "dict" m [(.text "entries", .list (pairTrees entries))]
  | .var m scope parts => .node "variable" m
      [(.text "scope", scopeTree scope), (.text "name", .list (partTrees parts))]
  | .option m scope name => .node "option" m
      [(.text "scope", (scope.map Data.text).getD .null), (.text "name", name)]
  | .register m name => .node "register" m [(.text "name", .text name)]
  | .environment m name => .node "env" m [(.text "name", .text name)]
  | .wholeScope m scope => .node "scope" m [(.text "scope", scopeTree scope)]
  | .binary m op left right => .node "binary" m
      [(.text "op", .text op.text), (.text "left", left.tree), (.text "right", right.tree)]
  | .unary m op operand => .node "unary" m
      [(.text "op", .text op.text), (.text "operand", operand.tree)]
  | .ternary m condition then_ else_ => .node "ternary" m
      [(.text "condition", condition.tree), (.text "then", then_.tree),
        (.text "else", else_.tree)]
  | .falsy m left right => .node "falsy" m [(.text "left", left.tree), (.text "right", right.tree)]
  | .index m target key => .node "index" m
      [(.text "target", target.tree), (.text "index", key.tree)]
  | .slice m target first last => .node "slice" m
      [(.text "target", target.tree), (.text "from", exprTree? first),
        (.text "to", exprTree? last)]
  | .call m scope name args => .node "call" m
      [(.text "scope", scopeTree scope), (.text "name", name),
        (.text "args", .list (exprTrees args))]
  | .funcrefCall m target args => .node "funcref_call" m
      [(.text "target", target.tree), (.text "args", .list (exprTrees args))]
  | .lambda m params body => .node "lambda" m
      [(.text "params", .list params), (.text "body", body.tree)]
  | .lambdaCall m lambdaMark params body args => .node "lambda_call" m
      [(.text "lambda", .node "lambda" lambdaMark
          [(.text "params", .list params), (.text "body", body.tree)]),
        (.text "args", .list (exprTrees args))]

/-- The trees of expressions. -/
def exprTrees : List Expr → List Data
  | [] => []
  | e :: es => e.tree :: exprTrees es

/-- The trees of pairs. -/
def pairTrees : List (Expr × Expr) → List Data
  | [] => []
  | (k, v) :: es => .list [k.tree, v.tree] :: pairTrees es

/-- The parts of a name as data. -/
def partTrees : List NamePart → List Data
  | [] => []
  | .plain s :: ps => .text s :: partTrees ps
  | .computed e :: ps => e.tree :: partTrees ps
  | .misplaced d :: ps => d :: partTrees ps

/-- The tree of an expression, or null. -/
def exprTree? : Option Expr → Data
  | none => .null
  | some e => e.tree

end

/-- The fields that say what a function accepts and how it runs. -/
def Signature.fields (signature : Signature) : Fields :=
  [(.text "params", .list signature.params),
    (.text "defaults", .list (signature.defaults.map fun d => .list [d.1, d.2.tree])),
    (.text "varargs", .bool signature.varargs),
    (.text "flags", .list (signature.flags.names.map .text))]

mutual

/-- The tree of a statement. -/
def Stmt.tree : Stmt → Data
  | .assign m target op value => .node "let" m
      [(.text "target", target.tree), (.text "op", .text op.text), (.text "value", value.tree)]
  | .unlet m targets bang => .node "unlet" m
      [(.text "targets", .list (exprTrees targets)), (.text "bang", .bool bang)]
  | .lock m targets depth => .node "lockvar" m
      [(.text "targets", .list (exprTrees targets)), (.text "depth", .int depth)]
  | .unlock m targets depth => .node "unlockvar" m
      [(.text "targets", .list (exprTrees targets)), (.text "depth", .int depth)]
  | .echo m kind args => .node kind.tag m [(.text "args", .list (exprTrees args))]
  | .call m e range => .node "call" m
      [(.text "expr", e.tree),
        (.text "range", (range.map fun r => .list [r.1.tree, r.2.tree]).getD .null)]
  | .execute m args => .node "execute" m [(.text "args", .list (exprTrees args))]
  | .conditional m branches otherwise => .node "if" m
      [(.text "branches", .list (branchTrees branches)), (.text "else", blockTree? otherwise)]
  | .whileLoop m condition body => .node "while" m
      [(.text "condition", condition.tree), (.text "body", .list (stmtTrees body))]
  | .forLoop m target iterable body => .node "for" m
      [(.text "variable", target.tree), (.text "iterable", iterable.tree),
        (.text "body", .list (stmtTrees body))]
  | .forUnpack m targets iterable body => .node "for" m
      [(.text "variables", .list (exprTrees targets)), (.text "iterable", iterable.tree),
        (.text "body", .list (stmtTrees body))]
  | .tryCatch m body clauses cleanup => .node "try" m
      [(.text "body", .list (stmtTrees body)), (.text "catches", .list (clauseTrees clauses)),
        (.text "finally", blockTree? cleanup)]
  | .throw m value => .node "throw" m [(.text "value", value.tree)]
  | .returning m value => .node "return" m [(.text "value", exprTree? value)]
  | .breaking => .node "break" none []
  | .continuing => .node "continue" none []
  | .finish => .node "finish" none []
  | .function m scope name signature bang body => .node "function" m
      ((.text "scope", scopeTree scope) :: (.text "name", name) :: (.text "bang", .bool bang) ::
        (.text "body", .list (stmtTrees body)) :: signature.fields)
  | .dictFunction m target key signature bang body => .node "dict_function" m
      ((.text "target", target.tree) :: (.text "key", key) :: (.text "bang", .bool bang) ::
        (.text "body", .list (stmtTrees body)) :: signature.fields)
  | .delFunction m scope name bang => .node "delfunction" m
      [(.text "scope", scopeTree scope), (.text "name", name), (.text "bang", .bool bang)]
  | .command m name argument bang => .node "command" m
      [(.text "name", name), (.text "argument", .text argument), (.text "bang", .bool bang)]

/-- The trees of statements. -/
def stmtTrees : List Stmt → List Data
  | [] => []
  | s :: ss => s.tree :: stmtTrees ss

/-- The trees of branches. -/
def branchTrees : List Branch → List Data
  | [] => []
  | .mk condition body :: bs => .list [condition.tree, .list (stmtTrees body)] :: branchTrees bs

/-- The trees of clauses. -/
def clauseTrees : List Clause → List Data
  | [] => []
  | .mk pattern body :: cs =>
    .map [(.text "pattern", pattern), (.text "body", .list (stmtTrees body))] :: clauseTrees cs

/-- The trees of statements, or null. -/
def blockTree? : Option (List Stmt) → Data
  | none => .null
  | some body => .list (stmtTrees body)

end

/-- The tree of a script. -/
def Program.tree (program : Program) : Data :=
  .node "script" program.mark [(.text "body", .list (stmtTrees program.body))]

/-! ## Fields of trees -/

section Fields

variable {fields : Fields} {key name : String} {d : Data}

@[simp]
theorem given_cons {P : Data → Prop} :
    Given ((.text key, d) :: fields) name P ↔
      if key = name then P d else Given fields name P := by
  rw [Given, Data.lookup?]
  split
  · simp
  · rfl

@[simp]
theorem omitted_cons :
    Omitted ((.text key, d) :: fields) name ↔
      if key = name then d = .null else Omitted fields name := by
  rw [Omitted, Data.lookup?]
  split
  · simp
  · rfl

@[simp]
theorem listed_cons {P : List Data → Prop} :
    Listed ((.text key, d) :: fields) name P ↔
      if key = name then (d = .null ∧ P []) ∨ ∃ items, d = .list items ∧ P items
      else Listed fields name P := by
  rw [Listed, omitted_cons, given_cons]
  split <;> rfl

theorem scoped_nodeFields {tag : String} {mark : Option Mark} {scope : Option Scope}
    (h : KnownScope scope) :
    Scoped (nodeFields tag mark ((.text "scope", scopeTree scope) :: fields)) scope := by
  cases scope with
  | none => simp [Scoped, scopeTree, nodeFields]
  | some scope => simp [Scoped, scopeTree, nodeFields, h scope rfl]

/-- The place of a node is among the fields that every node has. -/
def Placing.Fits (placing : Placing) : Prop :=
  ∀ tag mark fields, Placed mark → placing (nodeFields tag mark fields) mark

theorem Placing.exact_fits : Placing.exact.Fits := by
  intro tag mark fields hmark
  cases mark with
  | none => simp [Placing.exact, nodeFields]
  | some place => exact ⟨hmark place rfl, by simp [nodeFields, Data.lookup?]⟩

theorem Placing.any_fits : Placing.any.Fits := fun _ _ _ _ => trivial

theorem Placing.Fits.node {placing : Placing} {tag : String} {mark : Option Mark}
    {P : Fields → Prop} (hfits : placing.Fits) (hmark : Placed mark)
    (hP : P (nodeFields tag mark fields)) : Node placing tag mark P (.node tag mark fields) :=
  ⟨nodeFields tag mark fields, rfl, by simp [nodeFields, Data.lookup?],
    hfits tag mark fields hmark, hP⟩

end Fields

/-! ## Trees are trees of their code -/

variable {placing : Placing}

theorem Expr.WellFormed.sound {e : Expr} (h : e.WellFormed) : e.Sound := by
  obtain ⟨h, -⟩ := h
  exact h

theorem Expr.WellFormed.part {e x : Expr} (h : e.WellFormed) (hx : x ∈ e.parts) :
    x.WellFormed := by
  obtain ⟨-, hparts⟩ := h
  exact hparts x hx

theorem lambdaTree_written (hfits : placing.Fits) {mark : Option Mark} {params : List Name}
    {body : Expr} (h : (Expr.lambda mark params body).Sound)
    (hbody : body.WrittenAs placing body.tree) :
    (Expr.lambda mark params body).WrittenAs placing (Expr.lambda mark params body).tree :=
  hfits.node h.1 ⟨⟨h.2, by simp [nodeFields]⟩, by simp [nodeFields, hbody]⟩

mutual

/-- The tree of a well-formed expression is one of its trees. -/
theorem Expr.WellFormed.written (hfits : placing.Fits) : ∀ {e : Expr}, e.WellFormed →
    e.WrittenAs placing e.tree
  | .int m value, h => hfits.node h.sound.1 (by simp [nodeFields])
  | .truth m value, h => hfits.node h.sound.1 (by simp [nodeFields])
  | .float m value, h => hfits.node h.sound.1 (by simp [nodeFields])
  | .text m value, h => hfits.node h.sound.1 (by simp [nodeFields])
  | .list m items, h => by
      have hi : exprsWritten placing items (exprTrees items) :=
        exprTrees_written hfits fun e he => h.part he
      exact hfits.node h.sound.1 (by simp [nodeFields, hi])
  | .dict m entries, h => by
      have he : pairsWritten placing entries (pairTrees entries) :=
        pairTrees_written hfits fun e he =>
          ⟨h.part (List.mem_flatMap.mpr ⟨e, he, by simp⟩),
            h.part (List.mem_flatMap.mpr ⟨e, he, by simp⟩)⟩
      exact hfits.node h.sound.1 (by simp [nodeFields, he])
  | .var m scope parts, h => by
      obtain ⟨hmark, hscope, hplaced⟩ := h.sound
      have hp : partsWritten placing parts (partTrees parts) := partTrees_written hfits hplaced
        fun e he => h.part (List.mem_filterMap.mpr ⟨_, he, rfl⟩)
      exact hfits.node hmark ⟨scoped_nodeFields hscope, by simp [nodeFields, hp]⟩
  | .option m scope name, h => by
      obtain ⟨hmark, hscope, hname⟩ := h.sound
      refine hfits.node hmark ⟨?_, hname, by simp [nodeFields]⟩
      cases scope with
      | none => simp [OptionScoped, nodeFields]
      | some scope => exact ⟨(hscope scope rfl).1, (hscope scope rfl).2, by simp [nodeFields]⟩
  | .register m name, h => hfits.node h.sound.1 (by simp [nodeFields])
  | .environment m name, h => hfits.node h.sound.1 (by simp [nodeFields])
  | .wholeScope m scope, h => hfits.node h.sound.1 (scoped_nodeFields h.sound.2)
  | .binary m op left right, h => by
      have hl := (h.part (x := left) (by simp [Expr.parts])).written hfits
      have hr := (h.part (x := right) (by simp [Expr.parts])).written hfits
      exact hfits.node h.sound.1 (by simp [nodeFields, hl, hr])
  | .unary m op operand, h => by
      have ho := (h.part (x := operand) (by simp [Expr.parts])).written hfits
      exact hfits.node h.sound.1 (by simp [nodeFields, ho])
  | .ternary m condition then_ else_, h => by
      have hc := (h.part (x := condition) (by simp [Expr.parts])).written hfits
      have ht := (h.part (x := then_) (by simp [Expr.parts])).written hfits
      have he := (h.part (x := else_) (by simp [Expr.parts])).written hfits
      exact hfits.node h.sound.1 (by simp [nodeFields, hc, ht, he])
  | .falsy m left right, h => by
      have hl := (h.part (x := left) (by simp [Expr.parts])).written hfits
      have hr := (h.part (x := right) (by simp [Expr.parts])).written hfits
      exact hfits.node h.sound.1 (by simp [nodeFields, hl, hr])
  | .index m target key, h => by
      have ht := (h.part (x := target) (by simp [Expr.parts])).written hfits
      have hk := (h.part (x := key) (by simp [Expr.parts])).written hfits
      exact hfits.node h.sound.1 (by simp [nodeFields, ht, hk])
  | .slice m target first last, h => by
      have ht := (h.part (x := target) (by simp [Expr.parts])).written hfits
      refine hfits.node h.sound.1 ⟨by simp [nodeFields, ht], ?_, ?_⟩
      · exact exprTree?_written hfits (by simp [nodeFields, Data.lookup?])
          fun e he => h.part (by simp [Expr.parts, he])
      · exact exprTree?_written hfits (by simp [nodeFields, Data.lookup?])
          fun e he => h.part (by simp [Expr.parts, he])
  | .call m scope name args, h => by
      obtain ⟨hmark, hscope, hname⟩ := h.sound
      have ha : exprsWritten placing args (exprTrees args) :=
        exprTrees_written hfits fun e he => h.part he
      exact hfits.node hmark ⟨scoped_nodeFields hscope, ⟨hname, by simp [nodeFields]⟩,
        by simp [nodeFields, ha]⟩
  | .funcrefCall m target args, h => by
      have ht := (h.part (x := target) (by simp [Expr.parts])).written hfits
      have ha : exprsWritten placing args (exprTrees args) :=
        exprTrees_written hfits fun e he => h.part (List.mem_cons_of_mem _ he)
      exact hfits.node h.sound.1 (by simp [nodeFields, ht, ha])
  | .lambda m params body, h => by
      have hb := (h.part (x := body) (by simp [Expr.parts])).written hfits
      exact lambdaTree_written hfits h.sound hb
  | .lambdaCall m lambdaMark params body args, h => by
      have hl := h.part (x := .lambda lambdaMark params body) (by simp [Expr.parts])
      have hb := (hl.part (x := body) (by simp [Expr.parts])).written hfits
      have ha : exprsWritten placing args (exprTrees args) :=
        exprTrees_written hfits fun e he => h.part (List.mem_cons_of_mem _ he)
      have hlambda := lambdaTree_written hfits hl.sound hb
      exact hfits.node h.sound.1
        ⟨⟨_, by simp [nodeFields, Data.lookup?, Expr.tree], hlambda⟩, by simp [nodeFields, ha]⟩

theorem exprTrees_written (hfits : placing.Fits) : ∀ {es : List Expr},
    (∀ e ∈ es, e.WellFormed) → exprsWritten placing es (exprTrees es)
  | [], _ => trivial
  | e :: es, h => by
      obtain ⟨he, hes⟩ := List.forall_mem_cons.mp h
      exact ⟨he.written hfits, exprTrees_written hfits hes⟩

theorem pairTrees_written (hfits : placing.Fits) : ∀ {es : List (Expr × Expr)},
    (∀ e ∈ es, e.1.WellFormed ∧ e.2.WellFormed) → pairsWritten placing es (pairTrees es)
  | [], _ => trivial
  | (k, v) :: es, h => by
      obtain ⟨⟨hk, hv⟩, hes⟩ := List.forall_mem_cons.mp h
      exact ⟨hk.written hfits, hv.written hfits, pairTrees_written hfits hes⟩

theorem partTrees_written (hfits : placing.Fits) : ∀ {ps : List NamePart},
    (∀ d, .misplaced d ∉ ps) → (∀ e, .computed e ∈ ps → e.WellFormed) →
      partsWritten placing ps (partTrees ps)
  | [], _, _ => trivial
  | p :: ps, hplaced, h => by
      have hps : partsWritten placing ps (partTrees ps) := partTrees_written hfits
        (fun d hd => hplaced d (List.mem_cons_of_mem _ hd))
        fun e he => h e (List.mem_cons_of_mem _ he)
      cases p with
      | plain s => exact ⟨rfl, hps⟩
      | computed e => exact ⟨(h e (List.mem_cons_self ..)).written hfits, hps⟩
      | misplaced d => exact absurd (List.mem_cons_self ..) (hplaced d)

theorem exprTree?_written (hfits : placing.Fits) : ∀ {e : Option Expr} {fields : Fields}
    {name : String}, Data.lookup? name fields = some (exprTree? e) →
      (∀ x, e = some x → x.WellFormed) → exprWritten? placing fields name e
  | none, _, _, hname, _ => .inr hname
  | some e, _, _, hname, h => ⟨_, hname, (h e rfl).written hfits⟩

end

/-! ## Statements -/

theorem defaultTrees_written (hfits : placing.Fits) : ∀ {es : List (Name × Expr)},
    (∀ d ∈ es, d.1.IsText) → (∀ d ∈ es, d.2.WellFormed) →
      defaultsWritten placing es (es.map fun d => .list [d.1, d.2.tree])
  | [], _, _ => trivial
  | (n, e) :: es, htext, h => by
      obtain ⟨hn, htext⟩ := List.forall_mem_cons.mp htext
      obtain ⟨he, hes⟩ := List.forall_mem_cons.mp h
      exact ⟨hn, rfl, he.written hfits, defaultTrees_written hfits htext hes⟩

/-- The fields of a signature say what they should wherever they are found. -/
theorem signatureFields_written (hfits : placing.Fits) {signature : Signature} {fields : Fields}
    (hfields : ∀ name ∈ ["params", "defaults", "varargs", "flags"],
      Data.lookup? name fields = Data.lookup? name signature.fields)
    (hsound : signature.Sound) (h : ∀ d ∈ signature.defaults, d.2.WellFormed) :
    signature.WrittenIn placing fields := by
  have hparams : Data.lookup? "params" fields = some (.list signature.params) :=
    (hfields _ (by simp)).trans (by simp [Signature.fields, Data.lookup?])
  have hdefaults : Data.lookup? "defaults" fields =
      some (.list (signature.defaults.map fun d => .list [d.1, d.2.tree])) :=
    (hfields _ (by simp)).trans (by simp [Signature.fields, Data.lookup?])
  have hvarargs : Data.lookup? "varargs" fields = some (.bool signature.varargs) :=
    (hfields _ (by simp)).trans (by simp [Signature.fields, Data.lookup?])
  have hflags : Data.lookup? "flags" fields = some (.list (signature.flags.names.map .text)) :=
    (hfields _ (by simp)).trans (by simp [Signature.fields, Data.lookup?])
  exact ⟨⟨hsound.1, .inr ⟨_, hparams, _, rfl, rfl⟩⟩,
    .inr ⟨_, hdefaults, _, rfl, defaultTrees_written hfits hsound.2 h⟩, .inl ⟨_, hvarargs, rfl⟩,
    .inr ⟨_, hflags, _, rfl, _, rfl, fun _ => Iff.rfl⟩⟩

mutual

/-- The tree of a well-formed statement is one of its trees. -/
theorem Stmt.WellFormed.written (hfits : placing.Fits) : ∀ {s : Stmt}, s.WellFormed →
    s.WrittenAs placing s.tree
  | .assign m target op value, h => by
      have ht := (h.expr (e := target) (by simp [Stmt.exprs])).written hfits
      have hv := (h.expr (e := value) (by simp [Stmt.exprs])).written hfits
      exact hfits.node h.here.1 (by simp [nodeFields, Assigned, ht, hv])
  | .unlet m targets bang, h => by
      have ht : exprsWritten placing targets (exprTrees targets) :=
        exprTrees_written hfits fun e he => h.expr he
      exact hfits.node h.here.1 (by simp [nodeFields, Flagged, ht])
  | .lock m targets depth, h => by
      have ht : exprsWritten placing targets (exprTrees targets) :=
        exprTrees_written hfits fun e he => h.expr he
      exact hfits.node h.here.1 (by simp [nodeFields, Deep, ht])
  | .unlock m targets depth, h => by
      have ht : exprsWritten placing targets (exprTrees targets) :=
        exprTrees_written hfits fun e he => h.expr he
      exact hfits.node h.here.1 (by simp [nodeFields, Deep, ht])
  | .echo m kind args, h => by
      have ha : exprsWritten placing args (exprTrees args) :=
        exprTrees_written hfits fun e he => h.expr he
      exact hfits.node h.here.1 (by simp [nodeFields, ha])
  | .call m e range, h => by
      have he := (h.expr (e := e) (by simp [Stmt.exprs])).written hfits
      refine hfits.node h.here.1 ⟨by simp [nodeFields, he], ?_⟩
      cases range with
      | none => simp [rangeWritten?, nodeFields]
      | some range =>
          have hfirst := (h.expr (e := range.1) (by simp [Stmt.exprs])).written hfits
          have hlast := (h.expr (e := range.2) (by simp [Stmt.exprs])).written hfits
          exact ⟨_, by simp [nodeFields, Data.lookup?], _, _, rfl, hfirst, hlast⟩
  | .execute m args, h => by
      have ha : exprsWritten placing args (exprTrees args) :=
        exprTrees_written hfits fun e he => h.expr he
      exact hfits.node h.here.1 (by simp [nodeFields, ha])
  | .conditional m branches otherwise, h => by
      have hb : branchesWritten placing branches (branchTrees branches) :=
        branchTrees_written hfits (fun b hb => h.expr (List.mem_map.mpr ⟨b, hb, rfl⟩))
          fun b hb t ht => h.nested (List.mem_append_left _ (List.mem_flatMap.mpr ⟨b, hb, ht⟩))
      refine hfits.node h.here.1 ⟨h.here.2, by simp [nodeFields, hb], ?_⟩
      exact blockTree?_written hfits (by simp [nodeFields, Data.lookup?]) fun body hbody t ht =>
        h.nested (List.mem_append_right _ (by simpa [hbody] using ht))
  | .whileLoop m condition body, h => by
      have hc := (h.expr (e := condition) (by simp [Stmt.exprs])).written hfits
      have hb : stmtsWritten placing body (stmtTrees body) :=
        stmtTrees_written hfits fun t ht => h.nested ht
      exact hfits.node h.here.1 (by simp [nodeFields, hc, hb])
  | .forLoop m target iterable body, h => by
      have ht := (h.expr (e := target) (by simp [Stmt.exprs])).written hfits
      have hi := (h.expr (e := iterable) (by simp [Stmt.exprs])).written hfits
      have hb : stmtsWritten placing body (stmtTrees body) :=
        stmtTrees_written hfits fun t ht => h.nested ht
      exact hfits.node h.here.1 (by simp [nodeFields, Data.lookup?, ht, hi, hb])
  | .forUnpack m targets iterable body, h => by
      have ht : exprsWritten placing targets (exprTrees targets) :=
        exprTrees_written hfits fun e he => h.expr (List.mem_cons_of_mem _ he)
      have hi := (h.expr (e := iterable) (by simp [Stmt.exprs])).written hfits
      have hb : stmtsWritten placing body (stmtTrees body) :=
        stmtTrees_written hfits fun t ht => h.nested ht
      exact hfits.node h.here.1 (by simp [nodeFields, ht, hi, hb])
  | .tryCatch m body clauses cleanup, h => by
      have hb : stmtsWritten placing body (stmtTrees body) :=
        stmtTrees_written hfits fun t ht => h.nested (List.mem_append_left _ ht)
      have hc : clausesWritten placing clauses (clauseTrees clauses) :=
        clauseTrees_written hfits h.here.2 fun c hc t ht => h.nested (List.mem_append_right _
          (List.mem_append_left _ (List.mem_flatMap.mpr ⟨c, hc, ht⟩)))
      refine hfits.node h.here.1 ⟨by simp [nodeFields, hb], by simp [nodeFields, hc], ?_⟩
      exact blockTree?_written hfits (by simp [nodeFields, Data.lookup?]) fun body hbody t ht =>
        h.nested (List.mem_append_right _ (List.mem_append_right _ (by simpa [hbody] using ht)))
  | .throw m value, h => by
      have hv := (h.expr (e := value) (by simp [Stmt.exprs])).written hfits
      exact hfits.node h.here.1 (by simp [nodeFields, hv])
  | .returning m value, h => hfits.node h.here.1 <|
      exprTree?_written hfits (by simp [nodeFields, Data.lookup?])
        fun e he => h.expr (by simp [Stmt.exprs, he])
  | .breaking, _ => ⟨_, rfl, by simp [nodeFields, Data.lookup?], trivial⟩
  | .continuing, _ => ⟨_, rfl, by simp [nodeFields, Data.lookup?], trivial⟩
  | .finish, _ => ⟨_, rfl, by simp [nodeFields, Data.lookup?], trivial⟩
  | .function m scope name signature bang body, h => by
      obtain ⟨hmark, hscope, hname, hsound⟩ := h.here
      obtain ⟨hdefaults, hdeclared⟩ := h.declared rfl
      have hb : stmtsWritten placing body (stmtTrees body) := stmtTrees_written hfits hdeclared
      exact hfits.node hmark ⟨scoped_nodeFields hscope, ⟨hname, by simp [nodeFields]⟩,
        signatureFields_written hfits (by simp [nodeFields, Data.lookup?]) hsound hdefaults,
        by simp [nodeFields, Flagged], by simp [nodeFields, hb]⟩
  | .dictFunction m target key signature bang body, h => by
      obtain ⟨hmark, hkey, hsound⟩ := h.here
      obtain ⟨hdefaults, hdeclared⟩ := h.declared rfl
      have ht := (h.expr (e := target) (by simp [Stmt.exprs])).written hfits
      have hb : stmtsWritten placing body (stmtTrees body) := stmtTrees_written hfits hdeclared
      exact hfits.node hmark ⟨by simp [nodeFields, ht], ⟨hkey, by simp [nodeFields]⟩,
        signatureFields_written hfits (by simp [nodeFields, Data.lookup?]) hsound hdefaults,
        by simp [nodeFields, Flagged], by simp [nodeFields, hb]⟩
  | .delFunction m scope name bang, h => by
      obtain ⟨hmark, hscope, hname⟩ := h.here
      exact hfits.node hmark ⟨scoped_nodeFields hscope, ⟨hname, by simp [nodeFields]⟩,
        by simp [nodeFields, Flagged]⟩
  | .command m name argument bang, h =>
      hfits.node h.here.1 ⟨⟨h.here.2, by simp [nodeFields]⟩, by simp [nodeFields, Argued],
        by simp [nodeFields, Flagged]⟩

theorem stmtTrees_written (hfits : placing.Fits) : ∀ {ss : List Stmt},
    (∀ s ∈ ss, s.WellFormed) → stmtsWritten placing ss (stmtTrees ss)
  | [], _ => trivial
  | s :: ss, h => by
      obtain ⟨hs, hss⟩ := List.forall_mem_cons.mp h
      exact ⟨hs.written hfits, stmtTrees_written hfits hss⟩

theorem branchTrees_written (hfits : placing.Fits) : ∀ {bs : List Branch},
    (∀ b ∈ bs, b.condition.WellFormed) → (∀ b ∈ bs, ∀ t ∈ b.body, t.WellFormed) →
      branchesWritten placing bs (branchTrees bs)
  | [], _, _ => trivial
  | .mk condition body :: bs, hconditions, hbodies => by
      obtain ⟨hcondition, hconditions⟩ := List.forall_mem_cons.mp hconditions
      obtain ⟨hbody, hbodies⟩ := List.forall_mem_cons.mp hbodies
      exact ⟨hcondition.written hfits, stmtTrees_written hfits hbody,
        branchTrees_written hfits hconditions hbodies⟩

theorem clauseTrees_written (hfits : placing.Fits) : ∀ {cs : List Clause},
    (∀ c ∈ cs, c.pattern = .null ∨ c.pattern.IsText) →
      (∀ c ∈ cs, ∀ t ∈ c.body, t.WellFormed) → clausesWritten placing cs (clauseTrees cs)
  | [], _, _ => trivial
  | .mk pattern body :: cs, hpatterns, hbodies => by
      obtain ⟨hpattern, hpatterns⟩ := List.forall_mem_cons.mp hpatterns
      obtain ⟨hbody, hbodies⟩ := List.forall_mem_cons.mp hbodies
      have hb : stmtsWritten placing body (stmtTrees body) := stmtTrees_written hfits hbody
      refine ⟨?_, by simp [hb], clauseTrees_written hfits hpatterns hbodies⟩
      rcases (hpattern : pattern = .null ∨ pattern.IsText) with rfl | htext
      · exact .inl ⟨rfl, by simp⟩
      · exact .inr ⟨htext, by simp⟩

theorem blockTree?_written (hfits : placing.Fits) : ∀ {body : Option (List Stmt)}
    {fields : Fields} {name : String}, Data.lookup? name fields = some (blockTree? body) →
      (∀ ss, body = some ss → ∀ t ∈ ss, t.WellFormed) → blockWritten? placing fields name body
  | none, _, _, hname, _ => .inr hname
  | some body, _, _, hname, h => ⟨_, hname, _, rfl, stmtTrees_written hfits (h body rfl)⟩

end

/-- The tree of a well-formed script is one of its trees. -/
theorem Program.WellFormed.written (hfits : placing.Fits) {program : Program}
    (h : program.WellFormed) : program.WrittenAs placing program.tree := by
  have hb := stmtTrees_written hfits h.2
  exact .inl (hfits.node h.1 (by simp [nodeFields, hb]))

end Vimscript
