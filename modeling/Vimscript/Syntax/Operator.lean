/-!
# Operators

The operators of expressions and assignments with their spelling. A comparison may be followed by
`#` or `?`, which fixes whether it regards case.
-/

namespace Vimscript

/-- An arithmetic operator. Concatenation has two spellings. -/
inductive Arith where
  | add
  | subtract
  | multiply
  | divide
  | modulo
  | dot
  | dotDot
deriving Repr, DecidableEq

/-- What a comparison asks. -/
inductive Relation where
  | equal
  | notEqual
  | greater
  | greaterEqual
  | less
  | lessEqual
  | matching
  | notMatching
  | same
  | notSame
deriving Repr, DecidableEq

/-- How a comparison treats case. -/
inductive CaseRule where
  | plain
  | respect
  | ignore
deriving Repr, DecidableEq

/-- An operator between two operands. -/
inductive BinaryOp where
  | arith (op : Arith)
  | both
  | either
  | compare (relation : Relation) (rule : CaseRule)
deriving Repr, DecidableEq

/-- An operator before its operand. -/
inductive UnaryOp where
  | not
  | minus
  | plus
deriving Repr, DecidableEq

/-- How `:let` combines the value with what its target holds. -/
inductive LetOp where
  | set
  | update (op : Arith)
deriving Repr, DecidableEq

namespace Arith

/-- The spelling of an arithmetic operator. -/
def text : Arith → String
  | add => "+"
  | subtract => "-"
  | multiply => "*"
  | divide => "/"
  | modulo => "%"
  | dot => "."
  | dotDot => ".."

/-- Every arithmetic operator. -/
def all : List Arith := [add, subtract, multiply, divide, modulo, dot, dotDot]

end Arith

namespace Relation

/-- The spelling of a comparison without its suffix. -/
def text : Relation → String
  | equal => "=="
  | notEqual => "!="
  | greater => ">"
  | greaterEqual => ">="
  | less => "<"
  | lessEqual => "<="
  | matching => "=~"
  | notMatching => "!~"
  | same => "is"
  | notSame => "isnot"

/-- Every comparison. -/
def all : List Relation :=
  [equal, notEqual, greater, greaterEqual, less, lessEqual, matching, notMatching, same, notSame]

end Relation

namespace CaseRule

/-- The suffix of a comparison. -/
def text : CaseRule → String
  | plain => ""
  | respect => "#"
  | ignore => "?"

/-- Only the question mark makes a comparison ignore case. -/
def ignoresCase : CaseRule → Bool
  | ignore => true
  | _ => false

end CaseRule

namespace BinaryOp

/-- The spelling of a binary operator. -/
def text : BinaryOp → String
  | arith op => op.text
  | both => "&&"
  | either => "||"
  | compare relation rule => relation.text ++ rule.text

/-- Every binary operator. -/
def all : List BinaryOp :=
  Arith.all.map arith ++ [both, either] ++
    Relation.all.flatMap fun r => [CaseRule.plain, .respect, .ignore].map (compare r)

/-- The operator with a spelling. -/
def ofText? (s : String) : Option BinaryOp :=
  all.find? fun op => op.text == s

end BinaryOp

namespace UnaryOp

/-- The spelling of a unary operator. -/
def text : UnaryOp → String
  | not => "!"
  | minus => "-"
  | plus => "+"

/-- The operator with a spelling. -/
def ofText? (s : String) : Option UnaryOp :=
  [not, minus, plus].find? fun op => op.text == s

end UnaryOp

namespace LetOp

/-- The spelling of an assignment operator. -/
def text : LetOp → String
  | set => "="
  | update op => op.text ++ "="

/-- The operator with a spelling. -/
def ofText? (s : String) : Option LetOp :=
  (set :: Arith.all.map update).find? fun op => op.text == s

end LetOp

end Vimscript
