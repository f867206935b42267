import Vimscript.Heap.Basic
import Vimscript.Syntax.Scope

/-!
# Where code runs

Code runs in a script and, inside a function, in a frame. A frame lists the namespaces that are
visible in it: its own and, for a closure, those of the frames around it.
-/

namespace Vimscript

/-- A script that runs or ran. Its number tells it from any other. -/
structure Script where
  id : Nat
  name : String
  /-- The namespace of its variables. -/
  space : Ref
deriving Repr, DecidableEq, Inhabited

/-- The two namespaces of one function call. -/
structure Level where
  locals : Ref
  arguments : Ref
deriving Repr, DecidableEq, Inhabited

/-- A function call as its body sees it. -/
structure Frame where
  own : Level
  /-- The levels of the calls around a closure, innermost first. -/
  outer : List Level := []
  /-- The chain of closures starts at the top level of a script. -/
  seesGlobals : Bool := false
  /-- The Dictionary a `dict` function was called on. -/
  self : Option Ref := none
deriving Repr, DecidableEq

/-- A frame whose function was declared in the frame `parent`, which only a closure can see. -/
def Frame.enter (own : Level) (isClosure : Bool) (parent : Option Frame) (self : Option Ref) :
    Frame :=
  if isClosure then
    match parent with
    | some p => { own, outer := p.own :: p.outer, seesGlobals := p.seesGlobals, self }
    | none => { own, seesGlobals := true, self }
  else { own, self }

/-- What an evaluation is performed against. -/
structure Context where
  script : Script
  frame : Option Frame := none
deriving Repr, DecidableEq

/-- Whether code runs inside a function. -/
def Context.inFunction (c : Context) : Bool := c.frame.isSome

/-- The namespaces every script shares: global variables, those of the editor, and those of the
buffer, window and tab page. -/
structure Spaces where
  globals : Ref
  vim : Ref
  buffer : Ref
  window : Ref
  tab : Ref
deriving Repr, DecidableEq, Inhabited

/-- The variables of the editor at the start. -/
def initialVim : List (String × Value) :=
  [("exception", .string ""), ("throwpoint", .string ""), ("errmsg", .string ""),
   ("count", .number 0), ("count1", .number 1), ("true", .number 1), ("false", .number 0)]

/-- Makes the shared namespaces. -/
def Spaces.create : Op Spaces := do
  let globals ← Op.alloc (.dict {})
  let entries ← initialVim.mapM fun (name, v) => do return (name, ← Op.alloc v)
  let vim ← Op.alloc (.dict { entries })
  let buffer ← Op.alloc (.dict {})
  let window ← Op.alloc (.dict {})
  let tab ← Op.alloc (.dict {})
  return { globals, vim, buffer, window, tab }

end Vimscript
