import Vimscript.Heap.Lock
import Vimscript.Variables.Context

/-!
# Variables

A name is looked up in the namespaces its scope makes visible, innermost first. A name without a
scope is local inside a function and global elsewhere; it is written where it is found, or into
the innermost namespace when it is new. A locked name refuses to be written or removed.
-/

namespace Vimscript

namespace Spaces

/-- The namespace a write into a scope lands in, and those a read consults after it. -/
def visible (sp : Spaces) (scope : Option Scope) (name : String) (c : Context) :
    Except Cause (Ref × List Ref) :=
  match scope, c.frame with
  | none, none => .ok (sp.globals, [])
  | none, some f =>
    let outer := f.outer.map (·.locals)
    .ok (f.own.locals, if f.seesGlobals then outer ++ [sp.globals] else outer)
  | some .locals, some f => .ok (f.own.locals, f.outer.map (·.locals))
  | some .arguments, some f => .ok (f.own.arguments, f.outer.map (·.arguments))
  | some .global, _ => .ok (sp.globals, [])
  | some .script, _ => .ok (c.script.space, [])
  | some .vim, _ => .ok (sp.vim, [])
  | some .buffer, _ => .ok (sp.buffer, [])
  | some .window, _ => .ok (sp.window, [])
  | some .tab, _ => .ok (sp.tab, [])
  | some _, _ => .error (.illegalName (displayName scope name))

/-- The visible namespaces, innermost first. -/
def searched (sp : Spaces) (scope : Option Scope) (name : String) (c : Context) :
    Op (List Ref) :=
  match sp.visible scope name c with
  | .ok (first, rest) => return first :: rest
  | .error cause => fail cause

/-- The namespace a scope stands for as a whole. -/
def space (sp : Spaces) (scope : Option Scope) (c : Context) : Op Ref :=
  match sp.visible scope "" c with
  | .ok (first, _) => return first
  | .error cause => fail cause

end Spaces

namespace Heap

/-- The first of some namespaces that binds a name. -/
def owner? (h : Heap) (name : String) (namespaces : List Ref) : Option Ref :=
  namespaces.find? fun ns => (h.table ns).contains name

/-- The value of a name in the first of some namespaces that binds it. -/
def binding? (h : Heap) (name : String) (namespaces : List Ref) : Option Ref :=
  namespaces.findSome? fun ns => (h.table ns).get? name

end Heap

namespace Spaces

/-! ## Reading -/

/-- The value of a variable, if it is defined. -/
def get? (sp : Spaces) (scope : Option Scope) (name : String) (c : Context) :
    Op (Option Ref) := do
  let namespaces ← sp.searched scope name c
  return (← get).binding? name namespaces

/-- The value of a variable that has to be defined. -/
def getOrFail (sp : Spaces) (scope : Option Scope) (name : String) (c : Context) : Op Ref := do
  match ← sp.get? scope name c with
  | some r => return r
  | none => fail (.undefinedVariable (displayName scope name))

/-- Whether a variable is defined; a scope that is not there defines none. -/
def isDefined (sp : Spaces) (scope : Option Scope) (name : String) (c : Context) : Op Bool := do
  match sp.visible scope name c with
  | .ok (first, rest) => return ((← get).binding? name (first :: rest)).isSome
  | .error _ => return false

/-! ## Writing -/

/-- The scope a name without one belongs to. -/
def effectiveScope (scope : Option Scope) (c : Context) : Scope :=
  scope.getD (if c.inFunction then .locals else .global)

/-- Refuses to write into a read-only scope, and over the Dictionary a function was called on. -/
def checkWritable (scope : Option Scope) (name : String) (c : Context) : Except Cause Unit :=
  let effective := effectiveScope scope c
  if effective.isReadOnly then .error (.readOnly (displayName scope name))
  else if effective = .locals ∧ name = "self" ∧ (c.frame.bind (·.self)).isSome then
    .error (.readOnly "self")
  else .ok ()

/-- Fails where a variable cannot be written. -/
def requireWritable (scope : Option Scope) (name : String) (c : Context) : Op Unit :=
  match checkWritable scope name c with
  | .ok () => return ()
  | .error cause => fail cause

/-- The namespace in which a variable is written. -/
def target (sp : Spaces) (scope : Option Scope) (name : String) (c : Context) : Op Ref := do
  match scope with
  | some _ => sp.space scope c
  | none =>
    let namespaces ← sp.searched none name c
    match (← get).owner? name namespaces with
    | some ns => return ns
    | none => sp.space none c

/-- Creates or overwrites a variable. -/
def set (sp : Spaces) (scope : Option Scope) (name : String) (value : Ref) (c : Context) :
    Op Unit := do
  requireWritable scope name c
  let ns ← sp.target scope name c
  if ((← get).table ns).isNameLocked name then fail (.locked (displayName scope name))
  modify fun h => h.modifyTable ns (·.insert name value)

/-- Writes a variable of the editor, which scripts cannot do. -/
def setVim (sp : Spaces) (name : String) (value : Ref) : Op Unit :=
  modify fun h => h.modifyTable sp.vim (·.insert name value)

/-- Removes a variable from the innermost namespace of its scope. -/
def unlet (sp : Spaces) (scope : Option Scope) (name : String) (bang : Bool) (c : Context) :
    Op Unit := do
  requireWritable scope name c
  let ns ← sp.space scope c
  let table := (← get).table ns
  if !table.contains name then
    if bang then return () else fail (.noSuchVariable (displayName scope name))
  if table.isNameLocked name then fail (.locked (displayName scope name))
  modify fun h => h.modifyTable ns (·.erase name)

/-- Removes every global variable. -/
def clear (sp : Spaces) : Op Unit :=
  modify fun h => h.modifyTable sp.globals fun _ => {}

/-! ## Locking -/

/-- Sets or takes away the protection of a variable, and the lock flags of its value to a depth. -/
def setLock (sp : Spaces) (isLocked : Bool) (scope : Option Scope) (name : String) (depth : Int)
    (c : Context) : Op Unit := do
  let namespaces ← sp.searched scope name c
  match (← get).owner? name namespaces with
  | none => fail (.noSuchVariable (displayName scope name))
  | some ns =>
    modify fun h =>
      h.modifyTable ns fun t => if isLocked then t.lockName name else t.unlockName name
    match ((← get).table ns).get? name with
    | some r => modify fun h => h.lockTo isLocked depth r
    | none => return ()

/-- Whether a variable or its value is locked. -/
def isLocked (sp : Spaces) (scope : Option Scope) (name : String) (c : Context) : Op Bool := do
  let namespaces ← sp.searched scope name c
  let h ← get
  match h.owner? name namespaces with
  | none => return false
  | some ns =>
    let table := h.table ns
    return table.isNameLocked name || (table.get? name).any h.isLocked

end Spaces

end Vimscript
