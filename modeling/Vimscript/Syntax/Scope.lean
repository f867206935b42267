/-!
# Scopes

A variable lives in one namespace, selected by the letter before the colon of its name. A letter
that selects none is kept, since it is reported with the name.
-/

namespace Vimscript

/-- A scope of variables. -/
inductive Scope where
  | global
  | script
  | locals
  | arguments
  | vim
  | buffer
  | window
  | tab
  /-- A letter or word that names no namespace. -/
  | unknown (text : String)
deriving Repr, DecidableEq

namespace Scope

/-- What stands before the colon. -/
def text : Scope → String
  | global => "g"
  | script => "s"
  | locals => "l"
  | arguments => "a"
  | vim => "v"
  | buffer => "b"
  | window => "w"
  | tab => "t"
  | unknown s => s

/-- The scopes that have a namespace. -/
def known : List Scope := [global, script, locals, arguments, vim, buffer, window, tab]

/-- The known scope with a letter. -/
def ofText? (s : String) : Option Scope :=
  known.find? fun scope => scope.text == s

/-- Any text as a scope. -/
def ofText (s : String) : Scope :=
  (ofText? s).getD (unknown s)

/-- Scripts cannot write the arguments of a call and the variables of the editor. -/
def isReadOnly : Scope → Bool
  | arguments => true
  | vim => true
  | _ => false

end Scope

/-- Splits a written name at its scope: one known letter, a colon, and something after it. -/
def splitScope (name : String) : Option Scope × String :=
  match name.toList with
  | letter :: ':' :: c :: rest =>
    match Scope.ofText? (String.singleton letter) with
    | some scope => (some scope, String.ofList (c :: rest))
    | none => (none, name)
  | _ => (none, name)

/-- A name as messages show it. -/
def displayName (scope : Option Scope) (name : String) : String :=
  match scope with
  | some s => s.text ++ ":" ++ name
  | none => name

end Vimscript
