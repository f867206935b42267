import Vimscript.Data.Json
import Vimscript.Data.Yaml.Node
import Vimscript.Text.Case
import Vimscript.Text.Class

/-!
# Documents

Plain data as text, in JSON or YAML. A document without a stated format is JSON when it starts with
a brace or bracket. JSON that cannot be read is tried as YAML, which allows more.
-/

namespace Vimscript.Document

/-- A format a document can be read in. -/
inductive Format where
  | json
  | yaml
deriving Repr, DecidableEq

/-- The name of a format. -/
def Format.name : Format → String
  | json => "json"
  | yaml => "yaml"

/-- The format with a name, in small or capital letters. -/
def Format.ofName? (name : String) : Option Format :=
  [Format.json, .yaml].find? fun f => f.name == Text.lower name

/-- The format a text seems to be in. -/
def detect (s : String) : Format :=
  match Text.trimLeft s.toList with
  | '\x7b' :: _ | '[' :: _ => .json
  | _ => .yaml

/-- Data that was read, unless an integer in it has too many digits. -/
def accept (d : Data) : Except Fault Data := do
  Number.checkDigits d.mostDigits
  return d

/-- Reads a text in a format. -/
def readAs : Format → String → Except Fault Data
  | .json, s =>
    match Json.parse? s with
    | some d => accept d
    | none => do accept (← Yaml.parse s)
  | .yaml, s => do accept (← Yaml.parse s)

/-- Reads a text in a named format, or in the one it seems to be in. -/
def read (format : Option String) (s : String) : Except Fault Data :=
  match format with
  | none | some "" => readAs (detect s) s
  | some name =>
    match Format.ofName? name with
    | some f => readAs f s
    | none => .error (.unknownFormat (Text.quoted name))

/-- Writes data in a named format. Only JSON is written. -/
def write (format : String) (pretty : Bool) (d : Data) : Except Fault String :=
  if Format.ofName? format = some .json then
    Json.render pretty d
  else .error (.unknownFormat (Text.quoted format))

end Vimscript.Document
