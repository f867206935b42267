import Vimscript.Text.Class
import Vimscript.Text.NameTable

/-!
# Names

A name starts with a letter or an underscore and goes on with letters, digits and marks.
-/

namespace Vimscript.Text

/-- A word character, or one of the few that can start a name besides them. -/
def isNameWord (c : Char) : Bool :=
  (isWord c || inRuns letterlikeRuns c.toNat) && !inRuns outsideNameRuns c.toNat

/-- A character that can start a name. -/
def isNameStart (c : Char) : Bool :=
  isNameWord c && !isDigit c && !inRuns laterNameRuns c.toNat

/-- A character that can be part of a name. -/
def isNamePart (c : Char) : Bool :=
  isNameWord c || inRuns laterNameRuns c.toNat

/-- Whether a text is a name. -/
def isName : List Char → Bool
  | [] => false
  | c :: rest => isNameStart c && rest.all isNamePart

end Vimscript.Text
