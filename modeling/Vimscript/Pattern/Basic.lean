import Vimscript.Pattern.Parser
import Vimscript.Pattern.Regular
import Vimscript.Stop

/-!
# Search patterns

A search pattern is compiled by reading its regular expression. A pattern that has none, or one that
is not well formed, is invalid; one that asks for the impossible is a fault.
-/

namespace Vimscript.Pattern

/-- What a flaw in the regular expression of a pattern comes to. -/
def Flaw.stop (pattern : String) : Flaw → Stop
  | .malformed => .ofCause (.invalidPattern pattern)
  | .countTooLarge => .fault .countTooLarge
  | .countTooLong digits => .fault (.tooManyDigits (some digits))
  | .mixedCharsets => .fault .mixedCharsets

/-- Compiles a search pattern. -/
def compile (pattern : String) : Result Expression :=
  match regular? pattern with
  | none => fail (.invalidPattern pattern)
  | some t => (parse t.ignoreCase t.regex).mapError (Flaw.stop pattern)

/-- Whether a pattern matches somewhere in a text. -/
def matches? (pattern text : String) : Result Bool :=
  (compile pattern).map (·.occursIn text.toList)

/-- The pieces of a text between matches: `ahead` is what is left of it from the offset `start` on,
where the current piece begins. An empty match there does not end the piece. -/
def pieces (ahead : List Char) (start : Nat) : List (Nat × Nat) → List (List Char)
  | [] => [ahead]
  | (first, last) :: rest =>
    if first = last ∧ first = start then pieces ahead start rest
    else ahead.take (first - start) :: pieces (ahead.drop (last - start)) last rest

/-- Drops an empty piece at the beginning and one at the end. -/
def dropEmptyEnds (ps : List (List Char)) : List (List Char) :=
  let ps := match ps with
    | [] :: rest => rest
    | _ => ps
  if ps.getLast? == some [] then ps.dropLast else ps

/-- Cuts a text where a regular expression matches. -/
def split (e : Expression) (keepEmpty : Bool) (text : String) : List String :=
  let cs := text.toList
  let ps := pieces cs 0 (e.spans cs)
  (if keepEmpty then ps else dropEmptyEnds ps).map String.ofList

end Vimscript.Pattern
