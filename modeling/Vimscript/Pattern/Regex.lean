import Vimscript.Pattern.Charset

/-!
# Regular expressions

The structure of a regular expression and what its parts match. Matching tries the alternatives in
the order in which they are written, a repetition as often, or as seldom, as its mode says,
and hands every position it reaches to what follows. A search goes through the places of a text from
left to right; where an expression begins with a set, it passes over characters outside that set.
-/

namespace Vimscript.Pattern

/-- How eagerly a repetition matches. -/
inductive Mode where
  | greedy
  | reluctant
  /-- As often as possible, and no way of matching a round is ever taken back. -/
  | possessive
deriving Repr, DecidableEq

/-- A regular expression. -/
inductive Regex where
  | empty
  /-- A given character, or any other. -/
  | char (fold : Fold) (negated : Bool) (c : Char)
  /-- Any character; a line end only if `newline` is set. -/
  | any (newline : Bool)
  | set (fold : Fold) (negated : Bool) (items : List SetItem)
  | textStart
  | textEnd
  /-- The start of the text or, in a pattern over lines, of a line. -/
  | start (lines : Bool)
  /-- The end of the text, or the place before the line end that ends it. -/
  | finish (lines : Bool)
  | wordEdge (ascii negated : Bool)
  | seq (first second : Regex)
  | alt (first second : Regex)
  | times (mode : Mode) (min : Nat) (max : Option Nat) (r : Regex)
  /-- A group; with a number it records what it matched. -/
  | group (number : Option Nat) (r : Regex)
  | backref (fold : Fold) (number : Nat)
  /-- One of two expressions, by whether a group has matched. -/
  | conditional (number : Nat) (yes no : Regex)
  | ahead (negated : Bool) (r : Regex)
  | behind (negated : Bool) (width : Nat) (r : Regex)
  | atomic (r : Regex)
deriving Repr, DecidableEq

/-! ## Places -/

/-- A place in a text: what is behind, nearest first, what is ahead, how many characters that are,
and what the numbered groups have matched. -/
structure Cursor where
  before : List Char
  after : List Char
  left : Nat
  captures : List (Nat × List Char) := []

/-- The start of a text. -/
def Cursor.ofText (cs : List Char) : Cursor := { before := [], after := cs, left := cs.length }

/-- Moves over one character. -/
def Cursor.advance (c : Cursor) : Cursor :=
  match c.after with
  | x :: rest => { c with before := x :: c.before, after := rest, left := c.left - 1 }
  | [] => c

/-- Moves back over `n` characters, if there are as many. -/
def Cursor.back? : Nat → Cursor → Option Cursor
  | 0, c => some c
  | n + 1, c =>
    match c.before with
    | x :: rest =>
      Cursor.back? n { c with before := rest, after := x :: c.after, left := c.left + 1 }
    | [] => none

/-- What lies between two places, the second of which is further on. -/
def Cursor.between (c d : Cursor) : List Char :=
  c.after.take (c.left - d.left)

/-- Records what a group has matched. -/
def Cursor.capture (number : Nat) (text : List Char) (c : Cursor) : Cursor :=
  { c with captures := (number, text) :: c.captures }

/-- What a group has matched last. -/
def Cursor.captured? (number : Nat) (c : Cursor) : Option (List Char) :=
  (c.captures.find? (·.1 == number)).map (·.2)

/-- Whether the characters on the two sides differ in being word characters. -/
def Cursor.atWordEdge (ascii : Bool) (c : Cursor) : Bool :=
  let isWord := CharClass.word.contains ascii
  (c.before.head?.any isWord) != (c.after.head?.any isWord)

/-- Whether the whole text is empty. -/
def Cursor.isBlank (c : Cursor) : Bool := c.before.isEmpty && c.after.isEmpty

/-- The end of a text, or the place before its last line end. -/
def Cursor.atFinish (lines : Bool) (c : Cursor) : Bool :=
  match c.after with
  | [] => true
  | ['\n'] => true
  | x :: _ => lines && x == '\n'

/-- The start of a text or of a line. -/
def Cursor.atStart (lines : Bool) (c : Cursor) : Bool :=
  match c.before with
  | [] => true
  | x :: _ => lines && x == '\n'

/-! ## Matching -/

/-- Tries to match at a place and to go on from there; gives the place where everything ends. -/
abbrev Matching := Cursor → (Cursor → Option Cursor) → Option Cursor

/-- Matches one character that satisfies `p`. -/
def matchChar (p : Char → Bool) : Matching := fun c k =>
  match c.after with
  | x :: _ => if p x then k c.advance else none
  | [] => none

/-- Matches nothing where a condition holds. -/
def matchWhen (p : Cursor → Bool) : Matching := fun c k => if p c then k c else none

/-- Matches a run of characters one after the other. -/
def matchText (same : Char → Char → Bool) : List Char → Matching
  | [], c, k => k c
  | x :: rest, c, k => matchChar (same x) c fun d => matchText same rest d k

/-- Whether a repetition may go on after `count` rounds. -/
def mayRepeat (max : Option Nat) (count : Nat) : Bool :=
  match max with
  | some m => count < m
  | none => true

/-- Repeats as often as possible. A round that matched nothing is the last one: `last` is what was
ahead when the current round began. -/
def matchGreedy (m : Matching) (min : Nat) (max : Option Nat) : Nat → Nat → Option Nat → Matching
  | 0, _, _, _, _ => none
  | fuel + 1, count, last, c, k =>
    if count < min then m c fun d => matchGreedy m min max fuel (count + 1) last d k
    else
      let longer :=
        if mayRepeat max count && last != some c.left then
          m c fun d => matchGreedy m min max fuel (count + 1) (some c.left) d k
        else none
      match longer with
      | some result => some result
      | none => k c

/-- Repeats as seldom as possible. -/
def matchReluctant (m : Matching) (min : Nat) (max : Option Nat) :
    Nat → Nat → Option Nat → Matching
  | 0, _, _, _, _ => none
  | fuel + 1, count, last, c, k =>
    if count < min then m c fun d => matchReluctant m min max fuel (count + 1) last d k
    else
      match k c with
      | some result => some result
      | none =>
        if mayRepeat max count && last != some c.left then
          m c fun d => matchReluctant m min max fuel (count + 1) (some c.left) d k
        else none

/-- Repeats as often as possible, each round in the first way it can be matched. -/
def matchPossessive (m : Matching) (min : Nat) (max : Option Nat) :
    Nat → Nat → Option Nat → Cursor → Option Cursor
  | 0, _, _, _ => none
  | fuel + 1, count, last, c =>
    if count < min then
      match m c some with
      | some d => matchPossessive m min max fuel (count + 1) last d
      | none => none
    else if mayRepeat max count && last != some c.left then
      match m c some with
      | some d => matchPossessive m min max fuel (count + 1) (some c.left) d
      | none => some c
    else some c

/-- Goes on from the place where something ends, if there is one. -/
def matchOnce (m : Cursor → Option Cursor) : Matching := fun c k =>
  match m c with
  | some d => k d
  | none => none

/-- Matches nothing where something else can, or cannot, be matched; what groups recorded on the
way is kept only in the first case. -/
def matchBeside (negated : Bool) (found : Option Cursor) : Matching := fun c k =>
  match found with
  | some d => if negated then none else k { c with captures := d.captures }
  | none => if negated then k c else none

/-- How a regular expression matches. -/
def Regex.matcher : Regex → Matching
  | empty => fun c k => k c
  | char fold negated x => matchChar fun y => fold.same x y != negated
  | any newline => matchChar fun y => newline || y != '\n'
  | set fold negated items => matchChar (setContains fold negated items)
  | textStart => matchWhen (·.before.isEmpty)
  | textEnd => matchWhen (·.after.isEmpty)
  | start lines => matchWhen (·.atStart lines)
  | finish lines => matchWhen (·.atFinish lines)
  | wordEdge ascii negated => matchWhen fun c => !c.isBlank && c.atWordEdge ascii != negated
  | seq first second => fun c k => first.matcher c fun d => second.matcher d k
  | alt first second => fun c k =>
    match first.matcher c k with
    | some result => some result
    | none => second.matcher c k
  | times mode min max r => fun c k =>
    let fuel := min + c.left + 2
    match mode with
    | .greedy => matchGreedy r.matcher min max fuel 0 none c k
    | .reluctant => matchReluctant r.matcher min max fuel 0 none c k
    | .possessive => matchOnce (matchPossessive r.matcher min max fuel 0 none) c k
  | group none r => r.matcher
  | group (some number) r => fun c k => r.matcher c fun d => k (d.capture number (c.between d))
  | backref fold number => fun c k =>
    match c.captured? number with
    | some text => matchText (fun x y => fold.lower x == fold.lower y) text c k
    | none => none
  | conditional number yes no => fun c k =>
    if (c.captured? number).isSome then yes.matcher c k else no.matcher c k
  | ahead negated r => fun c k => matchBeside negated (r.matcher c some) c k
  | behind negated width r => fun c k =>
    let found := match c.back? width with
      | some b => r.matcher b some
      | none => none
    matchBeside negated found c k
  | atomic r => matchOnce fun c => r.matcher c some

/-- Matches at a place; `advance` asks for at least one character. -/
def Regex.matchHere (r : Regex) (advance : Bool) (c : Cursor) : Option Cursor :=
  r.matcher c fun d => if advance && d.left == c.left then none else some d

/-! ## Searching -/

/-- The set an expression begins with, looked for as it is written: its classes are those of
`ascii`, whatever options hold where the set stands, and none of its letters may have case. -/
def Regex.lead? (ascii : Bool) : Regex → Option (Bool × List SetItem)
  | seq r _ | group _ r => r.lead? ascii
  | set fold negated items =>
    if items.any (·.isCased fold) then none else some (negated, items.map (·.withAscii ascii))
  | _ => none

/-- A whole expression. -/
structure Expression where
  regex : Regex
  /-- A set, perhaps negated, that a match is only looked for at the characters of. -/
  lead : Option (Bool × List SetItem)
deriving Repr

namespace Expression

/-- Whether a match is looked for where the text goes on like this. -/
def isTriedAt (e : Expression) (after : List Char) : Bool :=
  match e.lead with
  | some (negated, items) => after.head?.any (setContains .exact negated items)
  | none => true

/-- The first place, at or after this one, where the expression matches, with the place where the
match ends. Only a match right here must advance; `left` is the number of characters ahead. -/
def searchFrom (e : Expression) (advance : Bool) (before after : List Char) (left : Nat) :
    Option (Cursor × Cursor) :=
  let here : Cursor := { before, after, left }
  match if e.isTriedAt after then e.regex.matchHere advance here else none with
  | some last => some (here, last)
  | none =>
    match after with
    | [] => none
    | x :: rest => e.searchFrom false (x :: before) rest (left - 1)
termination_by structural after

/-- Whether the expression matches somewhere in a text. -/
def occursIn (e : Expression) (text : List Char) : Bool :=
  (e.searchFrom false [] text text.length).isSome

/-- The matches in a text of `size` characters from left to right, none inside another, as pairs of
offsets. A match that is empty may be followed by one at the same place that is not. -/
def spansFrom (e : Expression) (size : Nat) : Nat → Bool → Cursor → List (Nat × Nat)
  | 0, _, _ => []
  | fuel + 1, advance, c =>
    match e.searchFrom advance c.before c.after c.left with
    | none => []
    | some (first, last) =>
      (size - first.left, size - last.left) ::
        e.spansFrom size fuel (first.left == last.left) last

/-- The matches in a text from left to right. -/
def spans (e : Expression) (text : List Char) : List (Nat × Nat) :=
  e.spansFrom text.length (2 * text.length + 3) false (Cursor.ofText text)

end Expression

end Vimscript.Pattern
