import Vimscript.Number.Limit
import Vimscript.Pattern.Atom
import Vimscript.Text.Name

/-!
# Reading regular expressions

The text of a regular expression is read by descent: alternatives, their items, and the repetition
after an item. A text that is not well formed has no reading; in particular a repetition
needs something to repeat, cannot be repeated itself, and cannot follow a bare position.
Options for the whole expression stand at its very start. Alternatives that begin alike are read as
what they share followed by a choice, and a choice between single characters is a set.
-/

namespace Vimscript.Pattern

/-! ## Widths -/

/-- The least and greatest number of characters an expression matches. -/
structure Width where
  min : Nat
  max : Option Nat
deriving Repr, DecidableEq

namespace Width

/-- The width of a single character. -/
def one : Width := ⟨1, some 1⟩

/-- The width of nothing. -/
def zero : Width := ⟨0, some 0⟩

/-- The width of one expression after another. -/
def append (a b : Width) : Width :=
  ⟨a.min + b.min, do return (← a.max) + (← b.max)⟩

/-- The width of one of two expressions. -/
def either (a b : Width) : Width :=
  ⟨Nat.min a.min b.min, do return Nat.max (← a.max) (← b.max)⟩

/-- The width of a repetition; what matches nothing does so however often it is repeated, and what
is never repeated matches nothing. -/
def times (low : Nat) (high : Option Nat) (w : Width) : Width :=
  ⟨w.min * low,
    if w.max = some 0 || high = some 0 then some 0 else do return (← w.max) * (← high)⟩

/-- The number of characters, where every match has as many and they can be counted. -/
def fixed? (w : Width) : Option Nat :=
  if w.max = some w.min && w.min ≤ maxRounds then some w.min else none

end Width

/-- The width of an expression, given those of the groups it may refer to. -/
def Regex.width (groups : List (Nat × Width)) : Regex → Width
  | .char .. | .any .. | .set .. => .one
  | .seq a b => (a.width groups).append (b.width groups)
  | .alt a b => (a.width groups).either (b.width groups)
  | .conditional _ yes no => (yes.width groups).either (no.width groups)
  | .times _ low high r => (r.width groups).times low high
  | .group _ r | .atomic r => r.width groups
  | .backref _ number => ((groups.find? (·.1 == number)).map (·.2)).getD .zero
  | _ => .zero

/-! ## What has been met -/

/-- What has been met in the part of an expression that was read. -/
structure Seen where
  /-- The number of groups. -/
  count : Nat := 0
  names : List (String × Nat) := []
  /-- The groups that have been closed, with their widths. -/
  closed : List (Nat × Width) := []
  /-- Inside a look-behind, the number of groups before it; later ones cannot be referred to. -/
  behind : Option Nat := none
  /-- Groups that a condition asks for; they may come later. -/
  wanted : List Nat := []
  repeats : Bool := false
  /-- Some look-behind has no fixed width. -/
  unfixed : Bool := false

namespace Seen

/-- Whether a group is closed. -/
def isClosed (s : Seen) (number : Nat) : Bool := s.closed.any (·.1 == number)

/-- Whether a group lies where it can be referred to. -/
def isInReach (s : Seen) (number : Nat) : Bool :=
  match s.behind with
  | some before => s.isClosed number && number ≤ before
  | none => true

/-- The number of a group. -/
def number? (s : Seen) (name : List Char) : Option Nat :=
  (s.names.find? (·.1 == String.ofList name)).map (·.2)

/-- Opens a group, perhaps with a name. -/
def opening (s : Seen) (name : Option String) : Seen :=
  { s with count := s.count + 1, names := (name.map (·, s.count + 1)).toList ++ s.names }

/-- Closes a group. -/
def closing (s : Seen) (number : Nat) (r : Regex) : Seen :=
  { s with closed := (number, r.width s.closed) :: s.closed }

end Seen

/-- A reference to a group. -/
def reference (o : Options) (s : Seen) (number : Nat) : Read Regex :=
  if s.isClosed number && s.isInReach number then .ok (.backref o.fold number)
  else .error .malformed

/-- Reads what follows a backslash outside a set. -/
def readEscape (o : Options) (s : Seen) (c : Char) (rest : List Char) :
    Read (Regex × List Char) :=
  match c with
  | 'A' => .ok (.textStart, rest)
  | 'Z' => .ok (.textEnd, rest)
  | 'b' => .ok (.wordEdge o.ascii false, rest)
  | 'B' => .ok (.wordEdge o.ascii true, rest)
  | _ =>
    match classItem? o.ascii c, controlChar? c with
    | some item, _ => .ok (.set o.fold false [item], rest)
    | none, some x => .ok (o.literal x, rest)
    | none, none => do
      if c == '0' || startsOctal (c :: rest) then
        let (x, tail) ← octalChar 3 (c :: rest)
        return (o.literal x, tail)
      else if c.isDigit then
        let digits := c :: (rest.take 1).takeWhile Char.isDigit
        let r ← reference o s (Number.ofDigits 10 digits)
        return (r, rest.drop (digits.length - 1))
      else if c.isAlpha then
        let (x, tail) ← codedChar c rest
        return (o.literal x, tail)
      else return (o.literal c, rest)

/-! ## Items -/

/-- The item a character stands for when nothing precedes it. -/
def bareItem (o : Options) : Char → Regex
  | '.' => .any o.dotAll
  | '^' => .start o.lines
  | '$' => .finish o.lines
  | c => o.literal c

/-- Joins items that follow one another. -/
def sequence : List Regex → Regex
  | [] => .empty
  | [r] => r
  | r :: rest => .seq r (sequence rest)

/-- An item of an alternative. -/
inductive Item where
  | single (r : Regex)
  /-- Items between parentheses that do nothing but hold them together. -/
  | bundle (rs : List Regex)

namespace Item

/-- The expressions an item adds to its alternative. -/
def parts : Item → List Regex
  | single r => [r]
  | bundle rs => rs

/-- Whether an item can be repeated: a bare position cannot, nor what is a repetition already. -/
def isRepeatable : Item → Bool
  | single .textStart | single .textEnd | single (.start _) | single (.finish _) => false
  | single (.wordEdge ..) | single (.times ..) => false
  | _ => true

end Item

/-! ## Alternatives -/

/-- Whether an expression has no parts. -/
def isLeaf : Regex → Bool
  | .char .. | .any _ | .set .. | .textStart | .textEnd | .start _ | .finish _ => true
  | .wordEdge .. | .backref .. => true
  | _ => false

/-- The members of a set that an alternative is. -/
def members? : List Regex → Option (List SetItem)
  | [.char _ false c] => some [.char c]
  | [.set _ false items] => some items
  | _ => none

/-- Joins alternatives, none of which is tried before those that precede it failed. -/
def alternation : List (List Regex) → Regex
  | [] => .empty
  | [rs] => sequence rs
  | rs :: rest => .alt (sequence rs) (alternation rest)

/-- Joins alternatives; where each is a single character they make up a set. -/
def branch (fold : Fold) (alts : List (List Regex)) : Regex :=
  match alts.mapM members? with
  | some items => .set fold false items.flatten.eraseDups
  | none => alternation alts

/-- What an alternative and others come to. Leaves that all of them start with stand before the
choice. -/
def alternatives (fold : Fold) (first : List Regex) (others : List (List Regex)) : List Regex :=
  match first with
  | [] => if others.isEmpty then [] else [branch fold ([] :: others)]
  | r :: rest =>
    if others.isEmpty then r :: rest
    else if isLeaf r && others.all (·.head? == some r) then
      r :: alternatives fold rest (others.map List.tail)
    else [branch fold ((r :: rest) :: others)]

/-- The number of the group a condition asks for: by name, or as an integer. -/
def readCondition (s : Seen) (name : List Char) : Read Nat :=
  if Text.isName name then orMalformed (s.number? name)
  else match Number.readInteger (String.ofList name) with
    | .ok (.ofNat (n + 1)) => .ok (n + 1)
    | _ => .error .malformed

/-! ## Descent -/

mutual

/-- Reads alternatives up to a closing parenthesis or the end: the first, and the others. -/
def readAlts : Nat → Options → Seen → List Char →
    Read ((List Regex × List (List Regex)) × Seen × List Char)
  | 0, _, _, _ => .error .malformed
  | fuel + 1, o, s, cs => do
    let (first, s, rest) ← readSeq fuel o s [] cs
    match rest with
    | '|' :: more =>
      let ((second, others), s, tail) ← readAlts fuel o s more
      return ((first, second :: others), s, tail)
    | _ => return ((first, []), s, rest)

/-- Reads the items of an alternative; `items` holds those read so far, last first. -/
def readSeq : Nat → Options → Seen → List Item → List Char →
    Read (List Regex × Seen × List Char)
  | 0, _, _, _, _ => .error .malformed
  | fuel + 1, o, s, items, cs =>
    let finished : Read (List Regex × Seen × List Char) :=
      .ok (items.reverse.flatMap Item.parts, s, cs)
    match cs with
    | [] => finished
    | '|' :: _ => finished
    | ')' :: _ => finished
    | '\\' :: [] => .error .malformed
    | '\\' :: c :: rest => do
      let (r, tail) ← readEscape o s c rest
      readSeq fuel o s (.single r :: items) tail
    | '[' :: rest => do
      let (r, tail) ← readSet o rest
      readSeq fuel o s (.single r :: items) tail
    | '(' :: rest => do
      let (item, s, tail) ← readGroup fuel o s rest
      readSeq fuel o s (item.toList ++ items) tail
    | c :: rest => do
      if o.verbose && isLayout c then readSeq fuel o s items rest
      else if o.verbose && c == '#' then readSeq fuel o s items ((skipPast? '\n' rest).getD [])
      else match ← readBounds? cs with
        | none => readSeq fuel o s (.single (bareItem o c) :: items) rest
        | some (low, high, tail) =>
          match items with
          | [] => .error .malformed
          | item :: others =>
            if !item.isRepeatable then .error .malformed
            else
              let (mode, tail) := readMode tail
              let repeated := Regex.times mode low high (sequence item.parts)
              readSeq fuel o { s with repeats := true } (.single repeated :: others) tail

/-- Reads a group after its opening parenthesis. A comment gives no item. -/
def readGroup : Nat → Options → Seen → List Char → Read (Option Item × Seen × List Char)
  | 0, _, _, _ => .error .malformed
  | fuel + 1, o, s, cs =>
    let inner (o : Options) (s : Seen) (body : List Char) :
        Read (List Regex × Seen × List Char) := do
      match ← readAlts fuel o s body with
      | ((first, others), s, ')' :: tail) => return (alternatives o.fold first others, s, tail)
      | _ => .error .malformed
    let wrapped (o : Options) (wrap : Regex → Regex) (body : List Char) :
        Read (Option Item × Seen × List Char) := do
      let (rs, s, tail) ← inner o s body
      return (some (.single (wrap (sequence rs))), s, tail)
    let numbered (name : Option String) (body : List Char) :
        Read (Option Item × Seen × List Char) := do
      let number := s.count + 1
      let (rs, s, tail) ← inner o (s.opening name) body
      let r := sequence rs
      return (some (.single (.group (some number) r)), s.closing number r, tail)
    let behind (negated : Bool) (body : List Char) :
        Read (Option Item × Seen × List Char) := do
      let outer := s.behind
      let (rs, s, tail) ← inner o { s with behind := outer <|> some s.count } body
      let r := sequence rs
      match (r.width s.closed).fixed? with
      | some width =>
        return (some (.single (.behind negated width r)), { s with behind := outer }, tail)
      | none => return (some (.single .empty), { s with behind := outer, unfixed := true }, tail)
    match cs with
    | '?' :: ':' :: body => do
      let (rs, s, tail) ← inner o s body
      return (some (.bundle rs), s, tail)
    | '?' :: '>' :: body => wrapped o .atomic body
    | '?' :: '=' :: body => wrapped o (.ahead false) body
    | '?' :: '!' :: body => wrapped o (.ahead true) body
    | '?' :: '<' :: '=' :: body => behind false body
    | '?' :: '<' :: '!' :: body => behind true body
    | '?' :: '#' :: rest => do return (none, s, ← orMalformed (skipPast? ')' rest))
    | '?' :: 'P' :: '<' :: rest => do
      let (name, body) ← orMalformed (cutAt? '>' rest)
      if Text.isName name && (s.number? name).isNone then numbered (some (String.ofList name)) body
      else .error .malformed
    | '?' :: 'P' :: '=' :: rest => do
      let (name, tail) ← orMalformed (cutAt? ')' rest)
      let r ← reference o s (← orMalformed (s.number? name))
      return (some (.single r), s, tail)
    | '?' :: '(' :: rest => do
      let (name, body) ← orMalformed (cutAt? ')' rest)
      let number ← readCondition s name
      if !s.isInReach number then .error .malformed
      else
        let s := { s with wanted := number :: s.wanted }
        let chosen (yes no : List Regex) : Option Item :=
          some (.single (.conditional number (sequence yes) (sequence no)))
        match ← readSeq fuel o s [] body with
        | (yes, s, ')' :: tail) => return (chosen yes [], s, tail)
        | (yes, s, '|' :: more) =>
          match ← readSeq fuel o s [] more with
          | (no, s, ')' :: tail) => return (chosen yes no, s, tail)
          | _ => .error .malformed
        | _ => .error .malformed
    | '?' :: rest => do
      let (o, body) ← readChange o rest
      wrapped o (.group none) body
    | _ => numbered none cs

end

/-- Reads options for the whole expression, between comments and layout; `letters` are those read
so far. -/
def readHeader : Nat → List Char → List Char → List Char × List Char
  | 0, letters, cs => (letters, cs)
  | fuel + 1, letters, cs =>
    match cs with
    | '(' :: '?' :: '#' :: rest =>
      match skipPast? ')' rest with
      | some tail => readHeader fuel letters tail
      | none => (letters, cs)
    | '(' :: '?' :: rest =>
      match readLetters rest with
      | .ok (l :: more, ')', tail) =>
        if (l :: more).contains 'a' && (l :: more).contains 'u' then (letters, cs)
        else readHeader fuel (letters ++ l :: more) tail
      | _ => (letters, cs)
    | c :: rest =>
      if letters.contains 'x' && isLayout c then readHeader fuel letters rest
      else if letters.contains 'x' && c == '#' then
        readHeader fuel letters ((skipPast? '\n' rest).getD [])
      else (letters, cs)
    | [] => (letters, [])

/-- Reads a regular expression that takes up the whole text. -/
def parse (ignoreCase : Bool) (cs : List Char) : Read Expression := do
  let (letters, body) := readHeader (cs.length + 1) [] cs
  let o := { ignoreCase : Options }.change letters []
  let ((first, others), s, rest) ← readAlts (3 * body.length + 3) o {} body
  if letters.contains 'a' && letters.contains 'u' then .error .mixedCharsets
  else if rest.isEmpty && s.wanted.all (· ≤ s.count) && !s.unfixed &&
      !(s.repeats && letters.contains 't') then
    let regex := sequence (alternatives o.fold first others)
    let lead := if (regex.width s.closed).min = 0 then none else regex.lead? o.ascii
    return { regex, lead }
  else .error .malformed

end Vimscript.Pattern
