import Vimscript.Number.Literal

/-!
# Tokens

The pieces a document is written in, with the starts and ends that indentation stands for made
explicit. That a node is the key of a mapping shows only at the colon after it, so the token that
announces the key is put in before it afterwards; until then the node is a possible key. A text
that cannot be cut into tokens gives those that are settled before the flaw, and then `bad`.
-/

namespace Vimscript.Yaml

/-- A token. -/
inductive Token where
  | scalar (text : String) (isPlain : Bool)
  | blockSequenceStart
  | blockMappingStart
  | blockEnd
  | flowSequenceStart
  | flowSequenceEnd
  | flowMappingStart
  | flowMappingEnd
  | blockEntry
  | flowEntry
  | key
  | value
  | alias
  | anchor
  | tag
  | directive
  | documentStart
  | documentEnd
  | streamEnd
  /-- From here on the text cannot be cut into tokens. -/
  | bad
deriving Repr, DecidableEq

/-! ## Characters -/

/-- A character that ends a line. -/
def isBreak (c : Char) : Bool :=
  c == '\n' || c == '\r' || c.toNat == 0x85 || c.toNat == 0x2028 || c.toNat == 0x2029

/-- A blank, a tab or the end of a line. -/
def isGap (c : Char) : Bool := c == ' ' || c == '\t' || isBreak c

/-- Whether a text has ended or goes on with a gap. -/
def startsGap : List Char → Bool
  | [] => true
  | c :: _ => isGap c

/-- The mark that a text may start with. -/
def orderMark : Char := Char.ofNat 0xFEFF

/-- A character that may occur in a document. -/
def isAllowed (c : Char) : Bool :=
  let n := c.toNat
  n == 0x09 || n == 0x0A || n == 0x0D || (0x20 ≤ n && n ≤ 0x7E) || n == 0x85 ||
    (0xA0 ≤ n && n ≤ 0xFFFD) || 0x10000 ≤ n

/-- A character of the name of an anchor, an alias or a directive. -/
def isNameChar (c : Char) : Bool := c.isAlphanum || c == '-' || c == '_'

/-- A character of a tag. -/
def isTagChar (c : Char) : Bool := c.isAlphanum || "-;/?:@&=+$,_.!~*'()[]%".toList.contains c

/-- The characters that structure a flow collection. -/
def isFlowMark (c : Char) : Bool := ",[]\x7b\x7d".toList.contains c

/-- Whether a line of three marks between documents starts a text. -/
def startsDocumentMark (mark : Char) : List Char → Bool
  | a :: b :: c :: rest => a == mark && b == mark && c == mark && startsGap rest
  | _ => false

/-- Whether one document ends where a text starts. -/
def startsSeparator (cs : List Char) : Bool :=
  startsDocumentMark '-' cs || startsDocumentMark '.' cs

/-! ## The place in a text -/

/-- A node that may turn out to be a key. -/
structure PossibleKey where
  /-- The number of the token it starts with. -/
  token : Nat
  /-- Nothing but a key can stand where it stands. -/
  isRequired : Bool
  index : Nat
  line : Nat
  column : Nat

/-- How far a text has been cut into tokens. -/
structure Scan where
  rest : List Char
  /-- The number of characters at the start, which bounds every loop. -/
  size : Nat
  index : Nat := 0
  line : Nat := 0
  column : Nat := 0
  /-- How many flow collections are open. -/
  level : Nat := 0
  /-- The indentation of the innermost block collection, and of those around it. -/
  indent : Int := -1
  indents : List Int := []
  /-- Whether a key may start here. -/
  allowsKey : Bool := true
  /-- The possible key of each open flow collection, and of the block around them. -/
  keys : List (Nat × PossibleKey) := []
  tokens : Array Token := #[]

namespace Scan

/-- The start of a text. -/
def ofText (cs : List Char) : Scan := { rest := cs, size := cs.length + 1 }

/-- Moves over one character. -/
def advance (s : Scan) : Scan :=
  match s.rest with
  | [] => s
  | c :: rest =>
    if isBreak c && !(c == '\r' && rest.head? == some '\n') then
      { s with rest, index := s.index + 1, line := s.line + 1, column := 0 }
    else if c == orderMark then { s with rest, index := s.index + 1 }
    else { s with rest, index := s.index + 1, column := s.column + 1 }

/-- Moves over some characters. -/
def forward : Nat → Scan → Scan
  | 0, s => s
  | n + 1, s => forward n s.advance

/-- Moves over the characters that satisfy a test. -/
def forwardWhile (p : Char → Bool) (s : Scan) : Scan := s.forward (s.rest.takeWhile p).length

/-- Moves over the end of a line, and gives what stands for it. -/
def takeBreak (s : Scan) : Char × Scan :=
  match s.rest with
  | '\r' :: '\n' :: _ => ('\n', s.forward 2)
  | c :: _ => (if c.toNat == 0x2028 || c.toNat == 0x2029 then c else '\n', s.advance)
  | [] => ('\n', s)

/-- Adds a token. -/
def push (s : Scan) (t : Token) : Scan := { s with tokens := s.tokens.push t }

/-- Whether what is next lies in a flow collection. -/
def inFlow (s : Scan) : Bool := 0 < s.level

/-- Moves over blanks, comments and the ends of lines. -/
def toNextToken : Nat → Scan → Scan
  | 0, s => s
  | fuel + 1, s =>
    match s.rest with
    | ' ' :: _ => toNextToken fuel s.advance
    | '#' :: _ => toNextToken fuel (s.forwardWhile (!isBreak ·))
    | c :: _ =>
      if isBreak c then
        let (_, s) := s.takeBreak
        toNextToken fuel { s with allowsKey := s.allowsKey || !s.inFlow }
      else s
    | [] => s

/-! ## Possible keys -/

/-- Whether a key can no longer be completed: its colon must follow on the same line, and soon. -/
def isStale (s : Scan) (k : PossibleKey) : Bool :=
  k.line != s.line || 1024 < s.index - k.index

/-- Forgets the keys that can no longer be completed, none of which may be required. -/
def dropStale (s : Scan) : Option Scan :=
  if s.keys.any fun e => s.isStale e.2 && e.2.isRequired then none
  else some { s with keys := s.keys.filter fun e => !s.isStale e.2 }

/-- Forgets the possible key of the innermost collection, which must not be required. -/
def removeKey (s : Scan) : Option Scan :=
  if s.keys.any fun e => e.1 == s.level && e.2.isRequired then none
  else some { s with keys := s.keys.filter fun e => e.1 != s.level }

/-- Takes note that a key may start here. -/
def saveKey (s : Scan) : Option Scan := do
  if !s.allowsKey then return s
  let s ← s.removeKey
  let k : PossibleKey :=
    { token := s.tokens.size, isRequired := !s.inFlow && s.indent == s.column,
      index := s.index, line := s.line, column := s.column }
  return { s with keys := (s.level, k) :: s.keys }

/-- The number of tokens before which no other can be put in any more. -/
def settled (s : Scan) : Nat :=
  s.keys.foldl (fun n e => min n e.2.token) s.tokens.size

/-! ## Indentation -/

/-- Ends the block collections that are indented by more than `column`; `indents` are the
indentations around the innermost one. -/
def unwound (column : Int) : (indents : List Int) → (indent : Int) → Array Token →
    Int × List Int × Array Token
  | outer :: indents, indent, tokens =>
    if column < indent then unwound column indents outer (tokens.push .blockEnd)
    else (indent, outer :: indents, tokens)
  | [], indent, tokens => (indent, [], tokens)

/-- Ends block collections up to a column. -/
def unwind (s : Scan) (column : Int) : Scan :=
  if s.inFlow then s
  else
    let (indent, indents, tokens) := unwound column s.indents s.indent s.tokens
    { s with indent, indents, tokens }

/-- Starts a block collection at a column, with a token put in at a place, unless one is open
there. -/
def indentTo (s : Scan) (column : Nat) (start : Token) (place : Nat) : Scan :=
  if s.inFlow || column ≤ s.indent then s
  else
    { s with indent := column, indents := s.indent :: s.indents
             tokens := s.tokens.insertIdxIfInBounds place start }

/-! ## Scalars -/

/-- The text of a scalar so far, last character first, and the place behind it. -/
abbrev Text := List Char × Scan

/-- Whether a colon before this text ends a plain scalar. -/
def endsPlain (inFlow : Bool) : List Char → Bool
  | [] => true
  | c :: _ => isGap c || (inFlow && isFlowMark c)

/-- The run of a plain scalar up to the next gap. -/
def plainRun (inFlow : Bool) : List Char → List Char
  | [] => []
  | c :: rest =>
    if isGap c || (c == ':' && endsPlain inFlow rest) || (inFlow && (isFlowMark c || c == '?'))
    then [] else c :: plainRun inFlow rest

/-- Moves over blanks and the ends of lines up to something else or the end of the document, which
ends the scalar. What the ends of lines stand for comes last first. -/
def moreBreaks : Nat → List Char → Scan → Option (List Char) × Scan
  | 0, breaks, s => (some breaks, s)
  | fuel + 1, breaks, s =>
    match s.rest with
    | ' ' :: _ => moreBreaks fuel breaks s.advance
    | c :: _ =>
      if isBreak c then
        let (b, s) := s.takeBreak
        if startsSeparator s.rest then (none, s) else moreBreaks fuel (b :: breaks) s
      else (some breaks, s)
    | [] => (some breaks, s)

/-- What the ends of lines inside a scalar stand for, last first: a single one for a blank. -/
def folded (first : Char) (breaks : List Char) : List Char :=
  if first != '\n' then breaks ++ [first] else if breaks.isEmpty then [' '] else breaks

/-- Moves over the gap inside a plain scalar and gives what stands for it, last first. -/
def plainGap (s : Scan) : Text :=
  let blanks := s.rest.takeWhile (· == ' ')
  let s := s.forward blanks.length
  match s.rest with
  | c :: _ =>
    if isBreak c then
      let (first, s) := s.takeBreak
      let s := { s with allowsKey := true }
      if startsSeparator s.rest then ([], s)
      else match moreBreaks s.size [] s with
        | (none, s) => ([], s)
        | (some breaks, s) => (folded first breaks, s)
    else (blanks, s)
  | [] => (blanks, s)

/-- Reads a plain scalar, which ends where the indentation falls below `indent`; `gap` is what
stands between it and its next run. -/
def plain (indent : Int) : Nat → (text gap : List Char) → Scan → Text
  | 0, text, _, s => (text, s)
  | fuel + 1, text, gap, s =>
    match if s.rest.head? == some '#' then [] else plainRun s.inFlow s.rest with
    | [] => (text, s)
    | run =>
      let text := run.reverse ++ gap ++ text
      let s := s.forward run.length
      let (gap, s) := plainGap { s with allowsKey := false }
      if gap.isEmpty || s.rest.head? == some '#' || (!s.inFlow && (s.column : Int) < indent) then
        (text, s)
      else plain indent fuel text gap s

/-- The character an escape of one letter stands for. -/
def escaped? : Char → Option Char
  | '0' => some (Char.ofNat 0x00)
  | 'a' => some (Char.ofNat 0x07)
  | 'b' => some (Char.ofNat 0x08)
  | 't' => some '\t'
  | '\t' => some '\t'
  | 'n' => some '\n'
  | 'v' => some (Char.ofNat 0x0B)
  | 'f' => some (Char.ofNat 0x0C)
  | 'r' => some '\r'
  | 'e' => some (Char.ofNat 0x1B)
  | ' ' => some ' '
  | '"' => some '"'
  | '\\' => some '\\'
  | '/' => some '/'
  | 'N' => some (Char.ofNat 0x85)
  | '_' => some (Char.ofNat 0xA0)
  | 'L' => some (Char.ofNat 0x2028)
  | 'P' => some (Char.ofNat 0x2029)
  | _ => none

/-- How many hexadecimal digits follow a letter in an escape. -/
def codeLength? : Char → Option Nat
  | 'x' => some 2
  | 'u' => some 4
  | 'U' => some 8
  | _ => none

/-- Moves over the ends of lines in a quoted scalar, with the blanks between them. -/
def quotedBreaks : Nat → List Char → Scan → Option Text
  | 0, _, _ => none
  | fuel + 1, breaks, s =>
    if startsSeparator s.rest then none
    else
      let s := s.forwardWhile fun c => c == ' ' || c == '\t'
      match s.rest with
      | c :: _ =>
        if isBreak c then
          let (b, s) := s.takeBreak
          quotedBreaks fuel (b :: breaks) s
        else some (breaks, s)
      | [] => some (breaks, s)

/-- Reads an escape after its backslash. -/
def escape (s : Scan) : Option Text :=
  match s.rest with
  | [] => none
  | c :: rest =>
    match escaped? c, codeLength? c with
    | some x, _ => some ([x], s.advance)
    | none, some n =>
      let digits := rest.take n
      let code := Number.ofDigits 16 digits
      if digits.length = n && digits.all Number.isHex && code < 0x110000 then
        some ([Char.ofNat code], s.forward (n + 1))
      else none
    | none, none => if isBreak c then quotedBreaks s.size [] s.takeBreak.2 else none

/-- Reads a quoted scalar up to its closing quote. -/
def quoted (quote : Char) : Nat → (text : List Char) → Scan → Option Text
  | 0, _, _ => none
  | fuel + 1, text, s =>
    match s.rest with
    | [] => none
    | c :: rest =>
      if c == quote then
        if quote == '\'' && rest.head? == some '\'' then
          quoted quote fuel ('\'' :: text) (s.forward 2)
        else some (text, s.advance)
      else if c == '\\' && quote == '"' then do
        let (chars, s) ← escape s.advance
        quoted quote fuel (chars ++ text) s
      else if isGap c then
        let blanks := s.rest.takeWhile fun c => c == ' ' || c == '\t'
        let s := s.forward blanks.length
        match s.rest with
        | [] => none
        | d :: _ =>
          if isBreak d then do
            let (first, s) := s.takeBreak
            let (breaks, s) ← quotedBreaks s.size [] s
            quoted quote fuel (folded first breaks ++ text) s
          else quoted quote fuel (blanks.reverse ++ text) s
      else quoted quote fuel (c :: text) s.advance

/-! ## Tokens -/

/-- Adds a scalar that was read. -/
def pushScalar (isPlain : Bool) : Text → Scan
  | (text, s) => s.push (.scalar (String.ofList text.reverse) isPlain)

/-- Moves over some characters and adds the token they are. -/
def take (s : Scan) (n : Nat) (t : Token) : Scan := (s.forward n).push t

/-- Ends the text. -/
def finish (s : Scan) : Option Scan := do
  let s ← (s.unwind (-1)).removeKey
  return { s with keys := [] }.push .streamEnd

/-- Starts or ends a document. -/
def documentMark (s : Scan) (t : Token) : Option Scan := do
  let s ← (s.unwind (-1)).removeKey
  return { s with allowsKey := false }.take 3 t

/-- Reads a directive, of which no more is kept than that it is there. -/
def directive (s : Scan) : Option Scan := do
  let s ← (s.unwind (-1)).removeKey
  let s := s.advance
  let name := s.rest.takeWhile isNameChar
  let s := s.forward name.length
  if name.isEmpty || !(s.rest.head?.all fun c => c == ' ' || isBreak c) then none
  else some ({ s.forwardWhile (!isBreak ·) with allowsKey := false }.push .directive)

/-- Starts a flow collection. -/
def openFlow (s : Scan) (t : Token) : Option Scan := do
  let s ← s.saveKey
  return { s with level := s.level + 1, allowsKey := true }.take 1 t

/-- Ends a flow collection. -/
def closeFlow (s : Scan) (t : Token) : Option Scan := do
  let s ← s.removeKey
  return { s with level := s.level - 1, allowsKey := false }.take 1 t

/-- Goes on to the next item of a flow collection. -/
def nextFlow (s : Scan) : Option Scan := do
  let s ← s.removeKey
  return { s with allowsKey := true }.take 1 .flowEntry

/-- Goes on to an item of a block sequence. -/
def blockItem (s : Scan) : Option Scan := do
  if !s.inFlow && !s.allowsKey then none
  let s ← (s.indentTo s.column .blockSequenceStart s.tokens.size).removeKey
  return { s with allowsKey := true }.take 1 .blockEntry

/-- Goes on to a key that is announced. -/
def announcedKey (s : Scan) : Option Scan := do
  if !s.inFlow && !s.allowsKey then none
  let s ← (s.indentTo s.column .blockMappingStart s.tokens.size).removeKey
  return { s with allowsKey := !s.inFlow }.take 1 .key

/-- Goes on to the value of a key. What was a possible key is one now. -/
def keyValue (s : Scan) : Option Scan := do
  match s.keys.find? fun e => e.1 == s.level with
  | some (_, k) =>
    let s := { s with tokens := s.tokens.insertIdxIfInBounds k.token .key
                      keys := s.keys.filter fun e => e.1 != s.level }
    return { s.indentTo k.column .blockMappingStart k.token with allowsKey := false }.take 1 .value
  | none =>
    if !s.inFlow && !s.allowsKey then none
    let s ← (s.indentTo s.column .blockMappingStart s.tokens.size).removeKey
    return { s with allowsKey := !s.inFlow }.take 1 .value

/-- Reads the name of an anchor or alias. -/
def reference (s : Scan) (t : Token) : Option Scan := do
  let s ← s.saveKey
  let s := s.advance
  let name := s.rest.takeWhile isNameChar
  let s := s.forward name.length
  let endsName (c : Char) : Bool := isGap c || "?:,]\x7d%@\x60".toList.contains c
  if name.isEmpty || !(s.rest.head?.all endsName) then none
  else some ({ s with allowsKey := false }.push t)

/-- Reads a tag. -/
def tag (s : Scan) : Option Scan := do
  let s ← s.saveKey
  let s := s.forwardWhile isTagChar
  if !(s.rest.head?.all fun c => c == ' ' || isBreak c) then none
  else some ({ s with allowsKey := false }.push .tag)

/-- Reads a quoted scalar. -/
def quotedScalar (s : Scan) (quote : Char) : Option Scan := do
  let s ← s.saveKey
  return pushScalar false (← quoted quote s.size [] { s.advance with allowsKey := false })

/-- Reads a plain scalar. -/
def plainScalar (s : Scan) : Option Scan := do
  let s ← s.saveKey
  return pushScalar true (plain (s.indent + 1) s.size [] [] { s with allowsKey := false })

/-- Whether a plain scalar can start with a character, given what follows it. -/
def startsPlain (inFlow : Bool) (c : Char) (rest : List Char) : Bool :=
  !(isGap c || "-?:,[]\x7b\x7d#&*!|>'\"%@\x60".toList.contains c) ||
    (!startsGap rest && (c == '-' || (!inFlow && (c == '?' || c == ':'))))

/-- Cuts off the next token. Block scalars are not supported. -/
def next (s : Scan) : Option Scan := do
  let s ← (toNextToken s.size s).dropStale
  let s := s.unwind s.column
  match s.rest with
  | [] => s.finish
  | c :: rest =>
    let apart := startsGap rest
    if c == '%' && s.column == 0 then s.directive
    else if s.column == 0 && startsDocumentMark '-' s.rest then s.documentMark .documentStart
    else if s.column == 0 && startsDocumentMark '.' s.rest then s.documentMark .documentEnd
    else match c with
      | '[' => s.openFlow .flowSequenceStart
      | '\x7b' => s.openFlow .flowMappingStart
      | ']' => s.closeFlow .flowSequenceEnd
      | '\x7d' => s.closeFlow .flowMappingEnd
      | ',' => s.nextFlow
      | '*' => s.reference .alias
      | '&' => s.reference .anchor
      | '!' => s.tag
      | '\'' => s.quotedScalar '\''
      | '"' => s.quotedScalar '"'
      | _ =>
        if c == '-' && apart then s.blockItem
        else if c == '?' && (s.inFlow || apart) then s.announcedKey
        else if c == ':' && (s.inFlow || apart) then s.keyValue
        else if startsPlain s.inFlow c rest then s.plainScalar
        else none

/-- Cuts off all tokens. -/
def all : Nat → Scan → Array Token
  | 0, s => s.tokens
  | fuel + 1, s =>
    match s.next with
    | none => (s.tokens.extract 0 s.settled).push .bad
    | some s => if s.tokens.back? == some .streamEnd then s.tokens else all fuel s

end Scan

/-- Cuts a text into tokens. -/
def Token.ofText (cs : List Char) : List Token :=
  let cs := match cs with
    | c :: rest => if c == orderMark then rest else cs
    | [] => []
  (Scan.all (cs.length + 2) (Scan.ofText cs)).toList

end Vimscript.Yaml
