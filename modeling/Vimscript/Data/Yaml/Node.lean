import Vimscript.Data.Yaml.Scalar
import Vimscript.Data.Yaml.Token

/-!
# Nodes

Tokens in order make up a tree of scalars, sequences and mappings, and the tree stands for data. A
mapping or sequence is either a block, whose tokens come from indentation, or a flow collection
between brackets. Anchors are skipped; nothing can be referred to.
-/

namespace Vimscript.Yaml

/-- A node of a document. -/
inductive Node where
  | scalar (text : String) (isPlain : Bool)
  | sequence (items : List Node)
  | mapping (entries : List (Node × Node))
  /-- A node with a tag; none is supported. -/
  | tagged

/-- A node that is left out. -/
def Node.missing : Node := .scalar "" true

/-! ## From tokens to nodes -/

/-- What a reading gives, with the tokens after it, or the first flaw. -/
abbrev Reading := Except DocumentFlaw

/-- The next token, which must be one. -/
def look : List Token → Reading Token
  | [] => .ok .streamEnd
  | .bad :: _ => .error .tokens
  | t :: _ => .ok t

/-- Skips the anchor and the tag before a node: whether there was any, and a tag among them. -/
def properties (ts : List Token) : Reading ((Bool × Bool) × List Token) := do
  match ← look ts with
  | .anchor => do
    match ← look ts.tail with
    | .tag => return ((true, true), ts.tail.tail)
    | _ => return ((true, false), ts.tail)
  | .tag => do
    match ← look ts.tail with
    | .anchor => return ((true, true), ts.tail.tail)
    | _ => return ((true, true), ts.tail)
  | _ => return ((false, false), ts)

mutual

/-- Reads a node. Only a block may hold blocks, and only the value of a key a sequence that is not
indented. -/
def readNode : Nat → (isBlock isValue : Bool) → List Token → Reading (Node × List Token)
  | 0, _, _, _ => .error .order
  | fuel + 1, isBlock, isValue, ts => do
    if (← look ts) == .alias then throw .references
    let ((hasProperties, isTagged), ts) ← properties ts
    let content : Reading (Node × List Token) := do
      match ← look ts with
      | .scalar text isPlain => return (.scalar text isPlain, ts.tail)
      | .flowSequenceStart => readFlowItems fuel true ts.tail
      | .flowMappingStart => readFlowEntries fuel true ts.tail
      | .blockEntry =>
        if isValue then do
          let (items, ts) ← readItems fuel true ts
          return (.sequence items, ts)
        else if hasProperties then return (.missing, ts)
        else .error .order
      | .blockSequenceStart =>
        if isBlock then do
          let (items, ts) ← readItems fuel false ts.tail
          return (.sequence items, ts)
        else if hasProperties then return (.missing, ts)
        else .error .order
      | .blockMappingStart =>
        if isBlock then do
          let (entries, ts) ← readEntries fuel ts.tail
          return (.mapping entries, ts)
        else if hasProperties then return (.missing, ts)
        else .error .order
      | _ => if hasProperties then return (.missing, ts) else .error .order
    let (node, ts) ← content
    return (if isTagged then .tagged else node, ts)

/-- Reads the items of a block sequence; one that is not indented ends without a token. -/
def readItems : Nat → (isBare : Bool) → List Token → Reading (List Node × List Token)
  | 0, _, _ => .error .order
  | fuel + 1, isBare, ts => do
    match ← look ts with
    | .blockEntry =>
      let next ← look ts.tail
      let isMissing := next == .blockEntry || next == .blockEnd ||
        (isBare && (next == .key || next == .value))
      let (node, ts) ← if isMissing then pure (.missing, ts.tail)
        else readNode fuel true false ts.tail
      let (nodes, ts) ← readItems fuel isBare ts
      return (node :: nodes, ts)
    | t =>
      if isBare then return ([], ts)
      else if t == .blockEnd then return ([], ts.tail)
      else .error .order

/-- Reads the entries of a block mapping. -/
def readEntries : Nat → List Token → Reading (List (Node × Node) × List Token)
  | 0, _ => .error .order
  | fuel + 1, ts => do
    let isEnd (t : Token) : Bool := t == .key || t == .value || t == .blockEnd
    let part (ts : List Token) : Reading (Node × List Token) := do
      if isEnd (← look ts) then return (.missing, ts) else readNode fuel true true ts
    match ← look ts with
    | .blockEnd => return ([], ts.tail)
    | .key =>
      let (key, ts) ← part ts.tail
      let (value, ts) ← if (← look ts) == .value then part ts.tail else pure (.missing, ts)
      let (entries, ts) ← readEntries fuel ts
      return ((key, value) :: entries, ts)
    | .value =>
      let (value, ts) ← part ts.tail
      let (entries, ts) ← readEntries fuel ts
      return ((.missing, value) :: entries, ts)
    | _ => .error .order

/-- Reads the items of a flow sequence; an item may be a mapping of one key. -/
def readFlowItems : Nat → (isFirst : Bool) → List Token → Reading (Node × List Token)
  | 0, _, _ => .error .order
  | fuel + 1, isFirst, ts => do
    let (nodes, ts) ← readFlowList fuel isFirst ts
    return (.sequence nodes, ts)

/-- Reads what is left of a flow sequence. -/
def readFlowList : Nat → (isFirst : Bool) → List Token → Reading (List Node × List Token)
  | 0, _, _ => .error .order
  | fuel + 1, isFirst, ts => do
    let start ← look ts
    if start == .flowSequenceEnd then return ([], ts.tail)
    let ts ← if isFirst then pure ts
      else if start == .flowEntry then pure ts.tail else .error .order
    match ← look ts with
    | .flowSequenceEnd => return ([], ts.tail)
    | .key =>
      let (entry, ts) ← readFlowPair fuel .flowSequenceEnd ts.tail
      let (nodes, ts) ← readFlowList fuel false ts
      return (.mapping [entry] :: nodes, ts)
    | _ =>
      let (node, ts) ← readNode fuel false false ts
      let (nodes, ts) ← readFlowList fuel false ts
      return (node :: nodes, ts)

/-- Reads a key and its value in a flow collection that `close` ends. -/
def readFlowPair : Nat → (close : Token) → List Token → Reading ((Node × Node) × List Token)
  | 0, _, _ => .error .order
  | fuel + 1, close, ts => do
    let next ← look ts
    let (key, ts) ← if next == .value || next == .flowEntry || next == close then
        pure (.missing, ts)
      else readNode fuel false false ts
    if (← look ts) == .value then
      let next ← look ts.tail
      let (value, ts) ← if next == .flowEntry || next == close then pure (.missing, ts.tail)
        else readNode fuel false false ts.tail
      return ((key, value), ts)
    else return ((key, .missing), ts)

/-- Reads the entries of a flow mapping; a node alone is a key without a value. -/
def readFlowEntries : Nat → (isFirst : Bool) → List Token → Reading (Node × List Token)
  | 0, _, _ => .error .order
  | fuel + 1, isFirst, ts => do
    let (entries, ts) ← readFlowPairs fuel isFirst ts
    return (.mapping entries, ts)

/-- Reads what is left of a flow mapping. -/
def readFlowPairs : Nat → (isFirst : Bool) → List Token → Reading (List (Node × Node) × List Token)
  | 0, _, _ => .error .order
  | fuel + 1, isFirst, ts => do
    let start ← look ts
    if start == .flowMappingEnd then return ([], ts.tail)
    let ts ← if isFirst then pure ts
      else if start == .flowEntry then pure ts.tail else .error .order
    match ← look ts with
    | .flowMappingEnd => return ([], ts.tail)
    | .key =>
      let (entry, ts) ← readFlowPair fuel .flowMappingEnd ts.tail
      let (entries, ts) ← readFlowPairs fuel false ts
      return (entry :: entries, ts)
    | _ =>
      let (key, ts) ← readNode fuel false false ts
      let (entries, ts) ← readFlowPairs fuel false ts
      return ((key, .missing) :: entries, ts)

end

/-- Reads the start of a document after directives. -/
def readStart (ts : List Token) : Reading (List Token) := do
  let ts := ts.dropWhile (· == .directive)
  if (← look ts) == .documentStart then return ts.tail else .error .order

/-- Whether a token stands between documents. -/
def Token.isOutside : Token → Bool
  | .directive | .documentStart | .documentEnd | .streamEnd => true
  | _ => false

/-- Reads the only document of a stream; without one there is nothing to read. -/
def Node.ofTokens (tokens : List Token) : Reading Node := do
  let fuel := 3 * tokens.length + 3
  let first ← look tokens
  let (root, ts) ←
    if first == .streamEnd then return .missing
    else if first == .directive || first == .documentStart then do
      let ts ← readStart tokens
      if (← look ts).isOutside then pure (.missing, ts) else readNode fuel true false ts
    else readNode fuel true false tokens
  let ts := ts.dropWhile (· == .documentEnd)
  if (← look ts) == .streamEnd then return root
  let _ ← readStart ts
  .error .references

/-! ## From nodes to data -/

mutual

/-- The data a node stands for. -/
def Node.toData : Node → Except Fault Data
  | .scalar text true => resolve text
  | .scalar text false => .ok (.text text)
  | .sequence items => do return .list (← Node.toItems items)
  | .mapping entries => do return Data.ofEntries (← Node.toEntries entries)
  | .tagged => .error (.unreadable .values)

/-- The data of some nodes. -/
def Node.toItems : List Node → Except Fault (List Data)
  | [] => return []
  | n :: rest => do
    let d ← n.toData
    return d :: (← Node.toItems rest)

/-- The entries of a mapping, whose keys must be scalars. -/
def Node.toEntries : List (Node × Node) → Except Fault (List (Key × Data))
  | [] => return []
  | (k, v) :: rest => do
    let key ← if let .scalar "=" true := k then pure (Data.text "=") else k.toData
    match key.key? with
    | none => .error (.unreadable .values)
    | some key =>
      let value ← v.toData
      return (key, value) :: (← Node.toEntries rest)

end

/-- Reads a document. -/
def parse (s : String) : Except Fault Data := do
  let cs := s.toList
  if !cs.all isAllowed then throw (.unreadable .characters)
  match Node.ofTokens (Token.ofText cs) with
  | .ok node => node.toData
  | .error flaw => .error (.unreadable flaw)

end Vimscript.Yaml
