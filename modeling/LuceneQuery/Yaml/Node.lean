import LuceneQuery.Yaml.Token

/-!
# The tree of a document

The tokens of a document build a tree of scalars, sequences and mappings.  A
value or a key that is missing is an empty plain scalar.  Within brackets a
single pair can be an item of a list, where it is a mapping of its own.

Reading is by recursive descent.  A reading function gives what it has read and the
tokens that follow.  It either takes a token or hands over to one that does,
which bounds the depth of its calls by the number of tokens.
-/

namespace LuceneQuery.Yaml

/-- A part of a document. -/
inductive Node where
  /-- A text, with or without quotes. -/
  | plain (text : List Char)
  /-- A scalar in quotes. -/
  | quoted (text : Text)
  /-- A list. -/
  | sequence (items : List Node)
  /-- A mapping. -/
  | mapping (pairs : List (Node × Node))

namespace Node

instance : Inhabited Node := ⟨.plain []⟩

/-- A scalar that is missing. -/
def missing : Node := .plain []

/-- The fault of tokens that cannot go on like this. -/
def unexpected : List Token → Fault
  | .broken f :: _ => f
  | _ => .malformed .unexpected

/-- Whether one of some tokens comes next. -/
def nextIn (ts : List Token) : List Token → Bool
  | [] => false
  | t :: _ => ts.contains t

mutual

/-- Reads a scalar, list or mapping.  Indented ones are read in a block only, and
items at the indentation of their key only as its value. -/
def read (inBlock atKey : Bool) : Nat → List Token → Except Fault (Node × List Token)
  | 0, ts => .error (unexpected ts)
  | fuel + 1, .blockEntry :: ts =>
    if atKey then do
      let (items, ts) ← readLooseItems fuel (.blockEntry :: ts)
      .ok (.sequence items, ts)
    else .error (.malformed .unexpected)
  | _ + 1, .plain text :: ts => .ok (.plain text, ts)
  | _ + 1, .quoted text :: ts => .ok (.quoted text, ts)
  | fuel + 1, .flowSequence :: ts => do
    let (items, ts) ← readFlowItems true fuel ts
    .ok (.sequence items, ts)
  | fuel + 1, .flowMapping :: ts => do
    let (pairs, ts) ← readFlowPairs true fuel ts
    .ok (.mapping pairs, ts)
  | fuel + 1, .blockSequence :: ts =>
    if inBlock then do
      let (items, ts) ← readItems fuel ts
      .ok (.sequence items, ts)
    else .error (.malformed .unexpected)
  | fuel + 1, .blockMapping :: ts =>
    if inBlock then do
      let (pairs, ts) ← readPairs fuel ts
      .ok (.mapping pairs, ts)
    else .error (.malformed .unexpected)
  | _ + 1, ts => .error (unexpected ts)

/-- Reads a part of a block, which is missing before some tokens. -/
def readUnless (before : List Token) (atKey : Bool) :
    Nat → List Token → Except Fault (Node × List Token)
  | 0, ts => .error (unexpected ts)
  | fuel + 1, ts => if nextIn before ts then .ok (missing, ts) else read true atKey fuel ts

/-- Reads a part of a list or mapping in brackets, which is missing before some
tokens. -/
def readFlowUnless (before : List Token) : Nat → List Token → Except Fault (Node × List Token)
  | 0, ts => .error (unexpected ts)
  | fuel + 1, ts => if nextIn before ts then .ok (missing, ts) else read false false fuel ts

/-- Reads the items of an indented list, up to its end. -/
def readItems : Nat → List Token → Except Fault (List Node × List Token)
  | fuel + 1, .blockEntry :: ts => do
    let (item, ts) ← readUnless [.blockEntry, .blockEnd] false fuel ts
    let (items, ts) ← readItems fuel ts
    .ok (item :: items, ts)
  | _ + 1, .blockEnd :: ts => .ok ([], ts)
  | _, ts => .error (unexpected ts)

/-- Reads the items of a list at the indentation of its key, as far as they go. -/
def readLooseItems : Nat → List Token → Except Fault (List Node × List Token)
  | fuel + 1, .blockEntry :: ts => do
    let (item, ts) ← readUnless [.blockEntry, .key, .value, .blockEnd] false fuel ts
    let (items, ts) ← readLooseItems fuel ts
    .ok (item :: items, ts)
  | _ + 1, ts => .ok ([], ts)
  | 0, ts => .error (unexpected ts)

/-- Reads the entries of an indented mapping, up to its end. -/
def readPairs : Nat → List Token → Except Fault (List (Node × Node) × List Token)
  | fuel + 1, .key :: ts => do
    let (key, ts) ← readUnless [.key, .value, .blockEnd] true fuel ts
    let (value, ts) ← readValue fuel ts
    let (pairs, ts) ← readPairs fuel ts
    .ok ((key, value) :: pairs, ts)
  | _ + 1, .blockEnd :: ts => .ok ([], ts)
  | _, ts => .error (unexpected ts)

/-- Reads the value of an entry of an indented mapping. -/
def readValue : Nat → List Token → Except Fault (Node × List Token)
  | fuel + 1, .value :: ts => readUnless [.key, .value, .blockEnd] true fuel ts
  | _ + 1, ts => .ok (missing, ts)
  | 0, ts => .error (unexpected ts)

/-- Reads the items of a list in brackets.  All but the first follow a comma, and a
comma may stand before the bracket. -/
def readFlowItems (first : Bool) : Nat → List Token → Except Fault (List Node × List Token)
  | _ + 1, .flowSequenceEnd :: ts => .ok ([], ts)
  | fuel + 1, .flowEntry :: ts =>
    if first then .error (.malformed .unexpected)
    else if nextIn [.flowSequenceEnd] ts then .ok ([], ts.tail)
    else do
      let (item, ts) ← readFlowItem fuel ts
      let (items, ts) ← readFlowItems false fuel ts
      .ok (item :: items, ts)
  | fuel + 1, ts =>
    if first then do
      let (item, ts) ← readFlowItem fuel ts
      let (items, ts) ← readFlowItems false fuel ts
      .ok (item :: items, ts)
    else .error (unexpected ts)
  | 0, ts => .error (unexpected ts)

/-- Reads an item of a list in brackets. -/
def readFlowItem : Nat → List Token → Except Fault (Node × List Token)
  | fuel + 1, .key :: ts => do
    let (key, ts) ← readFlowUnless [.value, .flowEntry, .flowSequenceEnd] fuel ts
    let (value, ts) ← readFlowValue [.flowEntry, .flowSequenceEnd] fuel ts
    .ok (.mapping [(key, value)], ts)
  | fuel + 1, ts => read false false fuel ts
  | 0, ts => .error (unexpected ts)

/-- Reads the value of a pair within brackets, which is missing before some tokens. -/
def readFlowValue (before : List Token) : Nat → List Token → Except Fault (Node × List Token)
  | fuel + 1, .value :: ts => readFlowUnless before fuel ts
  | _ + 1, ts => .ok (missing, ts)
  | 0, ts => .error (unexpected ts)

/-- Reads the entries of a mapping in braces.  All but the first follow a comma, and
a comma may stand before the brace. -/
def readFlowPairs (first : Bool) : Nat → List Token → Except Fault (List (Node × Node) × List Token)
  | _ + 1, .flowMappingEnd :: ts => .ok ([], ts)
  | fuel + 1, .flowEntry :: ts =>
    if first then .error (.malformed .unexpected)
    else if nextIn [.flowMappingEnd] ts then .ok ([], ts.tail)
    else do
      let (pair, ts) ← readFlowPair fuel ts
      let (pairs, ts) ← readFlowPairs false fuel ts
      .ok (pair :: pairs, ts)
  | fuel + 1, ts =>
    if first then do
      let (pair, ts) ← readFlowPair fuel ts
      let (pairs, ts) ← readFlowPairs false fuel ts
      .ok (pair :: pairs, ts)
    else .error (unexpected ts)
  | 0, ts => .error (unexpected ts)

/-- Reads an entry of a mapping in braces. -/
def readFlowPair : Nat → List Token → Except Fault ((Node × Node) × List Token)
  | fuel + 1, .key :: ts => do
    let (key, ts) ← readFlowUnless [.value, .flowEntry, .flowMappingEnd] fuel ts
    let (value, ts) ← readFlowValue [.flowEntry, .flowMappingEnd] fuel ts
    .ok ((key, value), ts)
  | fuel + 1, ts => do
    let (key, ts) ← read false false fuel ts
    .ok ((key, missing), ts)
  | 0, ts => .error (unexpected ts)

end

/-! ## Documents -/

/-- How deep the reading of tokens can go. -/
def depthOf (ts : List Token) : Nat := 3 * ts.length + 3

/-- Passes the ends of the document, behind which nothing may follow. -/
def readEnd (ts : List Token) : Except Fault Unit :=
  match ts.dropWhile (· == .documentEnd) with
  | [] => .ok ()
  | .broken f :: _ => .error f
  | _ => .error (.malformed .several)

/-- The tree of a document, if there is anything in it. -/
def ofTokens? (tokens : List Token) : Except Fault (Option Node) :=
  match tokens with
  | [] => .ok none
  | .documentStart :: ts => do
    let (node, ts) ←
      if ts = [] ∨ nextIn [.documentStart, .documentEnd] ts then .ok (missing, ts)
      else read true false (depthOf ts) ts
    readEnd ts
    .ok (some node)
  | ts => do
    let (node, ts) ← read true false (depthOf ts) ts
    readEnd ts
    .ok (some node)

end Node

end LuceneQuery.Yaml
