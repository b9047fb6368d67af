import LuceneQuery.Yaml.Token
import LuceneQuery.Yaml.Token.Plain
import LuceneQuery.Yaml.Token.Quoted

/-!
# Reading tokens

A key looks like any other scalar until its colon comes.  So the reader keeps,
for the block and for each open bracket, the place where a key may have begun:
a *candidate*.  A colon turns the candidate into a key, by announcing it at the
place of its first token.  A candidate lapses when its line ends or after 1024
characters.  At the indentation of a block mapping nothing but a key can stand,
and there a candidate that lapses is a fault.

A block begins where an entry or a key stands right of the enclosing block, and
ends before the first token that stands left of it.
-/

namespace LuceneQuery.Yaml

/-- A place where a key may have begun. -/
structure Candidate where
  /-- How many tokens precede the key. -/
  token : Nat
  /-- Whether nothing but a key can stand here. -/
  required : Bool
  /-- The spot of its first character. -/
  spot : Spot
  deriving DecidableEq, Repr

/-- How many characters a key may have before its colon. -/
def maxKeyLength : Nat := 1024

/-- Whether a candidate is no key if its colon stands at a spot or later. -/
def Candidate.lapses (c : Candidate) (s : Spot) : Bool :=
  c.spot.line != s.line || maxKeyLength < s.index - c.spot.index

/-- A document that is read up to some spot. -/
structure Lexer where
  /-- What is still to be read. -/
  rest : List Spot
  /-- The tokens so far, last first. -/
  tokens : List Token := []
  /-- How many tokens there are. -/
  count : Nat := 0
  /-- The columns of the open blocks, innermost first. -/
  blocks : List Nat := []
  /-- The candidate of the innermost bracket, or of the block. -/
  candidate : Option Candidate := none
  /-- The candidates around each open bracket, innermost first. -/
  outer : List (Option Candidate) := []
  /-- Whether a key may begin here. -/
  keyAllowed : Bool := true

namespace Lexer

/-- Whether a bracket is open. -/
def inFlow (l : Lexer) : Bool := !l.outer.isEmpty

/-- Adds a token. -/
def emit (t : Token) (l : Lexer) : Lexer :=
  { l with tokens := t :: l.tokens, count := l.count + 1 }

/-- Passes some spots. -/
def skip (n : Nat) (l : Lexer) : Lexer := { l with rest := l.rest.drop n }

/-- Puts tokens behind the first `place` ones. -/
def insertAt (place : Nat) (ts : List Token) (l : Lexer) : Lexer :=
  let later := l.tokens.take (l.count - place)
  { l with
    tokens := later ++ ts.reverse ++ l.tokens.drop (l.count - place),
    count := l.count + ts.length }

/-! ## Blocks -/

/-- Ends the blocks of which a column stands left. -/
def endBlocks (column : Nat) (l : Lexer) : Lexer :=
  if l.inFlow then l
  else
    let ended := l.blocks.takeWhile (column < ·)
    { l with
      tokens := List.replicate ended.length .blockEnd ++ l.tokens,
      count := l.count + ended.length,
      blocks := l.blocks.dropWhile (column < ·) }

/-- Ends all blocks. -/
def endAllBlocks (l : Lexer) : Lexer :=
  if l.inFlow then l
  else
    { l with
      tokens := List.replicate l.blocks.length .blockEnd ++ l.tokens,
      count := l.count + l.blocks.length,
      blocks := [] }

/-- Whether a column stands right of the innermost block. -/
def opensBlock (column : Nat) (l : Lexer) : Bool :=
  match l.blocks with
  | [] => true
  | block :: _ => block < column

/-! ## Candidates -/

/-- A candidate that is no key.  Where a key is required this is a fault. -/
def drop : Option Candidate → Except Fault (Option Candidate)
  | some c => if c.required then .error (.malformed .key) else .ok none
  | none => .ok none

/-- A candidate, unless it lapses at a spot. -/
def keep (s : Spot) : Option Candidate → Except Fault (Option Candidate)
  | some c => if c.lapses s then drop (some c) else .ok (some c)
  | none => .ok none

/-- Candidates without those that lapse at a spot. -/
def keepAll (s : Spot) : List (Option Candidate) → Except Fault (List (Option Candidate))
  | [] => .ok []
  | c :: rest => do
    let c ← keep s c
    let rest ← keepAll s rest
    .ok (c :: rest)

/-- Lets candidates lapse. -/
def lapse (s : Spot) (l : Lexer) : Except Fault Lexer := do
  let candidate ← keep s l.candidate
  let outer ← keepAll s l.outer
  .ok { l with candidate, outer }

/-- Drops the candidate and says whether a key may begin next. -/
def dropCandidate (keyAllowed : Bool) (l : Lexer) : Except Fault Lexer := do
  let candidate ← drop l.candidate
  .ok { l with candidate, keyAllowed }

/-- Makes a spot a candidate, if a key may begin there. -/
def markCandidate (s : Spot) (l : Lexer) : Except Fault Lexer := do
  if l.keyAllowed then
    let _ ← drop l.candidate
    let required := !l.inFlow && l.blocks.head? == some s.column
    .ok { l with candidate := some ⟨l.count, required, s⟩ }
  else .ok l

/-! ## Between tokens -/

/-- Passes spaces, comments and ends of lines, from inside a comment or from
outside.  In a block a key may begin at the start of a line. -/
def skipGaps (inFlow : Bool) : Bool → Bool → List Spot → List Spot × Bool
  | _, keyAllowed, [] => ([], keyAllowed)
  | inComment, keyAllowed, s :: rest =>
    if isBreak s.char then skipGaps inFlow false (keyAllowed || !inFlow) rest
    else if inComment || s.char == ' ' then skipGaps inFlow inComment keyAllowed rest
    else if s.char = '#' then skipGaps inFlow true keyAllowed rest
    else (s :: rest, keyAllowed)

/-- Passes what stands before the next token. -/
def toToken (l : Lexer) : Lexer :=
  let (rest, keyAllowed) := skipGaps l.inFlow false l.keyAllowed l.rest
  { l with rest, keyAllowed }

/-! ## Tokens -/

/-- Reads a line of three marks that separates documents. -/
def separator (t : Token) (l : Lexer) : Except Fault Lexer := do
  let l ← l.endAllBlocks.dropCandidate false
  .ok ((l.emit t).skip 3)

/-- Reads an opening bracket, which may begin a key. -/
def opening (t : Token) (s : Spot) (l : Lexer) : Except Fault Lexer := do
  let l ← l.markCandidate s
  let l := { l with outer := l.candidate :: l.outer, candidate := none, keyAllowed := true }
  .ok ((l.emit t).skip 1)

/-- Reads a closing bracket. -/
def closing (t : Token) (l : Lexer) : Except Fault Lexer := do
  let l ← l.dropCandidate false
  match l.outer with
  | [] => .error (.malformed .bracket)
  | candidate :: outer => .ok (({ l with candidate, outer }.emit t).skip 1)

/-- Reads a comma. -/
def comma (l : Lexer) : Except Fault Lexer := do
  let l ← l.dropCandidate true
  .ok ((l.emit .flowEntry).skip 1)

/-- Begins a block at a spot, if one begins there. -/
def beginBlock (t : Token) (s : Spot) (l : Lexer) : Except Fault Lexer :=
  if l.inFlow then .ok l
  else if !l.keyAllowed then .error (.malformed .block)
  else if l.opensBlock s.column then .ok ({ l with blocks := s.column :: l.blocks }.emit t)
  else .ok l

/-- Reads the mark of an item. -/
def entry (s : Spot) (l : Lexer) : Except Fault Lexer := do
  let l ← l.beginBlock .blockSequence s
  let l ← l.dropCandidate true
  .ok ((l.emit .blockEntry).skip 1)

/-- Reads the mark of a key. -/
def keyMark (s : Spot) (l : Lexer) : Except Fault Lexer := do
  let l ← l.beginBlock .blockMapping s
  let l ← l.dropCandidate (!l.inFlow)
  .ok ((l.emit .key).skip 1)

/-- Reads a colon, which makes the candidate a key. -/
def colon (s : Spot) (l : Lexer) : Except Fault Lexer :=
  match l.candidate with
  | some c =>
    let l :=
      if !l.inFlow && l.opensBlock c.spot.column then
        { l.insertAt c.token [.blockMapping, .key] with blocks := c.spot.column :: l.blocks }
      else l.insertAt c.token [.key]
    .ok (({ l with candidate := none, keyAllowed := false }.emit .value).skip 1)
  | none => do
    let l ← l.beginBlock .blockMapping s
    let l ← l.dropCandidate (!l.inFlow)
    .ok ((l.emit .value).skip 1)

/-- Reads a quoted scalar. -/
def quoted (double : Bool) (s : Spot) (rest : List Spot) (l : Lexer) : Except Fault Lexer := do
  let l ← l.markCandidate s
  let (text, rest) ← Quoted.scan double rest
  .ok { l.emit (.quoted text) with rest, keyAllowed := false }

/-- Reads a plain scalar. -/
def plain (s : Spot) (l : Lexer) : Except Fault Lexer := do
  let l ← l.markCandidate s
  let margin := match l.blocks with
    | [] => 0
    | block :: _ => block + 1
  let scalar := Plain.scan l.inFlow margin l.rest
  .ok { l.emit (.plain scalar.text) with rest := scalar.rest, keyAllowed := scalar.newLine }

/-- Reads the token at a spot. -/
def token (s : Spot) (rest : List Spot) (l : Lexer) : Except Fault Lexer :=
  if s.column = 0 ∧ atSeparator (s :: rest) then
    separator (if s.char = '-' then .documentStart else .documentEnd) l
  else
    match s.char with
    | '[' => opening .flowSequence s l
    | '\x7b' => opening .flowMapping s l
    | ']' => closing .flowSequenceEnd l
    | '\x7d' => closing .flowMappingEnd l
    | ',' => comma l
    | '\'' => quoted false s rest l
    | '"' => quoted true s rest l
    | c =>
      if c = '-' ∧ atGap rest then entry s l
      else if c = '?' ∧ (l.inFlow ∨ atGap rest) then keyMark s l
      else if c = ':' ∧ (l.inFlow ∨ atGap rest) then colon s l
      else if Plain.startsWith l.inFlow c rest then plain s l
      else .error (.malformed .token)

/-- Reads the next token, which begins at a spot. -/
def next (s : Spot) (rest : List Spot) (l : Lexer) : Except Fault Lexer := do
  let l ← l.lapse s
  (l.endBlocks s.column).token s rest

/-- Ends the document. -/
def finish (l : Lexer) : Except Fault Lexer := l.endAllBlocks.dropCandidate false

/-- The tokens, of which a fault leaves those that no candidate holds up. -/
def brokenBy (f : Fault) (l : Lexer) : List Token :=
  let settled := match (l.candidate :: l.outer).reverse.findSome? id with
    | some c => c.token
    | none => l.count
  (.broken f :: l.tokens.drop (l.count - settled)).reverse

/-- The tokens of a document that is read up to some spot.  Each token takes a
spot, so that as many steps as there are spots are enough. -/
def run : Nat → Lexer → List Token
  | 0, l => l.brokenBy (.malformed .token)
  | fuel + 1, l =>
    let l := l.toToken
    match l.rest with
    | [] => match l.finish with
      | .ok l => l.tokens.reverse
      | .error f => l.brokenBy f
    | s :: rest => match l.next s rest with
      | .ok l => run fuel l
      | .error f => l.brokenBy f

end Lexer

/-- The tokens of a document. -/
def Token.ofSpots (spots : List Spot) : List Token := Lexer.run (spots.length + 1) { rest := spots }

example : Token.ofSpots (spotsFrom 0 0 0 "a: [b]".toList) =
    [.blockMapping, .key, .plain ['a'], .value, .flowSequence, .plain ['b'],
      .flowSequenceEnd, .blockEnd] := by decide

end LuceneQuery.Yaml
