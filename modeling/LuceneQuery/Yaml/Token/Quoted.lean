import LuceneQuery.Text.Basic
import LuceneQuery.Yaml.Spot

/-!
# Quoted scalars

A scalar between single quotes holds its characters, and a quote that is
written twice.  Between double quotes a backslash begins an escape.

A quoted scalar can run over several lines.  The spaces around the end of a
line are dropped, and the end of the line becomes a space, or nothing if empty
lines follow it, each of which stands for a line feed.  An escaped end of a
line is dropped.
-/

namespace LuceneQuery.Yaml

namespace Quoted

/-- A part of a scalar and what follows it. -/
abbrev Part (α : Type) := Except Fault (List α × List Spot)

/-- A part of characters as a text. -/
def asText (part : Part Char) : Part CodePoint := part.map fun (s, rest) => (Text.ofChars s, rest)

/-! ## Lines -/

/-- The ends of the empty lines that come next, and what follows the spaces
behind them.  No document may end in a quoted scalar. -/
def emptyLines : Nat → List Spot → Part Char
  | 0, _ => .error (.malformed .quote)
  | fuel + 1, spots =>
    if atSeparator spots then .error (.malformed .quote)
    else
      match spots.dropWhile fun s => isSpace s.char with
      | [] => .ok ([], [])
      | s :: rest =>
        if isBreak s.char then
          match emptyLines fuel rest with
          | .ok (ends, rest) => .ok (s.char :: ends, rest)
          | .error f => .error f
        else .ok ([], s :: rest)

/-- What the end of a line and the empty lines behind it stand for. -/
def folded (lineEnd : Char) (ends : List Char) : List Char :=
  if lineEnd ≠ '\n' then lineEnd :: ends
  else if ends = [] then [' ']
  else ends

/-- What spaces and ends of lines stand for. -/
def spacing (spots : List Spot) : Part Char :=
  let spaces := spots.takeWhile fun s => isSpace s.char
  match spots.dropWhile fun s => isSpace s.char with
  | [] => .error (.malformed .quote)
  | s :: rest =>
    if isBreak s.char then
      match emptyLines (rest.length + 1) rest with
      | .ok (ends, rest) => .ok (folded s.char ends, rest)
      | .error f => .error f
    else .ok (spaces.map Spot.char, s :: rest)

/-! ## Escapes -/

/-- The escapes of one character. -/
def escapes : List (Char × Char) :=
  [('0', '\x00'), ('a', '\x07'), ('b', '\x08'), ('t', '\t'), ('\t', '\t'), ('n', '\n'),
   ('v', '\x0b'), ('f', '\x0c'), ('r', '\r'), ('e', '\x1b'), (' ', ' '), ('"', '"'),
   ('\\', '\\'), ('/', '/'), ('N', '\u0085'), ('_', '\u00a0'), ('L', '\u2028'), ('P', '\u2029')]

/-- The escapes of a code point in hexadecimal digits, and how many digits. -/
def codeEscapes : List (Char × Nat) := [('x', 2), ('u', 4), ('U', 8)]

/-- The value of a hexadecimal digit. -/
def hexDigit? (c : Char) : Option Nat :=
  if c.isDigit then some (c.toNat - 48)
  else if 'a' ≤ c ∧ c ≤ 'f' then some (c.toNat - 87)
  else if 'A' ≤ c ∧ c ≤ 'F' then some (c.toNat - 55)
  else none

/-- The number that a text of hexadecimal digits writes. -/
def hexValue? (digits : List Char) : Option Nat :=
  digits.foldlM (fun n c => (hexDigit? c).map (n * 16 + ·)) 0

/-- The code point of a number in hexadecimal digits. -/
def codePoint (digits : List Char) : Except Fault CodePoint :=
  match hexValue? digits with
  | none => .error (.malformed .quote)
  | some n =>
    match CodePoint.ofNumber? n with
    | some c => .ok c
    | none => .error (if n < 0x80000000 then .codePoint else .hugeCodePoint)

/-- What the escape behind a backslash stands for. -/
def escape : List Spot → Part CodePoint
  | [] => .error (.malformed .quote)
  | s :: rest =>
    if isBreak s.char then asText (emptyLines (rest.length + 1) rest)
    else
      match escapes.lookup s.char with
      | some c => .ok ([c], rest)
      | none =>
        match codeEscapes.lookup s.char with
        | none => .error (.malformed .quote)
        | some n =>
          let digits := (rest.take n).map Spot.char
          if digits.length < n then .error (.malformed .quote)
          else
            match codePoint digits with
            | .ok c => .ok ([c], rest.drop n)
            | .error f => .error f

/-! ## Scalars -/

/-- The text up to the closing quote and what follows it. -/
def body (double : Bool) : Nat → List Spot → Part CodePoint
  | 0, _ => .error (.malformed .quote)
  | _ + 1, [] => .error (.malformed .quote)
  | fuel + 1, s :: rest =>
    let continued : Part CodePoint → Part CodePoint
      | .error f => .error f
      | .ok (part, rest) =>
        match body double fuel rest with
        | .ok (text, rest) => .ok (part ++ text, rest)
        | .error f => .error f
    if s.char = (if double then '"' else '\'') then
      if !double && atOneOf ['\''] rest then continued (.ok (['\''], rest.tail))
      else .ok ([], rest)
    else if isGap s.char then continued (asText (spacing (s :: rest)))
    else if double && s.char == '\\' then continued (escape rest)
    else continued (.ok ([s.char], rest))

/-- The text of a quoted scalar behind its opening quote, and what follows it. -/
def scan (double : Bool) (spots : List Spot) : Part CodePoint :=
  body double (spots.length + 1) spots

example : (scan true (spotsFrom 0 0 0 "a \n b\\x41\" c".toList)).toOption.map (·.1)
    = some (Text.ofString "a bA") := by decide

end Quoted

end LuceneQuery.Yaml
