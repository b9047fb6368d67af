import LuceneQuery.Yaml.Spot

/-!
# Plain scalars

A scalar without quotes ends at a colon with a gap behind it, at a comment and,
within brackets, at the marks that structure lists and mappings there.  Spaces
at its end are not part of it.

It can run over several lines, as long as these are indented beyond the block
that it stands in.  The ends of lines are folded as in quoted scalars.
-/

namespace LuceneQuery.Yaml

namespace Plain

/-- The marks that end a plain scalar within brackets. -/
def flowMarks : List Char := [',', '?', '[', ']', '\x7b', '\x7d']

/-- The marks that show, behind a colon within brackets, that it ends a key. -/
def flowNext : List Char := [',', '[', ']', '\x7b', '\x7d']

/-- Whether a plain scalar ends before a character. -/
def endsAt (inFlow : Bool) (c : Char) (rest : List Spot) : Bool :=
  isGap c || (c == ':' && (atGap rest || (inFlow && atOneOf flowNext rest)))
    || (inFlow && flowMarks.contains c)

/-- The longest run without gaps, and what follows it. -/
def run (inFlow : Bool) : List Spot → List Char × List Spot
  | [] => ([], [])
  | s :: rest =>
    if endsAt inFlow s.char rest then ([], s :: rest)
    else
      let (text, rest) := run inFlow rest
      (s.char :: text, rest)

/-- The ends of the empty lines that come next, what follows the spaces behind
them, and whether a separator of documents follows. -/
def emptyLines : List Spot → List Char × List Spot × Bool
  | [] => ([], [], false)
  | s :: rest =>
    if s.char == ' ' then emptyLines rest
    else if isBreak s.char then
      if atSeparator rest then ([], rest, true)
      else
        let (ends, rest, separated) := emptyLines rest
        (s.char :: ends, rest, separated)
    else ([], s :: rest, false)

/-- What the spaces and ends of lines behind a run stand for. -/
structure Spacing where
  /-- The text, which is empty where the scalar must end. -/
  text : List Char
  /-- What follows. -/
  rest : List Spot
  /-- Whether a line ended. -/
  newLine : Bool

/-- Reads the spaces and ends of lines behind a run. -/
def spacing (spots : List Spot) : Spacing :=
  let spaces := spots.takeWhile fun s => s.char == ' '
  match spots.dropWhile fun s => s.char == ' ' with
  | [] => ⟨spaces.map Spot.char, [], false⟩
  | s :: rest =>
    if isBreak s.char then
      if atSeparator rest then ⟨[], rest, true⟩
      else
        let (ends, rest, separated) := emptyLines rest
        let text :=
          if separated then []
          else if s.char ≠ '\n' then s.char :: ends
          else if ends = [] then [' ']
          else ends
        ⟨text, rest, true⟩
    else ⟨spaces.map Spot.char, s :: rest, false⟩

/-- Whether a plain scalar cannot go on here: a comment starts, or the line is
not indented up to the margin. -/
def stops (inFlow : Bool) (margin : Nat) : List Spot → Bool
  | [] => true
  | s :: _ => s.char == '#' || (!inFlow && s.column < margin)

/-- A plain scalar, as a text with what follows it, and whether a line ended
behind it. -/
def scanFrom (inFlow : Bool) (margin : Nat) : Nat → List Spot → Spacing
  | 0, spots => ⟨[], spots, false⟩
  | fuel + 1, spots =>
    let (text, rest) := run inFlow spots
    let gap := spacing rest
    if gap.text = [] ∨ stops inFlow margin gap.rest then { gap with text := text }
    else
      let next := scanFrom inFlow margin fuel gap.rest
      if next.text = [] then { gap with text := text }
      else { next with text := text ++ gap.text ++ next.text }

/-- A plain scalar in a block whose lines are indented up to a margin. -/
def scan (inFlow : Bool) (margin : Nat) (spots : List Spot) : Spacing :=
  scanFrom inFlow margin (spots.length + 1) spots

/-- The characters that start no plain scalar, unless it is one of the first
three and no gap follows. -/
def reserved : List Char :=
  ['-', '?', ':', ',', '[', ']', '\x7b', '\x7d', '#', '&', '*', '!', '|', '>', '\'', '"', '%', '@',
   '\x60']

/-- Whether a plain scalar starts with a character. -/
def startsWith (inFlow : Bool) (c : Char) (rest : List Spot) : Bool :=
  !(isGap c || reserved.contains c)
    || (!atGap rest && (c == '-' || (!inFlow && (c == '?' || c == ':'))))

end Plain

end LuceneQuery.Yaml
