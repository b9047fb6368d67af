import LuceneQuery.Text.Utf8
import LuceneQuery.Yaml.Fault

/-!
# Characters in place

A document is read as a list of *spots*: its characters with their places.
Lines end with a line feed, a carriage return, the two together or U+0085, and
all of these are one line feed here.  The separators U+2028 and U+2029 end
lines too and stay what they are.  A byte order mark takes no column, and at
the start of the document it is no character of it.

A *gap* is a space, a tabulator or the end of a line or of the document.  What
a mark means often hangs on whether a gap follows it.
-/

namespace LuceneQuery.Yaml

/-! ## Classes of characters -/

/-- The code points that a document may hold. -/
def allowedRanges : List (Nat × Nat) :=
  [(0x09, 0x0A), (0x0D, 0x0D), (0x20, 0x7E), (0x85, 0x85), (0xA0, 0xD7FF), (0xE000, 0xFFFD),
   (0x10000, 0x10FFFF)]

/-- Whether a document may hold a character. -/
def isAllowed (c : Char) : Bool := Text.inRanges allowedRanges c.toNat

/-- Whether a character ends a line. -/
def isBreak (c : Char) : Bool := c == '\n' || c == '\u2028' || c == '\u2029'

/-- Whether a character is a space or a tabulator. -/
def isSpace (c : Char) : Bool := c == ' ' || c == '\t'

/-- Whether a character is a space, a tabulator or the end of a line. -/
def isGap (c : Char) : Bool := isSpace c || isBreak c

/-! ## Spots -/

/-- A character in its place. -/
structure Spot where
  /-- The character. -/
  char : Char
  /-- How many characters precede it. -/
  index : Nat
  /-- How many lines precede its line. -/
  line : Nat
  /-- How many characters precede it on its line. -/
  column : Nat
  deriving DecidableEq, Repr

/-- The byte order mark. -/
def byteOrderMark : Char := '\ufeff'

/-- The spots of characters from a place on. -/
def spotsFrom (index line column : Nat) : List Char → List Spot
  | [] => []
  | c :: rest =>
    let next :=
      if isBreak c then spotsFrom (index + 1) (line + 1) 0 rest
      else spotsFrom (index + 1) line (if c = byteOrderMark then column else column + 1) rest
    ⟨c, index, line, column⟩ :: next

/-- A text with one mark for the ends of lines. -/
def evenLines (s : List Char) : List Char :=
  (Text.unixLines s).map fun c => if c = '\u0085' then '\n' else c

/-- A text without the byte order mark at its start. -/
def withoutMark : List Char → List Char
  | c :: rest => if c = byteOrderMark then rest else c :: rest
  | [] => []

/-- The spots of a document. -/
def spots (s : List Char) : Except Fault (List Spot) :=
  if s.all isAllowed then .ok (spotsFrom 0 0 0 (withoutMark (evenLines s)))
  else .error (.malformed .character)

/-! ## Looking ahead -/

/-- Whether a gap or the end of the document comes next. -/
def atGap : List Spot → Bool
  | [] => true
  | s :: _ => isGap s.char

/-- Whether one of some characters comes next. -/
def atOneOf (cs : List Char) : List Spot → Bool
  | [] => false
  | s :: _ => cs.contains s.char

/-- Whether a line of three equal marks comes next, which separates documents
where it stands at the start of a line. -/
def atSeparator : List Spot → Bool
  | a :: b :: c :: rest =>
    (a.char == '-' || a.char == '.') && b.char == a.char && c.char == a.char && atGap rest
  | _ => false

end LuceneQuery.Yaml
