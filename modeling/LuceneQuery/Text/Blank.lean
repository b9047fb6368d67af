import LuceneQuery.Text.Basic

/-!
# Blank characters

A character is blank when it separates words and does not show.  These are the
characters of the Unicode property `White_Space` and the four information
separators U+001C to U+001F.  Tokens are trimmed of blanks and hold none.
-/

namespace LuceneQuery.Text

/-- The blank code points. -/
def blankRanges : List (Nat × Nat) :=
  [(0x09, 0x0D), (0x1C, 0x20), (0x85, 0x85), (0xA0, 0xA0), (0x1680, 0x1680), (0x2000, 0x200A),
   (0x2028, 0x2029), (0x202F, 0x202F), (0x205F, 0x205F), (0x3000, 0x3000)]

/-- Whether a code point is blank. -/
def isBlank (c : CodePoint) : Bool := inRanges blankRanges c.number

/-- A text without the blanks at its start. -/
def trimLeft (s : Text) : Text := s.dropWhile isBlank

/-- A text without the blanks at its end. -/
def trimRight : Text → Text
  | [] => []
  | c :: s =>
    match trimRight s with
    | [] => if isBlank c then [] else [c]
    | rest => c :: rest

/-- A text without the blanks at its two ends. -/
def trim (s : Text) : Text := trimRight (trimLeft s)

/-- Whether a text holds a blank. -/
def hasBlank (s : Text) : Bool := s.any isBlank

end LuceneQuery.Text
