import LuceneQuery.Text.Basic
import LuceneQuery.Text.Printable

/-!
# Quoted text

Messages show a text between quotes, so that blanks and controls in it can be
seen.  The quote is the single one, unless the text has a single quote and no
double one.  The quote, the backslash and the code points that are not
printable are written as escapes: the tab and the line ends by a letter, the
others by their number in hexadecimal, in two, four or eight digits.  So quoted
text has no halves.
-/

namespace LuceneQuery.Text

/-- The hexadecimal digit of a number below sixteen. -/
def hexDigit (n : Nat) : Char :=
  if n < 10 then Char.ofNat (0x30 + n) else Char.ofNat (0x57 + n)

/-- The last `width` hexadecimal digits of a number. -/
def hexDigits : Nat → Nat → List Char
  | 0, _ => []
  | width + 1, n => hexDigits width (n / 16) ++ [hexDigit (n % 16)]

/-- The escape of a code point by its number. -/
def numberEscape (n : Nat) : List Char :=
  if n < 0x100 then '\\' :: 'x' :: hexDigits 2 n
  else if n < 0x10000 then '\\' :: 'u' :: hexDigits 4 n
  else '\\' :: 'U' :: hexDigits 8 n

/-- The quote for a text. -/
def quoteFor (s : Text) : Char :=
  if s.contains (.char '\'') && !s.contains (.char '"') then '"' else '\''

/-- A character as it stands between the given quotes. -/
def quotedChar (quote c : Char) : List Char :=
  if c = quote || c = '\\' then ['\\', c]
  else if c = '\n' then ['\\', 'n']
  else if c = '\r' then ['\\', 'r']
  else if c = '\t' then ['\\', 't']
  else if isPrintable c then [c]
  else numberEscape c.toNat

/-- A code point as it stands between the given quotes. -/
def quotedCodePoint (quote : Char) : CodePoint → List Char
  | .char c => quotedChar quote c
  | .half n => numberEscape (CodePoint.half n).number

/-- A text between quotes. -/
def quoted (s : Text) : List Char :=
  let quote := quoteFor s
  quote :: s.flatMap (quotedCodePoint quote) ++ [quote]

/-- A text between quotes, as a string. -/
def quote (s : Text) : String := String.ofList (quoted s)

/-- An octet as it stands between the given quotes. -/
def quotedOctet (quote : Char) (octet : UInt8) : List Char :=
  let c := Char.ofNat octet.toNat
  if octet < 0x7F then quotedChar quote c else numberEscape octet.toNat

/-- Octets behind a letter and between quotes, those of ASCII as characters. -/
def quotedOctets (octets : List UInt8) : List Char :=
  let quote := quoteFor (ofChars (octets.map fun octet => Char.ofNat octet.toNat))
  'b' :: quote :: octets.flatMap (quotedOctet quote) ++ [quote]

/-- A text as a string, with the escapes of its halves. -/
def display (s : Text) : String :=
  String.ofList <| s.flatMap fun
    | .char c => [c]
    | .half n => numberEscape (CodePoint.half n).number

example : quote "it's\t\u200b" = "\"it's\\t\\u200b\"" := by decide +kernel

example : String.ofList (quotedOctets [0x27, 0x61, 0x0A, 0xFF]) = "b\"'a\\n\\xff\"" := by
  decide +kernel

end LuceneQuery.Text
