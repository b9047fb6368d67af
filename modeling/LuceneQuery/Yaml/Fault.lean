import LuceneQuery.Value.Text

/-!
# What is wrong with a document

A document that breaks the rules of the notation is *malformed*.  A document
that keeps them can still hold a scalar of the right form without a value: a
day that is not in the calendar, a number without digits, an escape past the
last code point.
-/

namespace LuceneQuery.Yaml

/-- How a document breaks the rules of the notation. -/
inductive Malformed where
  /-- A character that no document may hold. -/
  | character
  /-- A quote without its end, or a broken escape. -/
  | quote
  /-- A character that starts no token. -/
  | token
  /-- An indicator where the block structure does not allow it. -/
  | block
  /-- A key without its colon. -/
  | key
  /-- A bracket that closes nothing. -/
  | bracket
  /-- A token where the grammar does not allow it. -/
  | unexpected
  /-- A second document. -/
  | several
  /-- A list or a mapping as a key. -/
  | compositeKey
  /-- A scalar whose form has no values. -/
  | scalar
  deriving DecidableEq, Repr

/-- What is malformed, in words. -/
def Malformed.message : Malformed → String
  | .character => "found a character that is not allowed"
  | .quote => "found a broken quoted scalar"
  | .token => "found a character that cannot start any token"
  | .block => "found an indicator out of place"
  | .key => "found a key without its colon"
  | .bracket => "found a bracket that closes nothing"
  | .unexpected => "found an unexpected token"
  | .several => "found a second document"
  | .compositeKey => "found a list or a mapping as a key"
  | .scalar => "found a scalar without a value"

/-- What is wrong with a document. -/
inductive Fault where
  /-- It breaks the rules of the notation. -/
  | malformed (cause : Malformed)
  /-- An escape is past the last code point. -/
  | codePoint
  /-- An escape is far past it: it takes 32 bits. -/
  | hugeCodePoint
  /-- A number of the base has no digits. -/
  | noDigits (base : Nat)
  /-- A decimal integer has too many digits. -/
  | tooManyDigits (count : Nat)
  /-- A double in base sixty has too many places. -/
  | tooManyPlaces
  /-- A distance from universal time of so many minutes is a day or more. -/
  | offset (minutes : Int)
  /-- The year is zero. -/
  | year
  /-- The month is not one to twelve. -/
  | month
  /-- The month has no such day. -/
  | day
  /-- The hour is past 23. -/
  | hour
  /-- The minute is past 59. -/
  | minute
  /-- The second is past 59. -/
  | second
  deriving DecidableEq, Repr

/-- The fault in words. -/
def Fault.message : Fault → String
  | .malformed cause => cause.message
  | .codePoint => "chr() arg not in range(0x110000)"
  | .hugeCodePoint => "Python int too large to convert to C int"
  | .noDigits base => "invalid literal for int() with base " ++ toString base ++ ": ''"
  | .tooManyDigits count => Number.limitMessage (": value has " ++ toString count ++ " digits")
  | .tooManyPlaces => "int too large to convert to float"
  | .offset minutes =>
    "offset must be a timedelta strictly between -timedelta(hours=24) and timedelta(hours=24), not "
      ++ String.ofList (shownSpan minutes) ++ "."
  | .year => "year 0 is out of range"
  | .month => "month must be in 1..12"
  | .day => "day is out of range for month"
  | .hour => "hour must be in 0..23"
  | .minute => "minute must be in 0..59"
  | .second => "second must be in 0..59"

end LuceneQuery.Yaml
