import LuceneQuery.Text.Quoted
import LuceneQuery.Value.Basic

/-!
# The text of values

A value has two texts.  `text` is the value as a word of a query: a text
stands for itself, and a date and a number for their digits.  `shown` is the
value in a message: a text stands between quotes, decimals, dates and times are
shown as calls that make them, and the parts of other values in brackets.
Values with parts are always shown.

A value can be written if no integer in it has too many digits.
-/

namespace LuceneQuery

/-! ## Parts between brackets -/

namespace Text

/-- Texts with a comma and a space between them. -/
def commaSeparated : List (List Char) → List Char
  | [] => []
  | [x] => x
  | x :: y :: rest => x ++ ',' :: ' ' :: commaSeparated (y :: rest)

/-- Texts between two brackets. -/
def between (opening closing : Char) (xs : List (List Char)) : List Char :=
  opening :: commaSeparated xs ++ [closing]

/-- Texts in the brackets of a list. -/
def bracketed (xs : List (List Char)) : List Char := between '[' ']' xs

/-- Texts in quotes and in the brackets of a list. -/
def shownTexts (xs : List Text) : String := String.ofList (bracketed (xs.map quoted))

/-- A call of a function with some arguments. -/
def called (name : String) (arguments : List (List Char)) : List Char :=
  name.toList ++ between '(' ')' arguments

end Text

/-! ## Dates and times -/

/-- A day in a message. -/
def Date.shown (d : Date) : List Char :=
  Text.called "datetime.date" ([d.year, d.month, d.day].map Decimal.digits)

/-- A span of minutes in a message, as whole days and the seconds of the day that is
left. -/
def shownSpan (minutes : Int) : List Char :=
  let days := Int.fdiv minutes 1440
  let seconds := Int.fmod minutes 1440 * 60
  let parts := (if days = 0 then [] else ["days=".toList ++ Number.intText days])
    ++ (if seconds = 0 then [] else ["seconds=".toList ++ Number.intText seconds])
  Text.called "datetime.timedelta" (if parts = [] then [['0']] else parts)

namespace Timestamp

/-- A distance from universal time in a message. -/
def shownOffset (minutes : Int) : List Char :=
  if minutes = 0 then "datetime.timezone.utc".toList
  else Text.called "datetime.timezone" [shownSpan minutes]

/-- A time in a message.  Seconds and microseconds are left out if all that is left
of the time is zero. -/
def shown (t : Timestamp) : List Char :=
  let parts := [t.date.year, t.date.month, t.date.day, t.hour, t.minute]
    ++ (if t.second = 0 ∧ t.microsecond = 0 then [] else [t.second])
    ++ (if t.microsecond = 0 then [] else [t.microsecond])
  let zone := t.offset.toList.map fun minutes => "tzinfo=".toList ++ shownOffset minutes
  Text.called "datetime.datetime" (parts.map Decimal.digits ++ zone)

example : String.ofList (shown ⟨⟨2020, 1, 2⟩, 3, 4, 0, 0, some (-60)⟩) =
    "datetime.datetime(2020, 1, 2, 3, 4, " ++
      "tzinfo=datetime.timezone(datetime.timedelta(days=-1, seconds=82800)))" := by
  decide +kernel

end Timestamp

/-! ## Scalars -/

namespace Scalar

/-- Whether a scalar can be written. -/
def isWritable : Scalar → Bool
  | .number n => n.isWritable
  | _ => true

/-- A scalar in a message. -/
def shown : Scalar → List Char
  | .null => "None".toList
  | .bool true => "True".toList
  | .bool false => "False".toList
  | .number (.decimal d) => "Decimal('".toList ++ d.text ++ "')".toList
  | .number n => n.text
  | .str s => Text.quoted s
  | .bytes octets => Text.quotedOctets octets
  | .date d => d.shown
  | .timestamp t => t.shown

/-- The text of a scalar. -/
def text : Scalar → Text
  | .number n => .ofChars n.text
  | .str s => s
  | .date d => .ofChars d.text
  | .timestamp t => .ofChars t.text
  | s => .ofChars s.shown

end Scalar

/-! ## Values -/

namespace Value

mutual

/-- A value in a message. -/
def shown : Value → List Char
  | .scalar s => s.shown
  | .list items => Text.bracketed (shownItems items)
  | .pair a b => Text.between '(' ')' [a.shown, b.shown]
  | .set [] => Text.called "set" []
  | .set members => Text.between '\x7b' '\x7d' (members.map Scalar.shown)
  | .map entries => Text.between '\x7b' '\x7d' (shownEntries entries)

/-- The values of a list in a message. -/
def shownItems : List Value → List (List Char)
  | [] => []
  | v :: rest => v.shown :: shownItems rest

/-- The entries of a mapping in a message. -/
def shownEntries : List (Scalar × Value) → List (List Char)
  | [] => []
  | (k, v) :: rest => (k.shown ++ ':' :: ' ' :: v.shown) :: shownEntries rest

end

mutual

/-- Whether a value can be written. -/
def isWritable : Value → Bool
  | .scalar s => s.isWritable
  | .list items => areWritable items
  | .pair a b => a.isWritable && b.isWritable
  | .set members => members.all Scalar.isWritable
  | .map entries => haveWritable entries

/-- Whether all values of a list can be written. -/
def areWritable : List Value → Bool
  | [] => true
  | v :: rest => v.isWritable && areWritable rest

/-- Whether all keys and values of entries can be written. -/
def haveWritable : List (Scalar × Value) → Bool
  | [] => true
  | (k, v) :: rest => k.isWritable && v.isWritable && haveWritable rest

end

/-- The text of a value. -/
def text : Value → Text
  | .scalar s => s.text
  | v => .ofChars v.shown

/-- A value in a message, as a string. -/
def literal (v : Value) : String := String.ofList v.shown

end Value

end LuceneQuery
