import LuceneQuery.Number.Decimal

/-!
# Dates and times

A date of the Gregorian calendar in the years 1 to 9999, and a time of a day
to the microsecond, with the distance from universal time if it is known.
Two times of known distance are the same key if they are the same instant.
-/

namespace LuceneQuery

/-- A number in at least `width` digits. -/
def padded (width n : Nat) : List Char :=
  let ds := Decimal.digits n
  List.replicate (width - ds.length) '0' ++ ds

/-! ## Dates -/

/-- A day of the calendar. -/
structure Date where
  /-- The year. -/
  year : Nat
  /-- The month, from one. -/
  month : Nat
  /-- The day of the month, from one. -/
  day : Nat
  deriving DecidableEq

namespace Date

/-- Whether a year has a 29 February. -/
def isLeap (year : Nat) : Bool := year % 4 == 0 && (year % 100 != 0 || year % 400 == 0)

/-- The days of the months of a year. -/
def monthLengths (year : Nat) : List Nat :=
  [31, if isLeap year then 29 else 28, 31, 30, 31, 30, 31, 31, 30, 31, 30, 31]

/-- The number of days in a month. -/
def daysInMonth (year month : Nat) : Nat := (monthLengths year).getD (month - 1) 0

/-- The number of days before a date, from the first day of year one. -/
def daysBefore (d : Date) : Nat :=
  let y := d.year - 1
  let months := (monthLengths d.year).take (d.month - 1)
  y * 365 + y / 4 - y / 100 + y / 400 + months.foldl (· + ·) 0 + (d.day - 1)

/-- The text of a date. -/
def text (d : Date) : List Char :=
  padded 4 d.year ++ '-' :: padded 2 d.month ++ '-' :: padded 2 d.day

end Date

/-! ## Times -/

/-- A time of a day. -/
structure Timestamp where
  /-- The day. -/
  date : Date
  /-- The hour. -/
  hour : Nat
  /-- The minute. -/
  minute : Nat
  /-- The second. -/
  second : Nat
  /-- The microsecond. -/
  microsecond : Nat
  /-- Minutes ahead of universal time, if known. -/
  offset : Option Int
  deriving DecidableEq

namespace Timestamp

/-- Microseconds from the start of year one, without regard to the offset. -/
def microseconds (t : Timestamp) : Int :=
  (((t.date.daysBefore * 24 + t.hour) * 60 + t.minute) * 60 + t.second) * 1000000 + t.microsecond

/-- Whether two times are one key of a mapping. -/
def sameKey (a b : Timestamp) : Bool :=
  match a.offset, b.offset with
  | none, none => a.microseconds == b.microseconds
  | some x, some y => a.microseconds - x * 60000000 == b.microseconds - y * 60000000
  | _, _ => false

/-- The text of a distance from universal time. -/
def offsetText (minutes : Int) : List Char :=
  (if minutes < 0 then '-' else '+') ::
    padded 2 (minutes.natAbs / 60) ++ ':' :: padded 2 (minutes.natAbs % 60)

/-- The text of a time. -/
def text (t : Timestamp) : List Char :=
  t.date.text ++ ' ' :: padded 2 t.hour ++ ':' :: padded 2 t.minute ++ ':' :: padded 2 t.second
    ++ (if t.microsecond = 0 then [] else '.' :: padded 6 t.microsecond)
    ++ (match t.offset with
        | none => []
        | some minutes => offsetText minutes)

end Timestamp

end LuceneQuery
