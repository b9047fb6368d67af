import LuceneQuery.Value.Basic
import LuceneQuery.Yaml.Spot

/-!
# Dates and times in documents

A date is four digits, two and two, with hyphens between them.  Before a time
the month and the day can be single digits.  The time has seconds, and may have
a fraction of a second, of which six digits count, and a distance from
universal time.

A text of this form is a date or a time even if the calendar has none such;
it is then a fault.
-/

namespace LuceneQuery.Yaml

namespace Timestamp

/-! ## Form -/

/-- The fields of a time of a day, of any size. -/
structure Clock where
  /-- The hour. -/
  hour : Nat
  /-- The minute. -/
  minute : Nat
  /-- The second. -/
  second : Nat
  /-- The microsecond. -/
  microsecond : Nat
  /-- Minutes ahead of universal time, if given. -/
  offset : Option Int
  deriving DecidableEq, Repr

/-- The fields of a date or a time, of any size. -/
structure Fields where
  /-- The day. -/
  date : Date
  /-- The time of the day, if given. -/
  clock : Option Clock
  deriving DecidableEq

/-- The number of exactly `n` digits, and what follows. -/
def digits? (n : Nat) (s : List Char) : Option (Nat × List Char) :=
  let ds := s.take n
  if ds.length = n ∧ ds.all Char.isDigit then some (Decimal.valueOf ds, s.drop n) else none

/-- The number of two digits or of one, and what follows. -/
def upToTwo? (s : List Char) : Option (Nat × List Char) :=
  match digits? 2 s with
  | some found => some found
  | none => digits? 1 s

/-- What follows a mark. -/
def after? (mark : Char) : List Char → Option (List Char)
  | c :: s => if c = mark then some s else none
  | [] => none

/-- A distance from universal time in hours and perhaps minutes. -/
def zone? (s : List Char) : Option Int := do
  let (negative, rest) ← match s with
    | '+' :: rest => some (false, rest)
    | '-' :: rest => some (true, rest)
    | _ => none
  let (hours, rest) ← upToTwo? rest
  let minutes ←
    if rest = [] then some 0
    else
      match digits? 2 (← after? ':' rest) with
      | some (minutes, []) => some minutes
      | _ => none
  let offset : Int := ((hours * 60 + minutes : Nat) : Int)
  some (if negative then -offset else offset)

/-- The distance from universal time at the end of a text, if there is one. -/
def offset? (s : List Char) : Option (Option Int) :=
  if s = [] then some none
  else
    match s.dropWhile isSpace with
    | ['Z'] => some (some 0)
    | rest => (zone? rest).map some

/-- The microseconds that the digits of a fraction of a second write. -/
def microseconds (ds : List Char) : Nat :=
  Decimal.valueOf (ds.take 6 ++ List.replicate (6 - ds.length) '0')

/-- The time of a day, up to the end of the text. -/
def clock? (s : List Char) : Option Clock := do
  let (hour, s) ← upToTwo? s
  let (minute, s) ← digits? 2 (← after? ':' s)
  let (second, s) ← digits? 2 (← after? ':' s)
  let (fraction, s) := match s with
    | '.' :: s => Decimal.spanDigits s
    | _ => ([], s)
  let offset ← offset? s
  some ⟨hour, minute, second, microseconds fraction, offset⟩

/-- What follows the mark between a date and a time. -/
def afterDate? : List Char → Option (List Char)
  | c :: s =>
    if c = 'T' ∨ c = 't' then some s
    else if isSpace c then some (s.dropWhile isSpace)
    else none
  | [] => none

/-- The fields of a date. -/
def date? (s : List Char) : Option Fields := do
  let (year, s) ← digits? 4 s
  let (month, s) ← digits? 2 (← after? '-' s)
  let (day, s) ← digits? 2 (← after? '-' s)
  if s = [] then some ⟨⟨year, month, day⟩, none⟩ else none

/-- The fields of a date and a time. -/
def dateAndTime? (s : List Char) : Option Fields := do
  let (year, s) ← digits? 4 s
  let (month, s) ← upToTwo? (← after? '-' s)
  let (day, s) ← upToTwo? (← after? '-' s)
  let clock ← clock? (← afterDate? s)
  some ⟨⟨year, month, day⟩, some clock⟩

/-- The fields of a text of the form of a date or a time. -/
def fields? (s : List Char) : Option Fields :=
  match date? s with
  | some fields => some fields
  | none => dateAndTime? s

example : fields? "2020-01-01 1:02:03.5-07".toList =
    some ⟨⟨2020, 1, 1⟩, some ⟨1, 2, 3, 500000, some (-420)⟩⟩ := by decide +kernel

/-! ## Calendar -/

/-- Checks that the calendar has a day. -/
def checkDate (d : Date) : Except Fault Unit :=
  if d.year = 0 then .error .year
  else if d.month = 0 ∨ 12 < d.month then .error .month
  else if d.day = 0 ∨ Date.daysInMonth d.year d.month < d.day then .error .day
  else .ok ()

/-- Checks that the distance from universal time is less than a day. -/
def checkOffset (c : Clock) : Except Fault Unit :=
  match c.offset with
  | some minutes => if 1440 ≤ minutes.natAbs then .error (.offset minutes) else .ok ()
  | none => .ok ()

/-- Checks that a day has a time. -/
def checkTime (c : Clock) : Except Fault Unit :=
  if 24 ≤ c.hour then .error .hour
  else if 60 ≤ c.minute then .error .minute
  else if 60 ≤ c.second then .error .second
  else .ok ()

/-- The scalar of the fields. -/
def scalar (fields : Fields) : Except Fault Scalar :=
  match fields.clock with
  | none => do
    checkDate fields.date
    .ok (.date fields.date)
  | some c => do
    checkOffset c
    checkDate fields.date
    checkTime c
    .ok (.timestamp ⟨fields.date, c.hour, c.minute, c.second, c.microsecond, c.offset⟩)

end Timestamp

end LuceneQuery.Yaml
