import LuceneQuery.Yaml.Timestamp

/-!
# Plain scalars as values

A scalar in quotes is a text.  A plain scalar is a text too, unless it has the
form of a truth value, of a number, of a date or of nothing.  Underscores may
stand among the digits of a number and do not count.

Integers come in base two (`0b`), eight (`0`), sixteen (`0x`) and ten.  Places
of base sixty are parted by colons.  A double has a point, and an exponent that
has a sign.
-/

namespace LuceneQuery.Yaml

/-! ## Parts of numbers -/

/-- Digits without the underscores among them. -/
def withoutUnderscores (s : List Char) : List Char := s.filter (· != '_')

/-- Whether a character is a decimal digit or an underscore. -/
def isDigitMark (c : Char) : Bool := c.isDigit || c == '_'

/-- Whether a text is a digit with digits and underscores behind it. -/
def isDigits : List Char → Bool
  | [] => false
  | c :: s => c.isDigit && s.all isDigitMark

/-- Whether a text is a place of base sixty behind the first. -/
def isPlace : List Char → Bool
  | [c] => c.isDigit
  | [tens, c] => '0' ≤ tens && tens ≤ '5' && c.isDigit
  | _ => false

/-- The texts between the colons of a text. -/
def places : List Char → List (List Char)
  | [] => [[]]
  | c :: s =>
    match places s with
    | [] => []
    | p :: ps => if c = ':' then [] :: p :: ps else (c :: p) :: ps

/-- The value of a digit up to `f`. -/
def digitValue (c : Char) : Nat :=
  if c.isDigit then c.toNat - 48
  else if 'a' ≤ c then c.toNat - 87
  else c.toNat - 55

/-- The number that digits write in a base. -/
def valueIn (base : Nat) (digits : List Char) : Nat :=
  digits.foldl (fun n c => n * base + digitValue c) 0

/-! ## Integers -/

/-- The number that decimal digits write. -/
def decimalValue (digits : List Char) : Except Fault Nat :=
  let ds := withoutUnderscores digits
  if Number.maxDigits < ds.length then .error (.tooManyDigits ds.length)
  else .ok (Decimal.valueOf ds)

/-- The number that digits behind the mark of a base write. -/
def markedValue (base : Nat) (digits : List Char) : Except Fault Nat :=
  let ds := withoutUnderscores digits
  if ds = [] then .error (.noDigits base) else .ok (valueIn base ds)

/-- The number that places of base sixty write. -/
def placesValue (ps : List (List Char)) : Except Fault Nat := do
  .ok ((← ps.mapM decimalValue).foldl (fun n d => n * 60 + d) 0)

/-- Whether a character is a digit of base two, eight or sixteen, or an
underscore. -/
def isMarkIn (base : Nat) (c : Char) : Bool :=
  c == '_' || c.isDigit && c.toNat - 48 < base
    || base == 16 && ('a' ≤ c && c ≤ 'f' || 'A' ≤ c && c ≤ 'F')

/-- The natural number of a text of the form of an integer without a sign. -/
def natural? (s : List Char) : Option (Except Fault Nat) :=
  match s with
  | ['0'] => some (.ok 0)
  | '0' :: 'b' :: ds => if ds ≠ [] ∧ ds.all (isMarkIn 2) then some (markedValue 2 ds) else none
  | '0' :: 'x' :: ds => if ds ≠ [] ∧ ds.all (isMarkIn 16) then some (markedValue 16 ds) else none
  | '0' :: ds =>
    if ds.all (isMarkIn 8) then some (.ok (valueIn 8 (withoutUnderscores ds))) else none
  | _ =>
    match places s with
    | [ds] => if isDigits ds then some (decimalValue ds) else none
    | ds :: ps => if isDigits ds ∧ ps.all isPlace then some (placesValue (ds :: ps)) else none
    | [] => none

/-- The integer of a text of the form of one. -/
def int? (s : List Char) : Option (Except Fault Int) :=
  let (negative, rest) := Decimal.readSign s
  (natural? rest).map fun value => value.map fun (n : Nat) => if negative then -(n : Int) else n

/-! ## Doubles -/

/-- Whether a text is an exponent with a sign. -/
def isExponent : List Char → Bool
  | e :: sign :: ds =>
    (e == 'e' || e == 'E') && (sign == '-' || sign == '+') && ds ≠ [] && ds.all Char.isDigit
  | _ => false

/-- Whether a text is what may follow the point of a double. -/
def isFraction (s : List Char) : Bool :=
  let rest := s.dropWhile isDigitMark
  rest == [] || isExponent rest

/-- What stands before the first point and what stands behind it. -/
def atPoint? (s : List Char) : Option (List Char × List Char) :=
  match s.dropWhile (· != '.') with
  | [] => none
  | _ :: rest => some (s.takeWhile (· != '.'), rest)

/-- The greatest power of sixty that a double is near to. -/
def maxPower : Nat := 173

/-- The sum of places of base sixty, the last first, where `power` places
precede them. -/
def sumOfPlaces (power : Nat) (sum : Double) : List Double → Except Fault Double
  | [] => .ok sum
  | place :: rest =>
    if maxPower < power then .error .tooManyPlaces
    else
      let unit := Double.ofInt ((Nat.pow 60 power : Nat) : Int)
      sumOfPlaces (power + 1) (sum.add (place.mul unit)) rest

/-- The double that digits with a point write. -/
def doubleOf (s : List Char) : Double :=
  (Double.ofText? (withoutUnderscores s)).getD (Double.zero false)

/-- The double of a text of the form of one without a sign. -/
def magnitude? (s : List Char) : Option (Except Fault Double) :=
  match atPoint? s with
  | none => none
  | some (whole, fraction) =>
    match places whole with
    | [ds] =>
      if isDigits ds ∧ isFraction fraction then some (.ok (doubleOf s)) else none
    | ds :: ps =>
      if isDigits ds ∧ ps.all isPlace ∧ fraction.all isDigitMark then
        some (sumOfPlaces 0 (Double.zero false) ((places s).reverse.map doubleOf))
      else none
    | [] => none

/-- The infinity of a text that names it. -/
def infinity? (s : List Char) : Option Double :=
  let (negative, rest) := Decimal.readSign s
  if [".inf".toList, ".Inf".toList, ".INF".toList].contains rest then some (.infinite negative)
  else none

/-- Whether a text names a double that is not a number. -/
def isNan (s : List Char) : Bool := [".nan".toList, ".NaN".toList, ".NAN".toList].contains s

/-- The double of a text that begins with a point. -/
def pointed? (s : List Char) : Option Double :=
  match s with
  | '.' :: c :: rest => if c.isDigit ∧ isFraction rest then some (doubleOf s) else none
  | _ => none

/-- The double of a text of the form of one. -/
def double? (s : List Char) : Option (Except Fault Double) :=
  if isNan s then some (.ok (.nan 0))
  else
    match infinity? s, pointed? s with
    | some x, _ => some (.ok x)
    | none, some x => some (.ok x)
    | none, none =>
      let (negative, rest) := Decimal.readSign s
      (magnitude? rest).map fun value => value.map fun x => if negative then x.neg else x

/-! ## Words -/

/-- The words for true. -/
def trueWords : List String := ["yes", "Yes", "YES", "true", "True", "TRUE", "on", "On", "ON"]

/-- The words for false. -/
def falseWords : List String := ["no", "No", "NO", "false", "False", "FALSE", "off", "Off", "OFF"]

/-- The words for nothing. -/
def nullWords : List String := ["", "~", "null", "Null", "NULL"]

/-- The words that have a form of their own but no value here: the mark of a
merged mapping and the mark of a default value. -/
def bareMarks : List String := ["<<", "="]

/-! ## Scalars -/

/-- The value of a plain scalar. -/
def plainScalar (text : List Char) : Except Fault Scalar :=
  let s := String.ofList text
  if trueWords.contains s then .ok (.bool true)
  else if falseWords.contains s then .ok (.bool false)
  else if nullWords.contains s then .ok .null
  else if bareMarks.contains s then .error (.malformed .scalar)
  else
    match double? text, int? text, Timestamp.fields? text with
    | some x, _, _ => x.map fun x => .number (.double x)
    | none, some n, _ => n.map fun n => .number (.int n)
    | none, none, some fields => Timestamp.scalar fields
    | none, none, none => .ok (.str (.ofChars text))

/-- The value of a plain scalar as a key.  The mark of a default value is a text
there. -/
def keyOf (text : List Char) : Except Fault Scalar :=
  if text = ['='] then .ok (.str "=") else plainScalar text

example : (plainScalar "-0b1_01".toList).toOption = some (.number (.int (-5))) := by decide +kernel

example : (plainScalar "1:30".toList).toOption = some (.number (.int 90)) := by decide +kernel

example : (plainScalar "1e3".toList).toOption = some (.str "1e3") := by decide +kernel

end LuceneQuery.Yaml
