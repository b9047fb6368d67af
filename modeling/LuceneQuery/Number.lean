import LuceneQuery.Number.Decimal
import LuceneQuery.Number.Shortest

/-!
# Numbers

A number in a configuration or a weight is an integer of any size, a double or
a decimal.  The three keep apart in text (`2`, `2.0`, `2.00`) and are compared
by exact value.

A double is written with the fewest digits that read back to it: positionally,
with at least one digit after the point, if its first digit stands from the
fourth place after the point to the sixteenth before it, and with a signed
exponent of at least two digits otherwise.

An integer of more than 4300 digits is neither read from its digits nor
written.
-/

namespace LuceneQuery

/-! ## The text of a double -/

namespace Double

/-- Whether a first digit at `10 ^ place` is written positionally. -/
def isPositional (place : Int) : Bool := -4 ≤ place && place < 16

/-- A signed exponent of at least two digits. -/
def exponentText (e : Int) : List Char :=
  let ds := Decimal.digits e.natAbs
  'e' :: (if e < 0 then '-' else '+') :: (List.replicate (2 - ds.length) '0' ++ ds)

/-- The text of `digits * 10 ^ exponent`. -/
def layout (digits : Nat) (exponent : Int) : List Char :=
  let ds := Decimal.digits digits
  let place := exponent + ds.length - 1
  if isPositional place then
    if 0 ≤ exponent then ds ++ List.replicate exponent.toNat '0' ++ ['.', '0']
    else Decimal.withPoint ds (-exponent).toNat
  else
    (if ds.length = 1 then ds else Decimal.withPoint ds (ds.length - 1)) ++ exponentText place

/-- The text of a double. -/
def text : Double → List Char
  | .finite negative mantissa exponent h =>
    let x := shortestDigits mantissa exponent h
    Decimal.sign negative ++ layout x.1 x.2
  | .infinite negative => Decimal.sign negative ++ "inf".toList
  | .nan _ => "nan".toList

/-- The double that a text of digits with a point and an exponent writes. -/
def ofText? (s : List Char) : Option Double :=
  match Decimal.ofText? s with
  | some (.finite negative coefficient exponent) => some (ofDecimal negative coefficient exponent)
  | some (.infinite negative) => some (.infinite negative)
  | some (.nan ..) => some (.nan 0)
  | none => none

end Double

/-- The double nearest to a decimal. -/
def Decimal.toDouble : Decimal → Double
  | .finite negative coefficient exponent => Double.ofDecimal negative coefficient exponent
  | .infinite negative => .infinite negative
  | .nan .. => .nan 0

/-! ## Numbers -/

/-- A number. -/
inductive Number where
  /-- An integer. -/
  | int (n : Int)
  /-- A double. -/
  | double (x : Double)
  /-- A decimal. -/
  | decimal (d : Decimal)
  deriving DecidableEq

namespace Number

instance : Inhabited Number := ⟨.int 0⟩

/-- The digits of an integer behind its sign. -/
def intText (n : Int) : List Char := Decimal.sign (n < 0) ++ Decimal.digits n.natAbs

/-- How many digits an integer may have in a text. -/
def maxDigits : Nat := 4300

/-- Whether a number has few enough digits to be written. -/
def isWritable : Number → Bool
  | .int n => n.natAbs < tenTo maxDigits
  | _ => true

/-- The message about an integer with too many digits. -/
def limitMessage (detail : String) : String :=
  "Exceeds the limit (" ++ toString maxDigits ++ " digits) for integer string conversion" ++ detail
    ++ "; use sys.set_int_max_str_digits() to increase the limit"

/-- The text of a number. -/
def text : Number → List Char
  | .int n => intText n
  | .double x => x.text
  | .decimal d => d.text

/-- The decimal that the text of a number writes. -/
def written : Number → Decimal
  | .int n => .finite (n < 0) n.natAbs 0
  | .double (.finite negative mantissa exponent h) =>
    let x := Double.shortestDigits mantissa exponent h
    .finite negative x.1 x.2
  | .double (.infinite negative) => .infinite negative
  | .double (.nan _) => .nan false false []
  | .decimal d => d

/-- The exact value of a number, as a decimal. -/
def exact : Number → Decimal
  | .int n => .finite (n < 0) n.natAbs 0
  | .double (.finite negative mantissa exponent _) =>
    let coefficient := mantissa * twoTo exponent.toNat * Nat.pow 5 (-exponent).toNat
    .finite negative coefficient (min exponent 0)
  | .double (.infinite negative) => .infinite negative
  | .double (.nan _) => .nan false false []
  | .decimal d => d

/-- Whether two numbers have one value. -/
def sameValue (a b : Number) : Bool := a.exact.sameValue b.exact

/-- Whether two numbers are one key of a mapping: they have one value or are
the same double that is not a number. -/
def sameKey (a b : Number) : Bool :=
  match a, b with
  | .double (.nan p), .double (.nan q) => p == q
  | _, _ => a.sameValue b

/-- Whether a number is zero. -/
def isZero : Number → Bool
  | .int n => n == 0
  | .double x => x.isZero
  | .decimal (.finite _ coefficient _) => coefficient == 0
  | .decimal _ => false

/-- Whether a number is below zero. -/
def isNegative : Number → Bool
  | .int n => n < 0
  | .double x => x.isNegative
  | .decimal (.finite negative coefficient _) => negative && coefficient != 0
  | .decimal (.infinite negative) => negative
  | .decimal (.nan ..) => false

/-- The double nearest to a number. -/
def toDouble : Number → Double
  | .int n => Double.ofInt n
  | .double x => x
  | .decimal d => d.toDouble

end Number

end LuceneQuery
