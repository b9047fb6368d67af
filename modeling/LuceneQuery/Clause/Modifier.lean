import LuceneQuery.Clause.Fault
import LuceneQuery.Text.Blank
import LuceneQuery.Text.Case

/-!
# Modifiers

Each modifier fills one slot of a clause and has a default at which the slot
is empty.

* The operator says whether a clause must or must not match: `+`, `-`.
* The field says where to match: `name:`.
* The kind of a range chooses its brackets: `[ ]`, or braces.
* The distance says how far a term or the words of a phrase may be off: `~2`.
* The boost weighs a clause: `^2.5`.

A modifier checks what it is told.  A weight is a finite number not below
zero.  It is written with at most 28 significant digits, without an exponent
and without zeros at the end; the weight one is not written.
-/

namespace LuceneQuery

/-! ## The operator -/

/-- Whether a clause must, must not or may match. -/
inductive Operator where
  /-- The clause may match. -/
  | optional
  /-- The clause must match. -/
  | required
  /-- The clause must not match. -/
  | prohibited
  deriving DecidableEq, Repr

namespace Operator

/-- The text of an operator. -/
def sign : Operator → Text
  | .optional => []
  | .required => "+"
  | .prohibited => "-"

/-- The name of an operator. -/
def name : Operator → Text
  | .optional => "OPTIONAL"
  | .required => "REQUIRED"
  | .prohibited => "PROHIBITED"

/-- The names that are offered where another one is refused. -/
def offered : List Text := ["optional", "prohibited", "required"]

/-- The operator of a name, in any case and between any blanks. -/
def ofName? (name : Text) : Option Operator :=
  let upper := Text.uppercase (Text.trim name)
  [optional, required, prohibited].find? (·.name == upper)

/-- The operator of a name, or what is wrong with it. -/
def ofName (name : Text) : Except ClauseFault Operator :=
  match ofName? name with
  | some op => .ok op
  | none => .error (.argument .operator (.str name) (.notOneOf offered))

/-- The operator that a value names, or what is wrong with it.  Blanks can be trimmed
from octets too, but these are the name of no operator. -/
def ofValue : Value → Except ClauseFault Operator
  | .str name => ofName name
  | .scalar (.bytes octets) =>
    .error (.argument .operator (.scalar (.bytes octets)) (.notOneOf offered))
  | v => .error (.lookup (.notAText v.longTypeName))

end Operator

/-! ## The field -/

/-- The text of a field; the empty name is the default field. -/
def fieldLabel (name : Text) : Text := if name.isEmpty then [] else name ++ ":"

/-! ## The kind of a range -/

/-- Why a value is not looked up among names, if it is not.  A pair is looked up if both
its parts are. -/
def lookupReason? : Value → Option LookupReason
  | .decimal (.nan _ true _) => some .signaling
  | .scalar _ => none
  | .pair a b => (lookupReason? a).orElse fun _ => lookupReason? b
  | v => some (.compound v.typeName)

/-- Whether the bounds of a range belong to it. -/
inductive RangeKind where
  /-- The bounds belong to the range. -/
  | inclusive
  /-- The bounds do not belong to the range. -/
  | exclusive
  deriving DecidableEq, Repr

namespace RangeKind

/-- The opening bracket. -/
def opening : RangeKind → Text
  | .inclusive => "["
  | .exclusive => "\x7b"

/-- The closing bracket. -/
def closing : RangeKind → Text
  | .inclusive => "]"
  | .exclusive => "\x7d"

/-- The name of a kind. -/
def name : RangeKind → Text
  | .inclusive => "inclusive"
  | .exclusive => "exclusive"

/-- The names that are offered where another one is refused. -/
def offered : List Text := ["exclusive", "inclusive"]

/-- The kind of a name, if it has one. -/
def ofName? (name : Text) : Option RangeKind := [inclusive, exclusive].find? (·.name == name)

/-- The kind that a value names, if it names one. -/
def ofValue? : Value → Option RangeKind
  | .str name => ofName? name
  | _ => none

/-- The kind that a value names, or what is wrong with it. -/
def ofValue (v : Value) : Except ClauseFault RangeKind :=
  match lookupReason? v with
  | some reason => .error (.lookup reason)
  | none =>
    match ofValue? v with
    | some kind => .ok kind
    | none => .error (.ofArgument .rangeType v (.notOneOf offered))

end RangeKind

/-! ## Distances -/

/-- The integer that a value is, or what is wrong with it. -/
def integerArgument (argument : Argument) : Value → Except ClauseFault Int
  | .int n => .ok n
  | v => .error (.ofArgument argument v .notAnInteger)

/-- The greatest edit distance. -/
def maxFuzziness : Nat := 2

/-- The edit distance that a value is, or what is wrong with it. -/
def fuzzinessOf (v : Value) : Except ClauseFault Int := do
  let n ← integerArgument .fuzziness v
  if 0 ≤ n ∧ n ≤ maxFuzziness then .ok n
  else .error (.ofArgument .fuzziness v (.outOfRange 0 maxFuzziness))

/-- The word distance that a value is, or what is wrong with it. -/
def slopOf (v : Value) : Except ClauseFault Int := do
  let n ← integerArgument .proximity v
  if n < 0 then .error (.ofArgument .proximity v .negative) else .ok n

/-- The text of a distance; the distance zero is not written. -/
def distanceSuffix (n : Int) : Text := if n = 0 then [] else "~" ++ Text.ofChars (Number.intText n)

/-! ## The boost -/

/-- The weight of a clause that was not given one. -/
def defaultWeight : Number := .double Double.one

/-- What keeps a number from being compared with the doubles, if anything. -/
def incomparable? : Number → Option ClauseFault
  | .int n => if (Double.ofInt n).isFinite then none else some .tooLarge
  | .decimal (.nan _ true _) => some .signaling
  | _ => none

/-- The weight that a number is, or what is wrong with it. -/
def weightOfNumber (n : Number) : Except ClauseFault Number :=
  match incomparable? n with
  | some fault => .error fault
  | none =>
    if n.toDouble.isFinite = false then .error (.argument .boost (.number n) .notFinite)
    else if n.isNegative then .error (.argument .boost (.number n) .negative)
    else .ok n

/-- The weight that a value is, or what is wrong with it. -/
def weightOf : Value → Except ClauseFault Number
  | .number n => weightOfNumber n
  | v => .error (.ofArgument .boost v .notANumber)

/-- The digits of a weight. -/
def weightText (n : Number) : List Char :=
  match n.written with
  | .finite negative coefficient exponent =>
    let x := Decimal.rounded coefficient exponent
    Decimal.sign negative ++ Decimal.positional x.1 x.2
  | d => d.text

/-- Whether a number is one. -/
def isUnitWeight (n : Number) : Bool := n.sameValue (.int 1)

/-- The text of a boost; the weight one is not written. -/
def boostSuffix (n : Number) : Text :=
  if isUnitWeight n then [] else "^" ++ Text.ofChars (weightText n)

end LuceneQuery
