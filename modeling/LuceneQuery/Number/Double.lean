import LuceneQuery.Number.Decimal

/-!
# Doubles

A double is a binary floating-point number of 64 bits, here with its exact
value in the open: a finite one is `± mantissa * 2 ^ exponent`, with a
mantissa below `2 ^ 53` and an exponent from -1074 to 971.  The canonical form
has a mantissa of full length unless the exponent is the least one, so each
number has one form, and zero has one for each sign.

What is not a number carries a payload, which no text shows.  Only the same
payload makes two of them one.

A quotient of naturals is rounded once, to the nearest double, a half going to
the even mantissa.  What would need a larger exponent is infinite.  Sums and
products are computed exactly and rounded once.
-/

namespace LuceneQuery

/-- Whether `mantissa * 2 ^ exponent` is the canonical form of a double. -/
def CanonicalDouble (mantissa : Nat) (exponent : Int) : Prop :=
  mantissa < twoTo 53 ∧ -1074 ≤ exponent ∧ exponent ≤ 971
    ∧ (twoTo 52 ≤ mantissa ∨ exponent = -1074)

instance (mantissa : Nat) (exponent : Int) : Decidable (CanonicalDouble mantissa exponent) :=
  inferInstanceAs (Decidable (_ ∧ _ ∧ _ ∧ _))

/-- A double. -/
inductive Double where
  /-- The number `± mantissa * 2 ^ exponent`. -/
  | finite (negative : Bool) (mantissa : Nat) (exponent : Int)
      (canonical : CanonicalDouble mantissa exponent)
  /-- An infinity. -/
  | infinite (negative : Bool)
  /-- Not a number. -/
  | nan (payload : Nat)
  deriving DecidableEq

namespace Double

/-- Zero with a sign. -/
def zero (negative : Bool) : Double := .finite negative 0 (-1074) (by decide)

instance : Inhabited Double := ⟨zero false⟩

/-- The number one. -/
def one : Double := .finite false (twoTo 52) (-52) (by decide)

/-- Whether a double is a number other than the infinities. -/
def isFinite : Double → Bool
  | .finite .. => true
  | _ => false

/-- Whether a double is below zero. -/
def isNegative : Double → Bool
  | .finite negative mantissa _ _ => negative && mantissa != 0
  | .infinite negative => negative
  | .nan _ => false

/-- Whether a double is a zero of either sign. -/
def isZero : Double → Bool
  | .finite _ mantissa _ _ => mantissa == 0
  | _ => false

/-- The double with the other sign. -/
def neg : Double → Double
  | .finite negative mantissa exponent h => .finite (!negative) mantissa exponent h
  | .infinite negative => .infinite (!negative)
  | .nan payload => .nan payload

/-! ## Rounding -/

/-- The exponent of the last place of the double nearest to `num / den`. -/
def lastPlace (num den : Nat) : Int :=
  let e : Int := (num.log2 : Int) - den.log2 - 52
  let e := if num * twoTo (-e).toNat < twoTo 52 * den * twoTo e.toNat then e - 1 else e
  max e (-1074)

/-- The double nearest to `± num / den`, for a `den` above zero. -/
def ofRatio (negative : Bool) (num den : Nat) : Double :=
  if num = 0 then zero negative
  else
    let e := lastPlace num den
    let m := roundHalfEven (num * twoTo (-e).toNat) (den * twoTo e.toNat)
    let (m, e) := if m = twoTo 53 then (twoTo 52, e + 1) else (m, e)
    if h : CanonicalDouble m e then .finite negative m e h else .infinite negative

/-- How far from zero a power of ten can be in a finite double or in the last
place that one is rounded at. -/
def decimalReach : Int := 400

/-- The double nearest to `± digits * 10 ^ exponent`.  A power of ten that no
double reaches is not computed. -/
def ofDecimal (negative : Bool) (digits : Nat) (exponent : Int) : Double :=
  let magnitude := ((Nat.toDigits 10 digits).length : Int) + exponent
  if digits = 0 ∨ magnitude < -decimalReach then zero negative
  else if decimalReach < magnitude then .infinite negative
  else ofRatio negative (digits * tenTo exponent.toNat) (tenTo (-exponent).toNat)

/-- The double nearest to an integer, which is infinite if none is near. -/
def ofInt (n : Int) : Double := ofRatio (n < 0) n.natAbs 1

/-! ## Arithmetic -/

/-- The product of two doubles. -/
def mul : Double → Double → Double
  | .nan p, _ => .nan p
  | _, .nan p => .nan p
  | .infinite s, .infinite t => .infinite (s ^^ t)
  | .infinite s, .finite t m _ _ => if m = 0 then .nan 0 else .infinite (s ^^ t)
  | .finite s m _ _, .infinite t => if m = 0 then .nan 0 else .infinite (s ^^ t)
  | .finite s m e _, .finite t n f _ =>
    ofRatio (s ^^ t) (m * n * twoTo (e + f).toNat) (twoTo (-(e + f)).toNat)

/-- A signed mantissa at an exponent not above its own. -/
def shifted (negative : Bool) (mantissa : Nat) (exponent place : Int) : Int :=
  let n : Int := (mantissa * twoTo (exponent - place).toNat : Nat)
  if negative then -n else n

/-- The sum of two doubles.  A sum of zero is negative only if both parts are. -/
def add : Double → Double → Double
  | .nan p, _ => .nan p
  | _, .nan p => .nan p
  | .infinite s, .infinite t => if s = t then .infinite s else .nan 0
  | .infinite s, .finite .. => .infinite s
  | .finite .., .infinite t => .infinite t
  | .finite s m e _, .finite t n f _ =>
    let place := min e f
    let sum := shifted s m e place + shifted t n f place
    if sum = 0 then zero (s && t)
    else ofRatio (sum < 0) (sum.natAbs * twoTo place.toNat) (twoTo (-place).toNat)

end Double

end LuceneQuery
