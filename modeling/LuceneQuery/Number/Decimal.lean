/-!
# Decimals

A decimal keeps the digits that it was written with: `2.50` and `2.5` are two
decimals of one value.  A finite decimal is `± coefficient * 10 ^ exponent`.
The others are the infinities and two kinds of not-a-number, each with the
digits that were written behind it.

`text` writes a decimal so that nothing is lost, with an exponent only where
the positional form would need zeros that are no digits of it.  `positional`
writes the value in full, without an exponent and without zeros at the end.
`rounded` keeps a number of significant digits, a half going to the even
neighbour.
-/

namespace LuceneQuery

/-! ## Powers and quotients -/

/-- A power of two. -/
abbrev twoTo (n : Nat) : Nat := Nat.pow 2 n

/-- A power of ten. -/
abbrev tenTo (n : Nat) : Nat := Nat.pow 10 n

/-- The nearest integer to `num / den`, a half going to the even neighbour. -/
def roundHalfEven (num den : Nat) : Nat :=
  let q := num / den
  let r := num % den
  if 2 * r < den then q
  else if den < 2 * r then q + 1
  else q + q % 2

example : roundHalfEven 5 2 = 2 ∧ roundHalfEven 7 2 = 4 ∧ roundHalfEven 8 3 = 3 := by decide

/-! ## Decimals -/

/-- A decimal. -/
inductive Decimal where
  /-- The number `± coefficient * 10 ^ exponent`. -/
  | finite (negative : Bool) (coefficient : Nat) (exponent : Int)
  /-- An infinity. -/
  | infinite (negative : Bool)
  /-- Not a number; a signaling one may not even be compared. -/
  | nan (negative signaling : Bool) (payload : List Char)
  deriving DecidableEq

namespace Decimal

instance : Inhabited Decimal := ⟨.finite false 0 0⟩

/-- The digits of a natural number. -/
def digits (n : Nat) : List Char := Nat.toDigits 10 n

/-- The sign in front of a number. -/
def sign (negative : Bool) : List Char := if negative then ['-'] else []

/-! ## Values -/

/-- The coefficient and exponent without the zeros at the end of the
coefficient; zero has the exponent zero. -/
def stripZeros : Nat → Nat → Int → Nat × Int
  | 0, c, e => (c, e)
  | fuel + 1, c, e =>
    if c = 0 then (0, 0)
    else if c % 10 = 0 then stripZeros fuel (c / 10) (e + 1)
    else (c, e)

/-- The one form of a value `coefficient * 10 ^ exponent` whose coefficient
does not end in a zero. -/
def reduced (coefficient : Nat) (exponent : Int) : Nat × Int :=
  stripZeros ((digits coefficient).length + 1) coefficient exponent

/-- Whether two decimals have one value.  A not-a-number has none. -/
def sameValue : Decimal → Decimal → Bool
  | .finite s c e, .finite t d f =>
    let x := reduced c e
    let y := reduced d f
    x == y && (s == t || x.1 == 0)
  | .infinite s, .infinite t => s == t
  | _, _ => false

/-! ## Rounding -/

/-- The coefficient of a value at a coarser place, rounded half to even.
Where all digits lie beyond the one after the place nothing is left. -/
def coefficientAt (coefficient : Nat) (exponent place : Int) : Nat :=
  let drop := (place - exponent).toNat
  if (digits coefficient).length < drop then 0
  else roundHalfEven coefficient (tenTo drop)

/-- The exponent of the last digit that a value of unlimited range would keep
among `precision` significant digits. -/
def keptPlace (precision : Nat) (coefficient : Nat) (exponent : Int) : Int :=
  exponent + (digits coefficient).length - precision

/-- How many significant digits a weight keeps. -/
def precision : Nat := 28

/-- The exponent of the last place that any weight keeps. -/
def leastPlace : Int := -1000026

/-- A value with the digits that a weight keeps, in reduced form. -/
def rounded (coefficient : Nat) (exponent : Int) : Nat × Int :=
  let place := max (keptPlace precision coefficient exponent) leastPlace
  if place ≤ exponent then reduced coefficient exponent
  else reduced (coefficientAt coefficient exponent place) place

/-! ## Text -/

/-- Digits with a point before the last `places` of them, filled up with zeros
on the left so that at least one digit precedes it. -/
def withPoint (ds : List Char) (places : Nat) : List Char :=
  let ds := List.replicate (places + 1 - ds.length) '0' ++ ds
  ds.take (ds.length - places) ++ '.' :: ds.drop (ds.length - places)

/-- The value `coefficient * 10 ^ exponent` in full, for a coefficient that
does not end in a zero. -/
def positional (coefficient : Nat) (exponent : Int) : List Char :=
  if 0 ≤ exponent then digits coefficient ++ List.replicate exponent.toNat '0'
  else withPoint (digits coefficient) (-exponent).toNat

/-- An exponent with its sign. -/
def exponentText (e : Int) : List Char :=
  'E' :: (if e < 0 then '-' else '+') :: digits e.natAbs

/-- The digits, point and exponent of a finite decimal. -/
def magnitudeText (coefficient : Nat) (exponent : Int) : List Char :=
  let ds := digits coefficient
  let adjusted := exponent + ds.length - 1
  if exponent = 0 then ds
  else if exponent < 0 ∧ -6 ≤ adjusted then withPoint ds (-exponent).toNat
  else (if ds.length = 1 then ds else withPoint ds (ds.length - 1)) ++ exponentText adjusted

/-- A decimal as it was written. -/
def text : Decimal → List Char
  | .finite negative coefficient exponent => sign negative ++ magnitudeText coefficient exponent
  | .infinite negative => sign negative ++ "Infinity".toList
  | .nan negative signaling payload =>
    sign negative ++ (if signaling then "sNaN".toList else "NaN".toList) ++ payload

/-! ## Reading -/

/-- The value of decimal digits. -/
def valueOf (ds : List Char) : Nat := Nat.ofDigitChars 10 ds 0

/-- A text split after its longest start of digits. -/
def spanDigits (s : List Char) : List Char × List Char :=
  (s.takeWhile Char.isDigit, s.dropWhile Char.isDigit)

/-- The sign at the start of a text, and the rest. -/
def readSign : List Char → Bool × List Char
  | '-' :: s => (true, s)
  | '+' :: s => (false, s)
  | s => (false, s)

/-- An exponent, which may be missing, up to the end of the text. -/
def readExponent? : List Char → Option Int
  | [] => some 0
  | c :: s =>
    if c = 'e' ∨ c = 'E' then
      let (negative, ds) := readSign s
      if ds ≠ [] ∧ ds.all Char.isDigit then
        some (if negative then -(valueOf ds : Int) else valueOf ds)
      else none
    else none

/-- Digits with at most one point and an exponent, up to the end of the text. -/
def readMagnitude? (s : List Char) : Option (Nat × Int) :=
  let (whole, rest) := spanDigits s
  let (fraction, rest) := match rest with
    | '.' :: rest => spanDigits rest
    | _ => ([], rest)
  if whole ++ fraction = [] then none
  else (readExponent? rest).map fun e => (valueOf (whole ++ fraction), e - fraction.length)

/-- What follows the sign of a decimal. -/
def readUnsigned? (negative : Bool) (s : List Char) : Option Decimal :=
  match readMagnitude? s with
  | some (coefficient, exponent) => some (.finite negative coefficient exponent)
  | none =>
    let lower := s.map Char.toLower
    let payload (k : Nat) := (s.drop k).dropWhile (· == '0')
    if lower = "inf".toList ∨ lower = "infinity".toList then some (.infinite negative)
    else if lower.take 3 = "nan".toList ∧ (s.drop 3).all Char.isDigit then
      some (.nan negative false (payload 3))
    else if lower.take 4 = "snan".toList ∧ (s.drop 4).all Char.isDigit then
      some (.nan negative true (payload 4))
    else none

/-- The decimal that a text writes. -/
def ofText? (s : List Char) : Option Decimal :=
  let (negative, rest) := readSign s
  readUnsigned? negative rest

end Decimal

end LuceneQuery
