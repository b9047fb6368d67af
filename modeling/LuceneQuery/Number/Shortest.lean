import LuceneQuery.Number.Double

/-!
# The shortest decimal of a double

A double is written with the fewest decimal digits that read back to it.  Of
the decimals of that many digits the one nearest to the double is taken, and
of two equally near ones that with the even last digit.

The search goes up from one digit.  With `n` digits the decimals near a number
lie on a grid, a power of ten apart; only the two neighbours of the number on
the grid are candidates.  Reading back is asked of the reader itself, so what
is found does read back.  The search ends at seventeen digits, which always
suffice; were they not to, the exact decimal of the double would be written.
-/

namespace LuceneQuery.Double

/-- The number of decimal digits before the point of `num / den`, negative if
zeros follow the point: the least `k` with `num / den < 10 ^ k`. -/
def decimalMagnitude (num den : Nat) : Int :=
  let k : Int := ((Nat.toDigits 10 num).length : Int) - ((Nat.toDigits 10 den).length : Int)
  if num * tenTo (-k).toNat < den * tenTo k.toNat then k else k + 1

/-- A decimal `digits * 10 ^ exponent`. -/
abbrev DecimalDigits := Nat × Int

/-- The candidates for `num / den` on the grid of `10 ^ place`, the better one
first. -/
def neighbours (num den : Nat) (place : Int) : List DecimalDigits :=
  let n := num * tenTo (-place).toNat
  let d := den * tenTo place.toNat
  let below := n / d
  let r := n % d
  if 2 * r < d ∨ (2 * r = d ∧ below % 2 = 0) then [(below, place), (below + 1, place)]
  else [(below + 1, place), (below, place)]

/-- A decimal without the zeros at the end of its digits. -/
def dropZeros : Nat → DecimalDigits → DecimalDigits
  | 0, x => x
  | fuel + 1, (digits, exponent) =>
    if digits ≠ 0 ∧ digits % 10 = 0 then dropZeros fuel (digits / 10, exponent + 1)
    else (digits, exponent)

/-- The first of the digit counts from `17 - count + 1` to 17 with a neighbour
that reads back. -/
def search (num den : Nat) (magnitude : Int) (readsBack : DecimalDigits → Bool) :
    Nat → Option DecimalDigits
  | 0 => none
  | count + 1 =>
    let length : Int := 17 - count
    match (neighbours num den (magnitude - length)).find? readsBack with
    | some x => some x
    | none => search num den magnitude readsBack count

/-- The shortest decimal that reads back to `mantissa * 2 ^ exponent`. -/
def shortestDigits (mantissa : Nat) (exponent : Int)
    (canonical : CanonicalDouble mantissa exponent) :
    DecimalDigits :=
  let num := mantissa * twoTo exponent.toNat
  let den := twoTo (-exponent).toNat
  let readsBack (x : DecimalDigits) : Bool :=
    ofDecimal false x.1 x.2 = .finite false mantissa exponent canonical
  if mantissa = 0 then (0, 0)
  else
    match search num den (decimalMagnitude num den) readsBack 17 with
    | some x => dropZeros 20 x
    | none => (num * Nat.pow 5 (-exponent).toNat, -((-exponent).toNat : Int))

end LuceneQuery.Double
