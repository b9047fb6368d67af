/-!
# Code points

A code point is a number below 0x110000.  Most of them are the numbers of
characters.  Those from U+D800 to U+DFFF are the *halves* of the pairs that
write the characters beyond U+FFFF in units of 16 bits, and are no characters
of their own, but an escape can name one.

Code points are in the order of their numbers.  A large set of them is kept as a
list of closed ranges, ascending and apart.  A search stops at the first range
that ends at or after the code point it looks for.
-/

namespace LuceneQuery

/-- A code point. -/
inductive CodePoint where
  /-- A character. -/
  | char (c : Char)
  /-- A half, by its distance from U+D800. -/
  | half (n : Fin 0x800)
  deriving DecidableEq, Repr

namespace CodePoint

instance : Coe Char CodePoint := ⟨.char⟩

/-- The number of the first half. -/
def firstHalf : Nat := 0xD800

/-- The number of a code point. -/
def number : CodePoint → Nat
  | .char c => c.toNat
  | .half n => firstHalf + n

/-- The code point of a number. -/
def ofNumber? (n : Nat) : Option CodePoint :=
  if h : firstHalf ≤ n ∧ n < firstHalf + 0x800 then some (.half ⟨n - firstHalf, by omega⟩)
  else if n < 0x110000 then some (.char (Char.ofNat n))
  else none

/-- Whether a code point is a half. -/
def isHalf : CodePoint → Bool
  | .char _ => false
  | .half _ => true

/-- Whether a code point is a character of a class. -/
def isIn (holds : Char → Bool) : CodePoint → Bool
  | .char c => holds c
  | .half _ => false

instance : LT CodePoint := ⟨fun a b => a.number < b.number⟩

instance : DecidableLT CodePoint := fun a b => inferInstanceAs (Decidable (a.number < b.number))

example : ofNumber? 0xD83D = some (.half 0x3D) ∧ ofNumber? 0x41 = some 'A' := by decide

end CodePoint

/-- Whether a code point lies in one of the ranges, which are ascending. -/
def Text.inRanges : List (Nat × Nat) → Nat → Bool
  | [], _ => false
  | (first, last) :: rest, n => if n ≤ last then first ≤ n else inRanges rest n

end LuceneQuery
