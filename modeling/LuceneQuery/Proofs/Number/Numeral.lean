import LuceneQuery.Clause.Modifier

/-!
# The characters of numbers

The text of an integer determines the integer, and the text of a finite weight
holds nothing but digits, a point and a minus sign.  What stands behind a number
in a query is none of these, so a reader knows where a number ends.
-/

namespace LuceneQuery

/-- Whether a character can stand in a number without an exponent. -/
def isNumeral (c : Char) : Bool := c.isDigit || c == '.' || c == '-'

theorem isNumeral_of_isDigit {c : Char} (h : c.isDigit = true) : isNumeral c = true := by
  rw [isNumeral, h, Bool.true_or, Bool.true_or]

namespace Decimal

theorem isNumeral_of_mem_digits {n : Nat} {c : Char} (h : c ∈ digits n) : isNumeral c = true :=
  isNumeral_of_isDigit (Nat.isDigit_of_mem_toDigits (by decide) (by decide) h)

/-- A natural number is known by its digits. -/
theorem digits_injective : Function.Injective digits := by
  intro m n h
  have hread := congrArg (fun ds => Nat.ofDigitChars 10 ds 0) h
  simpa only [digits, Nat.ofDigitChars_ten_toDigits] using hread

theorem isNumeral_of_mem_sign {negative : Bool} {c : Char} (h : c ∈ sign negative) :
    isNumeral c = true := by
  cases negative with
  | false => cases h
  | true =>
    rw [List.mem_singleton.1 h]
    decide

theorem isNumeral_of_mem_zeros {n : Nat} {c : Char} (h : c ∈ List.replicate n '0') :
    isNumeral c = true := by
  rw [(List.mem_replicate.1 h).2]
  decide

theorem isNumeral_of_mem_withPoint {ds : List Char} {places : Nat}
    (hds : ∀ c ∈ ds, isNumeral c = true) :
    ∀ c ∈ withPoint ds places, isNumeral c = true := by
  have hfilled : ∀ c ∈ List.replicate (places + 1 - ds.length) '0' ++ ds, isNumeral c = true := by
    intro c hc
    rcases List.mem_append.1 hc with hc | hc
    · exact isNumeral_of_mem_zeros hc
    · exact hds c hc
  intro c hc
  rw [withPoint, List.mem_append, List.mem_cons] at hc
  rcases hc with hc | rfl | hc
  · exact hfilled c (List.mem_of_mem_take hc)
  · decide
  · exact hfilled c (List.mem_of_mem_drop hc)

/-- A number in full has characters of numbers alone. -/
theorem isNumeral_of_mem_positional (coefficient : Nat) (exponent : Int) :
    ∀ c ∈ positional coefficient exponent, isNumeral c = true := by
  intro c hc
  unfold positional at hc
  split at hc
  · rcases List.mem_append.1 hc with hc | hc
    · exact isNumeral_of_mem_digits hc
    · exact isNumeral_of_mem_zeros hc
  · exact isNumeral_of_mem_withPoint (fun _ => isNumeral_of_mem_digits) c hc

end Decimal

namespace Number

theorem isNumeral_of_mem_intText {n : Int} {c : Char} (h : c ∈ intText n) :
    isNumeral c = true := by
  rcases List.mem_append.1 h with h | h
  · exact Decimal.isNumeral_of_mem_sign h
  · exact Decimal.isNumeral_of_mem_digits h

/-- The text of an integer that is not negative has no sign in front. -/
theorem head_digits_ne_minus {n : Nat} {s : List Char} : Decimal.digits n ≠ '-' :: s := by
  intro h
  have hdigit : ('-' : Char).isDigit = true :=
    Nat.isDigit_of_mem_toDigits (b := 10) (n := n) (by decide) (by decide)
      (show '-' ∈ Decimal.digits n from h ▸ List.mem_cons_self)
  exact absurd hdigit (by decide)

/-- An integer is known by its text. -/
theorem intText_injective : Function.Injective intText := by
  intro m n h
  unfold intText Decimal.sign at h
  by_cases hm : m < 0 <;> by_cases hn : n < 0 <;> simp only [hm, hn, decide_true, decide_false,
    if_true, Bool.false_eq_true, if_false, List.nil_append, List.cons_append] at h
  · have habs := Decimal.digits_injective (List.cons_eq_cons.1 h).2
    omega
  · exact absurd h.symm head_digits_ne_minus
  · exact absurd h head_digits_ne_minus
  · have habs := Decimal.digits_injective h
    omega

/-- A number that is near to a finite double is written as a finite decimal. -/
theorem written_of_isFinite {n : Number} (h : n.toDouble.isFinite = true) :
    ∃ negative coefficient exponent, n.written = .finite negative coefficient exponent := by
  cases n with
  | int n => exact ⟨_, _, _, rfl⟩
  | double x =>
    cases x with
    | finite negative mantissa exponent canonical => exact ⟨_, _, _, rfl⟩
    | infinite negative => cases h
    | nan payload => cases h
  | decimal d =>
    cases d with
    | finite negative coefficient exponent => exact ⟨_, _, _, rfl⟩
    | infinite negative => cases h
    | nan negative signaling payload => cases h

end Number

theorem isNumeral_of_mem_weightText {n : Number} (h : n.toDouble.isFinite = true) :
    ∀ c ∈ weightText n, isNumeral c = true := by
  obtain ⟨negative, coefficient, exponent, hwritten⟩ := Number.written_of_isFinite h
  intro c hc
  rw [weightText, hwritten] at hc
  rcases List.mem_append.1 hc with hc | hc
  · exact Decimal.isNumeral_of_mem_sign hc
  · exact Decimal.isNumeral_of_mem_positional _ _ c hc

end LuceneQuery
