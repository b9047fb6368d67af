import LuceneQuery.Clause.Modifier
import Mathlib.Algebra.Order.Field.Power
import Mathlib.Data.Int.Log
import Mathlib.Data.Rat.Floor
import Mathlib.Tactic.FieldSimp
import Mathlib.Tactic.Linarith
import Mathlib.Tactic.NormNum
import Mathlib.Tactic.Positivity
import Mathlib.Tactic.Ring

/-!
# The value of a number

The value of an integer, of a finite double and of a finite decimal is a
rational number.  This is what a number is compared by, whatever its text
(`Number.value?_exact`, `isUnitWeight_iff`).

A value other than zero is `coefficient * 10 ^ exponent` in many ways, and in one
way with a coefficient that does not end in a zero, its reduced form
(`Decimal.reduced_eq_iff`).  The place of its first digit is the same in all of
them (`Decimal.log_magnitude`).
-/

namespace LuceneQuery

/-! ## Powers -/

theorem cast_tenTo (n : Nat) : ((tenTo n : Nat) : ℚ) = 10 ^ n := Nat.cast_pow 10 n

theorem cast_twoTo (n : Nat) : ((twoTo n : Nat) : ℚ) = 2 ^ n := Nat.cast_pow 2 n

theorem tenTo_ne_zero (n : Nat) : tenTo n ≠ 0 := (Nat.pow_pos (by decide)).ne'

theorem twoTo_ne_zero (n : Nat) : twoTo n ≠ 0 := (Nat.pow_pos (by decide)).ne'

/-- A power is the quotient of two natural ones, one of which is one. -/
theorem zpow_eq_div {b : ℚ} (hb : b ≠ 0) (e : Int) : b ^ e = b ^ e.toNat / b ^ (-e).toNat := by
  rw [← zpow_natCast, ← zpow_natCast, ← zpow_sub₀ hb]
  congr 1
  omega

/-- A quotient is scaled by a power with naturals alone. -/
theorem mul_pow_div_mul_pow {b : Nat} (hb : b ≠ 0) (num den : Nat) (e : Int) :
    ((num * Nat.pow b (-e).toNat : Nat) : ℚ) / (den * Nat.pow b e.toNat : Nat) * (b : ℚ) ^ e =
      num / den := by
  have hbq : (b : ℚ) ≠ 0 := by exact_mod_cast hb
  rw [zpow_eq_div hbq, Nat.cast_mul, Nat.cast_mul, Nat.pow_eq, Nat.pow_eq, Nat.cast_pow,
    Nat.cast_pow]
  by_cases hden : (den : ℚ) = 0
  · simp [hden]
  · field_simp

/-- A number between two neighbouring powers has the lower one as its first place. -/
theorem log_eq_of_le_of_lt {b : Nat} (hb : 1 < b) {q : ℚ} {k : Int} (hlow : (b : ℚ) ^ k ≤ q)
    (hhigh : q < (b : ℚ) ^ (k + 1)) : Int.log b q = k := by
  have hq : 0 < q := (zpow_pos (by exact_mod_cast Nat.zero_lt_of_lt hb) k).trans_le hlow
  have hle := (Int.zpow_le_iff_le_log hb hq).1 hlow
  have hlt := (Int.lt_zpow_iff_log_lt hb hq).1 hhigh
  omega

/-- The first place of a quotient is the difference of the first places, or the one
below it. -/
theorem log_div {b : Nat} (hb : 1 < b) {p q : ℚ} {i j : Int} (hplow : (b : ℚ) ^ i ≤ p)
    (hphigh : p < (b : ℚ) ^ (i + 1)) (hqlow : (b : ℚ) ^ j ≤ q) (hqhigh : q < (b : ℚ) ^ (j + 1)) :
    Int.log b (p / q) = if p / q < (b : ℚ) ^ (i - j) then i - j - 1 else i - j := by
  have hbpos : (0 : ℚ) < b := by exact_mod_cast Nat.zero_lt_of_lt hb
  have hqpos : 0 < q := (zpow_pos hbpos j).trans_le hqlow
  have hlow : (b : ℚ) ^ (i - j - 1) ≤ p / q := by
    rw [le_div_iff₀ hqpos]
    calc (b : ℚ) ^ (i - j - 1) * q ≤ b ^ (i - j - 1) * b ^ (j + 1) := by gcongr
      _ = b ^ i := by
        rw [← zpow_add₀ hbpos.ne']
        congr 1
        omega
      _ ≤ p := hplow
  have hhigh : p / q < (b : ℚ) ^ (i - j + 1) := by
    rw [div_lt_iff₀ hqpos]
    calc p < (b : ℚ) ^ (i + 1) := hphigh
      _ = b ^ (i - j + 1) * b ^ j := by
        rw [← zpow_add₀ hbpos.ne']
        congr 1
        omega
      _ ≤ b ^ (i - j + 1) * q := by gcongr
  split
  · next h => exact log_eq_of_le_of_lt hb hlow (by rwa [Int.sub_add_cancel])
  · next h => exact log_eq_of_le_of_lt hb (not_lt.1 h) hhigh

/-! ## Values -/

/-- A number with a sign in front. -/
def signed (negative : Bool) (q : ℚ) : ℚ := if negative then -q else q

namespace Decimal

/-- The number `coefficient * 10 ^ exponent`. -/
def magnitude (coefficient : Nat) (exponent : Int) : ℚ := coefficient * 10 ^ exponent

/-- The value of a decimal, if it is finite. -/
def value? : Decimal → Option ℚ
  | .finite negative coefficient exponent => some (signed negative (magnitude coefficient exponent))
  | _ => none

end Decimal

/-- The value of a number, if it is finite. -/
def Number.value? : Number → Option ℚ
  | .int n => some n
  | .double (.finite negative mantissa exponent _) =>
    some (signed negative (mantissa * 2 ^ exponent))
  | .double _ => none
  | .decimal d => d.value?

namespace Decimal

section

variable {c d : Nat} {e f : Int}

theorem magnitude_nonneg (c : Nat) (e : Int) : 0 ≤ magnitude c e := by
  unfold magnitude
  positivity

@[simp] theorem magnitude_zero (e : Int) : magnitude 0 e = 0 := by simp [magnitude]

@[simp] theorem magnitude_zero_right (c : Nat) : magnitude c 0 = c := by simp [magnitude]

theorem magnitude_eq_zero_iff : magnitude c e = 0 ↔ c = 0 := by
  simp [magnitude, zpow_ne_zero e (show (10 : ℚ) ≠ 0 by norm_num)]

theorem magnitude_pos (hc : c ≠ 0) : 0 < magnitude c e :=
  (magnitude_nonneg c e).lt_of_ne' fun h => hc (magnitude_eq_zero_iff.1 h)

theorem magnitude_mono (h : c ≤ d) (e : Int) : magnitude c e ≤ magnitude d e := by
  unfold magnitude
  gcongr

/-- Zeros behind the coefficient count as places of the exponent. -/
theorem magnitude_mul_tenTo (c : Nat) (n : Nat) (e : Int) :
    magnitude (c * tenTo n) e = magnitude c (e + n) := by
  rw [magnitude, magnitude, Nat.cast_mul, cast_tenTo, mul_assoc, ← zpow_natCast,
    ← zpow_add₀ (by norm_num), add_comm]

theorem magnitude_pow_ten (n : Nat) (e : Int) : magnitude (10 ^ n) e = (10 : Nat) ^ (e + n) := by
  rw [magnitude, Nat.cast_pow, Nat.cast_ofNat, ← zpow_natCast, ← zpow_add₀ (by norm_num), add_comm]

theorem magnitude_eq_div (c : Nat) (e : Int) :
    magnitude c e = ((c * tenTo e.toNat : Nat) : ℚ) / (tenTo (-e).toNat : Nat) := by
  rw [magnitude, zpow_eq_div (by norm_num), Nat.cast_mul, cast_tenTo, cast_tenTo, mul_div_assoc]

/-! ## The first place -/

theorem length_digits_pos (c : Nat) : 0 < (digits c).length := Nat.length_toDigits_pos

/-- A number is less than the power of ten with as many zeros as it has digits. -/
theorem lt_pow_length_digits (c : Nat) : c < 10 ^ (digits c).length :=
  (Nat.length_toDigits_le_iff (by decide) (length_digits_pos c)).1 (Nat.le_refl _)

/-- A number below a power of ten has no more digits than that has zeros. -/
theorem length_digits_le {k : Nat} (hk : 0 < k) (hc : c < 10 ^ k) : (digits c).length ≤ k :=
  (Nat.length_toDigits_le_iff (by decide) hk).2 hc

theorem pow_length_digits_le (hc : c ≠ 0) : 10 ^ ((digits c).length - 1) ≤ c := by
  by_contra hlt
  rcases Nat.eq_zero_or_pos ((digits c).length - 1) with hzero | hpos
  · rw [hzero] at hlt
    omega
  · have hle := length_digits_le hpos (Nat.not_le.1 hlt)
    omega

/-- The place of the first digit. -/
theorem log_magnitude (hc : c ≠ 0) (e : Int) :
    Int.log 10 (magnitude c e) = e + (digits c).length - 1 := by
  have hten : (10 : ℚ) ≠ 0 := by norm_num
  have hpos : (0 : ℚ) < 10 ^ e := by positivity
  have hlow : (10 : ℚ) ^ ((digits c).length - 1) ≤ c := by exact_mod_cast pow_length_digits_le hc
  have hhigh : (c : ℚ) < 10 ^ (digits c).length := by exact_mod_cast lt_pow_length_digits c
  have hlength := length_digits_pos c
  apply log_eq_of_le_of_lt (by decide) <;> rw [Nat.cast_ofNat]
  · calc (10 : ℚ) ^ (e + (digits c).length - 1)
        = 10 ^ ((digits c).length - 1) * 10 ^ e := by
          rw [← zpow_natCast, ← zpow_add₀ hten]
          congr 1
          omega
      _ ≤ magnitude c e := mul_le_mul_of_nonneg_right hlow hpos.le
  · calc magnitude c e < 10 ^ (digits c).length * 10 ^ e := mul_lt_mul_of_pos_right hhigh hpos
      _ = 10 ^ (e + (digits c).length - 1 + 1) := by
          rw [← zpow_natCast, ← zpow_add₀ hten]
          congr 1
          omega

/-! ## Reduced forms -/

/-- A zero at the end can go into the exponent. -/
theorem magnitude_div_ten (h : c % 10 = 0) (e : Int) :
    magnitude (c / 10) (e + 1) = magnitude c e := by
  have hc : c / 10 * tenTo 1 = c := Nat.div_mul_cancel (Nat.dvd_of_mod_eq_zero h)
  conv_rhs => rw [← hc, magnitude_mul_tenTo]
  rfl

/-- With fuel for all digits, no zero is left at the end, and the magnitude stays. -/
theorem stripZeros_spec {fuel : Nat} (hc : c ≠ 0) (hfuel : c < 10 ^ fuel) :
    (stripZeros fuel c e).1 % 10 ≠ 0 ∧
      magnitude (stripZeros fuel c e).1 (stripZeros fuel c e).2 = magnitude c e := by
  induction fuel generalizing c e with
  | zero =>
    rw [Nat.pow_zero] at hfuel
    omega
  | succ fuel ih =>
    rw [stripZeros, if_neg hc]
    split
    · next hdvd =>
      have hlt : c / 10 < 10 ^ fuel := by
        rw [Nat.pow_succ] at hfuel
        omega
      obtain ⟨hend, hvalue⟩ := ih (e := e + 1) (by omega : c / 10 ≠ 0) hlt
      exact ⟨hend, hvalue.trans (magnitude_div_ten hdvd e)⟩
    · next hend => exact ⟨hend, rfl⟩

theorem stripZeros_le (fuel c : Nat) (e : Int) : (stripZeros fuel c e).1 ≤ c := by
  induction fuel generalizing c e with
  | zero => exact Nat.le_refl c
  | succ fuel ih =>
    rw [stripZeros]
    split
    · exact Nat.zero_le c
    · split
      · exact (ih (c / 10) (e + 1)).trans (Nat.div_le_self c 10)
      · exact Nat.le_refl c

/-- Whether a coefficient and an exponent are a reduced form. -/
def IsReduced (x : Nat × Int) : Prop := x.1 % 10 ≠ 0 ∨ x = (0, 0)

theorem reduced_zero (e : Int) : reduced 0 e = (0, 0) := rfl

/-- A number other than zero is reduced to one without a zero at the end. -/
theorem reduced_spec (hc : c ≠ 0) (e : Int) :
    (reduced c e).1 % 10 ≠ 0 ∧ magnitude (reduced c e).1 (reduced c e).2 = magnitude c e := by
  apply stripZeros_spec hc
  calc c < 10 ^ (digits c).length := lt_pow_length_digits c
    _ ≤ 10 ^ ((digits c).length + 1) := Nat.pow_le_pow_right (by decide) (Nat.le_succ _)

theorem isReduced_reduced (c : Nat) (e : Int) : IsReduced (reduced c e) := by
  by_cases hc : c = 0
  · rw [hc]
    exact .inr rfl
  · exact .inl (reduced_spec hc e).1

theorem magnitude_reduced (c : Nat) (e : Int) :
    magnitude (reduced c e).1 (reduced c e).2 = magnitude c e := by
  by_cases hc : c = 0
  · rw [hc, reduced_zero, magnitude_zero, magnitude_zero]
  · exact (reduced_spec hc e).2

/-- Of two forms of a value the one with the smaller exponent ends in zeros. -/
theorem eq_mul_tenTo_of_magnitude_eq (h : magnitude c e = magnitude d f) (hle : e ≤ f) :
    c = d * tenTo (f - e).toNat := by
  have hf : f = e + ((f - e).toNat : Int) := by omega
  rw [hf, ← magnitude_mul_tenTo] at h
  have hpos : (10 : ℚ) ^ e ≠ 0 := zpow_ne_zero e (by norm_num)
  exact_mod_cast mul_right_cancel₀ hpos h

/-- A number without a zero at the end has the greatest exponent of its magnitude. -/
theorem exponent_le_of_magnitude_eq (h : magnitude c e = magnitude d f) (hc : c % 10 ≠ 0) :
    f ≤ e := by
  by_contra hlt
  have heq := eq_mul_tenTo_of_magnitude_eq h (by omega)
  obtain ⟨n, hn⟩ : ∃ n, (f - e).toNat = n + 1 := ⟨(f - e).toNat - 1, by omega⟩
  rw [hn, tenTo, Nat.pow_eq, Nat.pow_succ, ← Nat.mul_assoc] at heq
  omega

/-- A value has one reduced form. -/
theorem IsReduced.eq_of_magnitude_eq {x y : Nat × Int} (hx : IsReduced x) (hy : IsReduced y)
    (h : magnitude x.1 x.2 = magnitude y.1 y.2) : x = y := by
  rcases hx with hx | rfl
  · rcases hy with hy | rfl
    · have hexponent : x.2 = y.2 :=
        Int.le_antisymm (exponent_le_of_magnitude_eq h.symm hy) (exponent_le_of_magnitude_eq h hx)
      have hcoefficient := eq_mul_tenTo_of_magnitude_eq h hexponent.le
      rw [hexponent, Int.sub_self] at hcoefficient
      exact Prod.ext (by simpa using hcoefficient) hexponent
    · rw [magnitude_zero, magnitude_eq_zero_iff] at h
      exact absurd (by rw [h]) hx
  · rw [magnitude_zero, eq_comm, magnitude_eq_zero_iff] at h
    rcases hy with hy | rfl
    · exact absurd (by rw [h]) hy
    · rfl

/-- Two numbers have one reduced form if they have one magnitude. -/
theorem reduced_eq_iff : reduced c e = reduced d f ↔ magnitude c e = magnitude d f := by
  constructor
  · intro h
    rw [← magnitude_reduced c e, h, magnitude_reduced]
  · intro h
    apply (isReduced_reduced c e).eq_of_magnitude_eq (isReduced_reduced d f)
    rw [magnitude_reduced, magnitude_reduced, h]

end

/-! ## Comparing by value -/

/-- Signed numbers are equal if they are without their signs, and so are the signs unless it
is zero. -/
theorem signed_eq_signed_iff {s t : Bool} {p q : ℚ} (hp : 0 ≤ p) (hq : 0 ≤ q) :
    signed s p = signed t q ↔ p = q ∧ (s = t ∨ p = 0) := by
  constructor
  · intro h
    cases s <;> cases t <;> simp only [signed, if_true, Bool.false_eq_true, if_false] at h
    · exact ⟨h, .inl rfl⟩
    · exact ⟨by linarith, .inr (by linarith)⟩
    · exact ⟨by linarith, .inr (by linarith)⟩
    · exact ⟨neg_injective h, .inl rfl⟩
  · rintro ⟨rfl, rfl | rfl⟩
    · rfl
    · cases s <;> cases t <;> simp [signed]

/-- Decimals are equal as keys if they are equal in value. -/
theorem sameValue_finite_iff {s t : Bool} {c d : Nat} {e f : Int} :
    sameValue (.finite s c e) (.finite t d f) = true ↔
      value? (.finite s c e) = value? (.finite t d f) := by
  have hzero : (reduced c e).1 = 0 ↔ magnitude c e = 0 := by
    rw [← magnitude_reduced c e, magnitude_eq_zero_iff]
  simp only [sameValue, Bool.and_eq_true, beq_iff_eq, Bool.or_eq_true, value?, Option.some.injEq,
    signed_eq_signed_iff (magnitude_nonneg c e) (magnitude_nonneg d f), reduced_eq_iff, hzero]

end Decimal

/-- The exact decimal of a number has its value. -/
theorem Number.value?_exact (n : Number) : n.exact.value? = n.value? := by
  cases n with
  | int n =>
    have habs : ((n.natAbs : Nat) : ℚ) = |(n : ℚ)| := by
      rw [← Int.cast_natCast, Int.natCast_natAbs, Int.cast_abs]
    simp only [exact, Decimal.value?, Decimal.magnitude_zero_right, value?, Option.some.injEq,
      signed, habs]
    split
    · next h =>
      rw [abs_of_neg (by exact_mod_cast of_decide_eq_true h), neg_neg]
    · next h => exact abs_of_nonneg (by exact_mod_cast not_lt.1 fun hn => h (decide_eq_true hn))
  | double x =>
    cases x with
    | finite negative mantissa exponent canonical =>
      simp only [exact, Decimal.value?, value?, Option.some.injEq]
      congr 1
      rw [Decimal.magnitude, Nat.cast_mul, Nat.cast_mul, cast_twoTo, Nat.pow_eq, Nat.cast_pow]
      rcases Int.le_total 0 exponent with h | h
      · obtain ⟨k, rfl⟩ := Int.eq_ofNat_of_zero_le h
        simp
      · obtain ⟨k, hk⟩ := Int.eq_ofNat_of_zero_le (Int.neg_nonneg_of_nonpos h)
        obtain rfl : exponent = -(k : Int) := by omega
        have hmin : min (-(k : Int)) 0 = -(k : Int) := by omega
        have hzero : (-(k : Int)).toNat = 0 := by omega
        have hten : (10 : ℚ) ^ k = 5 ^ k * 2 ^ k := by rw [← mul_pow]; norm_num
        simp only [hmin, hzero, neg_neg, Int.toNat_natCast, pow_zero, mul_one, zpow_neg,
          zpow_natCast, Nat.cast_ofNat, hten]
        field_simp
    | infinite negative => rfl
    | nan payload => rfl
  | decimal d => rfl

/-- A weight is one if and only if its value is. -/
theorem isUnitWeight_iff {n : Number} : isUnitWeight n = true ↔ n.value? = some 1 := by
  have hone : (Number.int 1).exact = .finite false 1 0 := rfl
  have hvalue : Decimal.value? (.finite false 1 0) = some 1 := by simp [Decimal.value?, signed]
  rw [isUnitWeight, Number.sameValue, hone, ← Number.value?_exact]
  cases n.exact with
  | finite s c e => rw [Decimal.sameValue_finite_iff, hvalue]
  | infinite s => simp [Decimal.sameValue, Decimal.value?]
  | nan s g p => simp [Decimal.sameValue, Decimal.value?]

end LuceneQuery
