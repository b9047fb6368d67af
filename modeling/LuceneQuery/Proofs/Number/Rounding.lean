import LuceneQuery.Proofs.Number.Value

/-!
# Rounding half to even

A number is rounded to a multiple of a *unit*: to the nearest one, and of two
equally near ones to the even one (`IsNearest`).  There is one such multiple, and
it grows with the number (`IsNearest.le`).

A decimal is rounded to a count of digits by taking the place of the last one as
the unit (`RoundsTo`).  A weight is rounded in this way to 28 digits, as long as
they lie above the least place (`Decimal.isNearest_rounded`,
`Decimal.roundsTo_rounded`), and it stays as it is if and only if it fits
(`Decimal.magnitude_rounded_eq_iff`).
-/

namespace LuceneQuery

/-- Whether `r` is the multiple of a unit nearest to `q`, the even one of two
equally near ones. -/
def IsNearest (unit q r : ℚ) : Prop :=
  ∃ m : Nat, r = m * unit ∧ 2 * |q - r| ≤ unit ∧ (2 * |q - r| = unit → m % 2 = 0)

namespace IsNearest

variable {unit q q' r r' : ℚ}

/-- A multiple is the nearest if the number is less than half a unit away. -/
theorem of_lt {m : Nat} (h : 2 * |q - m * unit| < unit) : IsNearest unit q (m * unit) :=
  ⟨m, rfl, h.le, fun heq => absurd heq h.ne⟩

theorem of_eq_mul (hunit : 0 < unit) {m : Nat} (hq : q = m * unit) : IsNearest unit q q := by
  rw [hq]
  exact of_lt (by rwa [sub_self, abs_zero, mul_zero])

theorem le (hunit : 0 < unit) (h : IsNearest unit q r) (h' : IsNearest unit q' r') (hle : q ≤ q') :
    r ≤ r' := by
  obtain ⟨m, rfl, hnear, heven⟩ := h
  obtain ⟨m', rfl, hnear', heven'⟩ := h'
  by_contra hlt
  have hm : m' + 1 ≤ m := by
    by_contra hm
    exact hlt (mul_le_mul_of_nonneg_right (by exact_mod_cast Nat.le_of_lt_succ (not_le.1 hm))
      hunit.le)
  have hstep : (m' : ℚ) * unit + unit ≤ m * unit := by
    have hcast : (m' : ℚ) + 1 ≤ m := by exact_mod_cast hm
    nlinarith
  -- The two multiples are a unit apart at least, so both numbers lie half-way between them.
  have hlow := (abs_le.1 ((le_div_iff₀' (by norm_num)).2 hnear)).1
  have hhigh := (abs_le.1 ((le_div_iff₀' (by norm_num)).2 hnear')).2
  have hmeven : m % 2 = 0 := heven (by rw [abs_of_nonpos (by linarith)]; linarith)
  have hmeven' : m' % 2 = 0 := heven' (by rw [abs_of_nonneg (by linarith)]; linarith)
  have hm' : m' + 2 ≤ m := by omega
  have htwo : (m' : ℚ) * unit + 2 * unit ≤ m * unit := by
    have hcast : (m' : ℚ) + 2 ≤ m := by exact_mod_cast hm'
    nlinarith
  linarith

theorem unique (hunit : 0 < unit) (h : IsNearest unit q r) (h' : IsNearest unit q r') : r = r' :=
  le_antisymm (h.le hunit h' le_rfl) (h'.le hunit h le_rfl)

end IsNearest

/-- The integer that is nearest to a quotient. -/
theorem roundHalfEven_spec (num : Nat) {den : Nat} (hden : 0 < den) :
    let t : Int := num - roundHalfEven num den * den
    2 * |t| ≤ den ∧ (2 * |t| = den → roundHalfEven num den % 2 = 0) := by
  have hsplit : (num : Int) = den * (num / den : Nat) + (num % den : Nat) := by
    exact_mod_cast (Nat.div_add_mod num den).symm
  have hlt := Nat.mod_lt num hden
  unfold roundHalfEven
  generalize num / den = k at *
  generalize num % den = r at *
  have hbelow : |(num : Int) - k * den| = r := by
    rw [hsplit, abs_of_nonneg] <;> ring_nf
    omega
  have habove : |(num : Int) - (k + 1 : Nat) * den| = den - r := by
    rw [hsplit, Nat.cast_succ, abs_of_nonpos] <;> ring_nf
    omega
  dsimp only
  split
  · rw [hbelow]
    omega
  · split
    · rw [habove]
      omega
    · rcases Nat.mod_two_eq_zero_or_one k with hk | hk
      · rw [hk, Nat.add_zero, hbelow]
        omega
      · rw [hk, habove]
        omega

/-- Rounding a ratio half to even finds it. -/
theorem isNearest_roundHalfEven {unit : ℚ} (hunit : 0 < unit) (num : Nat) {den : Nat}
    (hden : 0 < den) : IsNearest unit (num / den * unit) (roundHalfEven num den * unit) := by
  obtain ⟨hnear, heven⟩ := roundHalfEven_spec num hden
  have hden' : (0 : ℚ) < den := by exact_mod_cast hden
  have hscale : 2 * |(num : ℚ) / den * unit - roundHalfEven num den * unit| =
      ((2 * |(num : Int) - roundHalfEven num den * den| : Int) : ℚ) / den * unit := by
    have hdiff : (num : ℚ) / den * unit - roundHalfEven num den * unit =
        (num - roundHalfEven num den * den) * (unit / den) := by field_simp
    rw [hdiff, abs_mul, abs_of_pos (div_pos hunit hden')]
    push_cast
    ring
  have hone : (den : ℚ) / den = 1 := div_self hden'.ne'
  refine ⟨roundHalfEven num den, rfl, ?_, fun htie => heven ?_⟩
  · rw [hscale]
    calc _ ≤ (den : ℚ) / den * unit := by
          gcongr
          exact_mod_cast hnear
      _ = unit := by rw [hone, one_mul]
  · rw [hscale] at htie
    have hquot : ((2 * |(num : Int) - roundHalfEven num den * den| : Int) : ℚ) / den = 1 :=
      mul_right_cancel₀ hunit.ne' (htie.trans (one_mul unit).symm)
    exact_mod_cast (div_eq_one_iff_eq hden'.ne').1 hquot

/-- Whether `r` is `q` rounded to a count of digits. -/
def RoundsTo (count : Nat) (q r : ℚ) : Prop := IsNearest (10 ^ (Int.log 10 q + 1 - count)) q r

theorem RoundsTo.unique {count : Nat} {q r r' : ℚ} (h : RoundsTo count q r)
    (h' : RoundsTo count q r') : r = r' :=
  IsNearest.unique (by positivity) h h'

namespace Decimal

variable {c : Nat} {e : Int}

/-- The place of the last digit that a weight keeps. -/
def lastKept (c : Nat) (e : Int) : Int := max (keptPlace precision c e) leastPlace

/-- The place of the first digit of a decimal. -/
def firstPlace (c : Nat) (e : Int) : Int := e + (digits c).length - 1

/-- The least place of a first digit at which a weight has room for all digits that it
may keep. -/
def leastFirstPlace : Int := -999999

/-- A value that a weight keeps all digits of. -/
def Fits (q : ℚ) : Prop :=
  ∃ (d : Nat) (f : Int), d < 10 ^ precision ∧ leastPlace ≤ f ∧ q = magnitude d f

theorem magnitude_eq_mul_of_le {place : Int} (h : place ≤ e) :
    magnitude c e = (c * tenTo (e - place).toNat : Nat) * 10 ^ place := by
  have hmul := magnitude_mul_tenTo c (e - place).toNat place
  have he : place + ((e - place).toNat : Int) = e := by omega
  rw [he] at hmul
  exact hmul.symm

theorem magnitude_eq_div_mul {place : Int} (h : e ≤ place) :
    magnitude c e = (c : ℚ) / (tenTo (place - e).toNat : Nat) * 10 ^ place := by
  have hsplit : (10 : ℚ) ^ place = 10 ^ (place - e).toNat * 10 ^ e := by
    rw [← zpow_natCast, ← zpow_add₀ (by norm_num)]
    congr 1
    omega
  rw [magnitude, cast_tenTo, hsplit]
  field_simp

/-- A value below a tenth of a unit is rounded to zero. -/
theorem isNearest_coefficientAt {place : Int} (h : e ≤ place) :
    IsNearest (10 ^ place) (magnitude c e) (magnitude (coefficientAt c e place) place) := by
  have hunit : (0 : ℚ) < 10 ^ place := by positivity
  have hten : 0 < tenTo (place - e).toNat := Nat.pow_pos (by decide)
  rw [magnitude_eq_div_mul h]
  unfold coefficientAt
  dsimp only
  split
  · next hshort =>
    have hlt : c * 2 < tenTo (place - e).toNat := by
      calc c * 2 < 10 ^ (digits c).length * 10 := by
            have := lt_pow_length_digits c
            omega
        _ = 10 ^ ((digits c).length + 1) := (Nat.pow_succ ..).symm
        _ ≤ tenTo (place - e).toNat := Nat.pow_le_pow_right (by decide) hshort
    have hquot : 2 * ((c : ℚ) / (tenTo (place - e).toNat : Nat)) < 1 := by
      rw [← mul_div_assoc, div_lt_one (by exact_mod_cast hten), mul_comm]
      exact_mod_cast hlt
    apply IsNearest.of_lt
    rw [Nat.cast_zero, zero_mul, sub_zero, abs_of_nonneg (by positivity), ← mul_assoc]
    exact mul_lt_of_lt_one_left hunit hquot
  · exact isNearest_roundHalfEven hunit c hten

/-- A weight is rounded half to even at the last place that it keeps. -/
theorem isNearest_rounded (c : Nat) (e : Int) :
    IsNearest (10 ^ lastKept c e) (magnitude c e)
      (magnitude (rounded c e).1 (rounded c e).2) := by
  unfold rounded
  dsimp only
  split
  · next hle =>
    rw [magnitude_reduced]
    exact IsNearest.of_eq_mul (by positivity) (magnitude_eq_mul_of_le hle)
  · next hlt =>
    rw [magnitude_reduced]
    exact isNearest_coefficientAt (not_le.1 hlt).le

/-- What is rounded ends with no zero. -/
theorem isReduced_rounded (c : Nat) (e : Int) : IsReduced (rounded c e) := by
  unfold rounded
  dsimp only
  split <;> exact isReduced_reduced _ _

theorem rounded_zero (e : Int) : rounded 0 e = (0, 0) := by
  apply (isReduced_rounded 0 e).eq_of_magnitude_eq (.inr rfl)
  have hnear := isNearest_rounded 0 e
  rw [magnitude_zero] at hnear ⊢
  exact hnear.unique (by positivity) (IsNearest.of_eq_mul (m := 0) (by positivity) (by simp))

/-- The place of the last digit that is kept is told by the magnitude. -/
theorem keptPlace_eq_log (hc : c ≠ 0) (count : Nat) (e : Int) :
    keptPlace count c e = Int.log 10 (magnitude c e) + 1 - count := by
  rw [log_magnitude hc, keptPlace]
  omega

/-- A weight is rounded to 28 digits, if they are at places that a weight has. -/
theorem roundsTo_rounded (h : c ≠ 0 → leastFirstPlace ≤ firstPlace c e) :
    RoundsTo precision (magnitude c e) (magnitude (rounded c e).1 (rounded c e).2) := by
  by_cases hc : c = 0
  · subst hc
    rw [rounded_zero, magnitude_zero, magnitude_zero]
    exact IsNearest.of_eq_mul (m := 0) (by positivity) (by simp)
  · have hplace : lastKept c e = Int.log 10 (magnitude c e) + 1 - precision := by
      rw [← keptPlace_eq_log hc, lastKept, max_eq_left]
      have hrange := h hc
      simp only [leastFirstPlace, firstPlace, keptPlace, leastPlace, precision] at hrange ⊢
      omega
    unfold RoundsTo
    rw [← hplace]
    exact isNearest_rounded c e

/-- A weight stays as it is if and only if it has no more digits than are kept. -/
theorem magnitude_rounded_eq_iff :
    magnitude (rounded c e).1 (rounded c e).2 = magnitude c e ↔ Fits (magnitude c e) := by
  have hunit : (0 : ℚ) < 10 ^ lastKept c e := by positivity
  have hnear := isNearest_rounded c e
  constructor
  · intro heq
    rw [heq] at hnear
    obtain ⟨m, hm, -⟩ := hnear
    refine ⟨m, lastKept c e, ?_, le_max_right _ _, hm⟩
    have hlt : (m : ℚ) * 10 ^ lastKept c e < 10 ^ precision * 10 ^ lastKept c e := by
      calc (m : ℚ) * 10 ^ lastKept c e = magnitude c e := hm.symm
        _ < 10 ^ (digits c).length * 10 ^ e := by
          unfold magnitude
          gcongr
          exact_mod_cast lt_pow_length_digits c
        _ = 10 ^ (e + (digits c).length) := by
          rw [← zpow_natCast, ← zpow_add₀ (by norm_num), add_comm]
        _ ≤ 10 ^ (lastKept c e + precision) := by
          apply zpow_le_zpow_right₀ (by norm_num)
          have hkept := le_max_left (keptPlace precision c e) leastPlace
          simp only [lastKept, keptPlace] at hkept ⊢
          omega
        _ = 10 ^ precision * 10 ^ lastKept c e := by
          rw [← zpow_natCast, ← zpow_add₀ (by norm_num), add_comm]
    exact_mod_cast lt_of_mul_lt_mul_right hlt hunit.le
  · rintro ⟨d, f, hd, hf, heq⟩
    by_cases hzero : d = 0
    · have hq : magnitude c e = 0 := by rw [heq, hzero, magnitude_zero]
      rw [hq] at hnear ⊢
      exact hnear.unique hunit (IsNearest.of_eq_mul (m := 0) hunit (by simp))
    · have hc : c ≠ 0 := by
        rintro rfl
        rw [magnitude_zero, eq_comm, magnitude_eq_zero_iff] at heq
        exact hzero heq
      have hle : lastKept c e ≤ f := by
        have hlength := length_digits_le (by decide) hd
        rw [lastKept, keptPlace_eq_log hc, heq, log_magnitude hzero]
        omega
      exact hnear.unique hunit (IsNearest.of_eq_mul hunit (heq.trans (magnitude_eq_mul_of_le hle)))

end Decimal

end LuceneQuery
