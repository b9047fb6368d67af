import LuceneQuery.Proofs.Clause.Weight
import LuceneQuery.Proofs.Number.Literal
import LuceneQuery.Proofs.Number.Shortest

/-!
# The text of a boost

A weight that is let through is written behind the caret as a literal, with a minus
sign in front if it is a negative zero and without one otherwise
(`exists_weightText`, `Number.IsWeight.isUnsigned_boostSuffix_iff`).

The literal has the value of the weight's own text, rounded to 28 digits
(`boost_is_rounded_literal`).  So it has that very value if and only if 28 digits are
enough (`boost_keeps_value_iff_fits`).  They are enough for every double, and the
double is read back from the literal.
-/

namespace LuceneQuery

open Decimal

/-! ## Negative zeros -/

/-- Whether a number is a zero with a minus sign. -/
def Number.IsNegativeZero : Number → Prop
  | .int _ => False
  | .double x => x = .zero true
  | .decimal d => ∃ e, d = .finite true 0 e

/-- A weight is written with a minus sign if and only if it is a negative zero. -/
theorem Number.IsWeight.exists_written {n : Number} (hn : n.IsWeight) :
    ∃ s c e, n.written = .finite s c e ∧ (s = true → c = 0) ∧ (s = true ↔ n.IsNegativeZero) := by
  obtain ⟨hfinite, s, c, e, hexact, hzero⟩ := hn
  cases n with
  | int n =>
    cases hexact
    refine ⟨_, _, _, rfl, hzero, fun h => ?_, fun h => nomatch h⟩
    have hneg := of_decide_eq_true h
    have habs := hzero h
    omega
  | double x =>
    cases x with
    | finite t m p h =>
      cases hexact
      have hm : s = true → m = 0 := fun ht => by simpa using hzero ht
      refine ⟨_, _, _, rfl, fun ht => ?_, fun ht => ?_, fun hx => ?_⟩
      · obtain rfl := hm ht
        rw [Double.shortestDigits_zero]
      · obtain rfl := hm ht
        obtain rfl := Double.eq_least_of_zero h
        rw [ht]
        rfl
      · cases hx
        rfl
    | infinite t => cases hfinite
    | nan payload => cases hfinite
  | decimal d =>
    cases hexact
    refine ⟨_, _, _, rfl, hzero, fun hs => ⟨e, ?_⟩, fun ⟨e', h⟩ => ?_⟩
    · rw [hs, hzero hs]
    · cases h
      rfl

/-! ## The text of a weight -/

/-- A weight is written as a literal of its rounded value, behind its sign. -/
theorem exists_weightText {n : Number} {s : Bool} {c : Nat} {e : Int}
    (h : n.written = .finite s c e) :
    ∃ l : Literal, weightText n = sign s ++ l.text ∧
      l.value = magnitude (rounded c e).1 (rounded c e).2 := by
  obtain ⟨l, htext, hvalue⟩ := exists_literal (isReduced_rounded c e)
  refine ⟨l, ?_, hvalue⟩
  rw [weightText, h]
  dsimp only
  rw [htext]

theorem boostSuffix_of_ne_one {n : Number} (h : n.value? ≠ some 1) :
    boostSuffix n = .char '^' :: Text.ofChars (weightText n) := by
  rw [boostSuffix, if_neg (mt isUnitWeight_iff.1 h)]
  rfl

/-- No weight but one goes unwritten. -/
theorem boostSuffix_eq_nil_iff {n : Number} : boostSuffix n = [] ↔ n.value? = some 1 := by
  constructor
  · intro h
    by_contra hne
    rw [boostSuffix_of_ne_one hne] at h
    cases h
  · intro h
    rw [boostSuffix, if_pos (isUnitWeight_iff.2 h)]

theorem Number.IsNegativeZero.written {n : Number} (h : n.IsNegativeZero) :
    ∃ e, n.written = .finite true 0 e := by
  cases n with
  | int n => cases h
  | double x =>
    cases h
    exact ⟨0, rfl⟩
  | decimal d =>
    obtain ⟨e, rfl⟩ := h
    exact ⟨e, rfl⟩

theorem Number.IsNegativeZero.value? {n : Number} (h : n.IsNegativeZero) : n.value? = some 0 := by
  cases n with
  | int n => cases h
  | double x =>
    cases h
    simp [Number.value?, Double.zero, signed]
  | decimal d =>
    obtain ⟨e, rfl⟩ := h
    simp [Number.value?, Decimal.value?, signed]

theorem boostSuffix_of_isNegativeZero {n : Number} (h : n.IsNegativeZero) :
    boostSuffix n = "^-0" := by
  obtain ⟨e, hwritten⟩ := h.written
  rw [boostSuffix_of_ne_one (by simp [h.value?]), weightText, hwritten]
  dsimp only
  rw [rounded_zero]
  decide

/-! ## The value of a literal -/

/-- A literal of the value of a decimal is read as the double that the decimal is. -/
theorem Double.ofText?_literal {l : Literal} {c : Nat} {e : Int} (h : l.value = magnitude c e)
    (negative : Bool) :
    Double.ofText? (sign negative ++ l.text) = some (Double.ofDecimal negative c e) := by
  obtain ⟨d, f, hread, hvalue⟩ := l.ofText?_text negative
  rw [Double.ofText?, hread, Double.ofDecimal_congr negative (h.symm.trans hvalue.symm)]

/-- The first digit of a weight, other than a decimal, is at a place that a weight has. -/
theorem leastFirstPlace_le {n : Number} {s : Bool} {c : Nat} {e : Int}
    (hwritten : n.written = .finite s c e) (hc : c ≠ 0) (hdecimal : ∀ d, n ≠ .decimal d) :
    leastFirstPlace ≤ firstPlace c e := by
  rw [leastFirstPlace, firstPlace]
  cases n with
  | int n =>
    cases hwritten
    omega
  | double x =>
    cases x with
    | finite t m p h =>
      cases hwritten
      have hreach := Double.shortestDigits_inReach h hc
      rw [Double.decimalReach] at hreach
      omega
    | infinite t => cases hwritten
    | nan payload => cases hwritten
  | decimal d => exact absurd rfl (hdecimal d)

/-- A weight other than one and the negative zeros is written as a literal, whose value
is that of the text of the weight, rounded to 28 digits.  A double is written with the
fewest digits that are read as it, and so it is read back from the literal. -/
theorem boost_is_rounded_literal {v : Value} {n : Number} (h : weightOf v = .ok n)
    (hone : n.value? ≠ some 1) (hzero : ¬ n.IsNegativeZero)
    (hrange : ∀ s c e, n = .decimal (.finite s c e) → c ≠ 0 → leastFirstPlace ≤ firstPlace c e) :
    ∃ (l : Literal) (q : ℚ), boostSuffix n = .char '^' :: Text.ofChars l.text ∧
      n.textValue? = some q ∧ RoundsTo 28 q l.value ∧
      ∀ x, n = .double x → l.value = q ∧ Double.ofText? l.text = some x ∧
        ∃ d f, q = magnitude d f ∧
          ∀ c e, Double.ofDecimal false c e = x → (digits d).length ≤ (digits c).length := by
  obtain ⟨s, c, e, hwritten, -, hsign⟩ := (isWeight_of_weightOf h).exists_written
  obtain rfl : s = false := Bool.eq_false_of_not_eq_true (mt hsign.1 hzero)
  obtain ⟨l, htext, hvalue⟩ := exists_weightText hwritten
  have hplace : c ≠ 0 → leastFirstPlace ≤ firstPlace c e := by
    intro hc
    by_cases hdecimal : ∃ d, n = .decimal d
    · obtain ⟨d, rfl⟩ := hdecimal
      exact hrange _ c e (congrArg Number.decimal hwritten) hc
    · exact leastFirstPlace_le hwritten hc (not_exists.1 hdecimal)
  refine ⟨l, magnitude c e, ?_, Number.textValue?_eq hwritten, ?_, ?_⟩
  · rw [boostSuffix_of_ne_one hone, htext]
    rfl
  · rw [hvalue]
    exact roundsTo_rounded hplace
  · rintro x rfl
    cases x with
    | finite t m p hm =>
      cases hwritten
      have hexact : l.value = magnitude _ _ :=
        hvalue.trans (magnitude_rounded_eq_iff.2 (Double.fits_shortestDigits hm))
      have hread := Double.ofText?_literal hexact false
      rw [Double.ofDecimal_shortestDigits false hm] at hread
      exact ⟨hexact, hread, _, _, rfl, fun c e => Double.length_shortestDigits_le hm⟩
    | infinite t => cases hwritten
    | nan payload => cases hwritten

/-- Two and a half. -/
def Double.twoAndAHalf : Double := .finite false (5 * twoTo 50) (-51) (by decide)

theorem boost_of_two_and_a_half :
    ∃ l : Literal, boostSuffix (.double .twoAndAHalf) = .char '^' :: Text.ofChars l.text ∧
      Double.ofText? l.text = some .twoAndAHalf := by
  have hone : (Number.double .twoAndAHalf).value? ≠ some 1 := by
    intro h
    exact absurd (isUnitWeight_iff.2 h) (by decide +kernel)
  obtain ⟨l, q, hsuffix, -, -, hdouble⟩ := boost_is_rounded_literal
    (weightOf_eq_ok_iff.2 ⟨rfl, rfl, rfl⟩) hone (fun h => nomatch h) (fun s c e h => nomatch h)
  obtain ⟨-, hread, -⟩ := hdouble _ rfl
  exact ⟨l, hsuffix, hread⟩

example : boostSuffix (.int 12345678901234567890123456785) = "^12345678901234567890123456780" := by
  decide +kernel

/-! ## Weights that keep their value -/

theorem signed_of_imp {s : Bool} {q : ℚ} (h : s = true → q = 0) : signed s q = q := by
  cases s with
  | false => rfl
  | true => simp [h rfl, signed]

/-- The text of a weight and what is written behind the caret both have a value, and
it is the same one if and only if it fits into the digits that are kept. -/
theorem Number.IsWeight.exists_value {n : Number} (hn : n.IsWeight) :
    ∃ q r, n.textValue? = some q ∧ (ofText? (weightText n)).bind Decimal.value? = some r ∧
      (r = q ↔ Decimal.Fits q) := by
  obtain ⟨s, c, e, hwritten, hzero, -⟩ := hn.exists_written
  obtain ⟨l, htext, hvalue⟩ := exists_weightText hwritten
  obtain ⟨d, f, hread, hlvalue⟩ := l.ofText?_text s
  have hq : signed s (magnitude c e) = magnitude c e :=
    signed_of_imp fun hs => by rw [hzero hs, magnitude_zero]
  have hr : signed s (magnitude d f) = magnitude (rounded c e).1 (rounded c e).2 := by
    rw [hlvalue, hvalue]
    exact signed_of_imp fun hs => by rw [hzero hs, rounded_zero, magnitude_zero]
  refine ⟨magnitude c e, magnitude (rounded c e).1 (rounded c e).2, ?_, ?_,
    magnitude_rounded_eq_iff⟩
  · rw [Number.textValue?_eq hwritten, hq]
  · rw [htext, hread, Option.bind_some, Decimal.value?, hr]

/-- An integer or a decimal is written with its own value. -/
theorem Number.textValue?_eq_value? {n : Number} {q : ℚ} (h : n.value? = some q)
    (hdouble : ∀ x, n ≠ .double x) : n.textValue? = some q := by
  cases n with
  | int i =>
    rw [textValue?_eq rfl, ← h, ← value?_exact]
    rfl
  | double x => exact absurd rfl (hdouble x)
  | decimal d =>
    cases d with
    | finite s c e =>
      rw [textValue?_eq rfl, ← h]
      rfl
    | infinite s => cases h
    | nan s signaling payload => cases h

/-- There is one double with the value one. -/
theorem Double.eq_one_of_value {x : Double} (h : (Number.double x).value? = some 1) :
    x = .one := by
  cases x with
  | finite s m e hm =>
    have hnonneg : (0 : ℚ) ≤ m * 2 ^ e := by positivity
    have hone : (1 : ℚ) = (twoTo 52 : Nat) * 2 ^ (-52 : Int) := by
      rw [cast_twoTo, zpow_neg, ← zpow_natCast]
      norm_num
    cases s with
    | false =>
      have hvalue : (m : ℚ) * 2 ^ e = (twoTo 52 : Nat) * 2 ^ (-52 : Int) :=
        (Option.some.inj h).trans hone
      obtain ⟨rfl, rfl⟩ := eq_of_mul_zpow_eq hm.1 (by decide) hm.2.2.2 (.inl le_rfl) hm.2.1
        (by decide) hvalue
      rfl
    | true =>
      have hneg : -((m : ℚ) * 2 ^ e) = 1 := Option.some.inj h
      linarith
  | infinite s => cases h
  | nan payload => cases h

theorem Number.textValue?_of_value_one {n : Number} (h : n.value? = some 1) :
    n.textValue? = some 1 := by
  by_cases hdouble : ∃ x, n = .double x
  · obtain ⟨x, rfl⟩ := hdouble
    obtain rfl := Double.eq_one_of_value h
    have hwritten : (Number.double .one).written = .finite false 1 0 := by decide +kernel
    rw [textValue?_eq hwritten]
    simp [signed]
  · exact textValue?_eq_value? h (not_exists.1 hdouble)

/-- Whether a weight keeps all digits of its text. -/
def Number.Fits (n : Number) : Prop := ∃ q, n.textValue? = some q ∧ Decimal.Fits q

/-- What stands behind the caret of a weight that fits has the value of its text. -/
theorem Number.Fits.textValue?_eq {n : Number} (h : n.Fits) (hn : n.IsWeight) :
    n.textValue? = (ofText? (weightText n)).bind Decimal.value? := by
  obtain ⟨q, r, hq, hr, hqr⟩ := hn.exists_value
  obtain ⟨p, hp, hfits⟩ := h
  obtain rfl : p = q := Option.some.inj (hp.symm.trans hq)
  rw [hp, hr, hqr.2 hfits]

/-- Weights that fit and have one boost are written with one value. -/
theorem Number.Fits.textValue?_eq_of_boostSuffix_eq {n m : Number} (hfits : n.Fits)
    (hfits' : m.Fits) (hn : n.IsWeight) (hm : m.IsWeight) (h : boostSuffix n = boostSuffix m) :
    n.textValue? = m.textValue? := by
  by_cases hone : n.value? = some 1
  · have hone' : m.value? = some 1 :=
      boostSuffix_eq_nil_iff.1 (h.symm.trans (boostSuffix_eq_nil_iff.2 hone))
    rw [Number.textValue?_of_value_one hone, Number.textValue?_of_value_one hone']
  · have hone' : m.value? ≠ some 1 := fun hone' =>
      hone (boostSuffix_eq_nil_iff.1 (h.trans (boostSuffix_eq_nil_iff.2 hone')))
    rw [boostSuffix_of_ne_one hone, boostSuffix_of_ne_one hone'] at h
    have htext : weightText n = weightText m :=
      (List.map_inj_right fun _ _ => CodePoint.char.inj).1 (List.cons_eq_cons.1 h).2
    rw [hfits.textValue?_eq hn, hfits'.textValue?_eq hm, htext]

/-- A boost keeps the value of its weight if and only if the weight fits into the
digits that are kept, and only the weight one is not written.  So weights that fit and
have one boost are written with one value. -/
theorem boost_keeps_value_iff_fits {v w : Value} {n m : Number} (hv : weightOf v = .ok n)
    (hw : weightOf w = .ok m) :
    (boostSuffix n = [] ↔ n.value? = some 1) ∧
      (n.value? ≠ some 1 → ∃ (t : List Char) (q r : ℚ),
        boostSuffix n = .char '^' :: Text.ofChars t ∧ n.textValue? = some q ∧
          (ofText? t).bind Decimal.value? = some r ∧ (r = q ↔ Decimal.Fits q)) ∧
      ((∀ x, n ≠ .double x) → n.textValue? = n.value?) ∧
      (n.Fits → m.Fits → boostSuffix n = boostSuffix m → n.textValue? = m.textValue?) := by
  have hn := isWeight_of_weightOf hv
  have hm := isWeight_of_weightOf hw
  refine ⟨boostSuffix_eq_nil_iff, fun hone => ?_, fun hdouble => ?_, fun hfits hfits' heq => ?_⟩
  · obtain ⟨q, r, hq, hr, hqr⟩ := hn.exists_value
    exact ⟨weightText n, q, r, boostSuffix_of_ne_one hone, hq, hr, hqr⟩
  · obtain ⟨q, hq, -⟩ := Number.isMagnitude_iff.1 hn.isMagnitude
    rw [Number.textValue?_eq_value? hq hdouble, hq]
  · exact hfits.textValue?_eq_of_boostSuffix_eq hfits' hn hm heq

theorem boost_of_twenty_eight_nines :
    ∃ (t : List Char) (q : ℚ), boostSuffix (.int (tenTo 28 - 1)) = .char '^' :: Text.ofChars t ∧
      (Number.int (tenTo 28 - 1)).textValue? = some q ∧
      (ofText? t).bind Decimal.value? = some q := by
  have hok : weightOf (.int (tenTo 28 - 1)) = .ok (.int (tenTo 28 - 1)) :=
    weightOf_eq_ok_iff.2 ⟨rfl, by decide +kernel, rfl⟩
  have hone : (Number.int (tenTo 28 - 1)).value? ≠ some 1 := by
    intro h
    exact absurd (isUnitWeight_iff.2 h) (by decide +kernel)
  obtain ⟨-, hvalue, htext, -⟩ := boost_keeps_value_iff_fits hok hok
  obtain ⟨t, q, r, hsuffix, hq, hr, hqr⟩ := hvalue hone
  have hnines : q = ((tenTo 28 - 1 : Int) : ℚ) :=
    Option.some.inj (hq.symm.trans (htext fun x h => nomatch h))
  have hfits : Decimal.Fits q := by
    refine ⟨tenTo 28 - 1, 0, by decide, by decide, ?_⟩
    rw [hnines, magnitude_zero_right]
    rfl
  rw [hqr.2 hfits] at hr
  exact ⟨t, q, hsuffix, hq, hr⟩

/-- Two integers with one digit too many have one boost. -/
theorem long_weights_share_boost :
    ¬∀ i j : Int, weightOf (.int i) = .ok (.int i) → weightOf (.int j) = .ok (.int j) →
      boostSuffix (.int i) = boostSuffix (.int j) → i = j := by
  intro h
  have heq := h (tenTo 28) (tenTo 28 + 1) (weightOf_eq_ok_iff.2 ⟨rfl, by decide +kernel, rfl⟩)
    (weightOf_eq_ok_iff.2 ⟨rfl, by decide +kernel, rfl⟩) (by decide +kernel)
  exact absurd heq (by decide)

/-! ## Signs -/

/-- Whether a boost is empty, or a caret with digits and at most one point behind it. -/
def IsUnsigned (boost : Text) : Prop :=
  boost = [] ∨ ∃ s : List Char, boost = .char '^' :: Text.ofChars s ∧ s ≠ [] ∧
    (∀ c ∈ s, c.isDigit = true ∨ c = '.') ∧ s.count '.' ≤ 1

theorem not_isUnsigned_negative_zero : ¬ IsUnsigned "^-0" := by
  rintro (h | ⟨s, h, -, hchars, -⟩)
  · cases h
  · have hs : s = ['-', '0'] :=
      (List.map_inj_right fun _ _ => CodePoint.char.inj).1 (List.cons_eq_cons.1 h).2.symm
    have hminus := hchars '-' (by rw [hs]; exact List.mem_cons_self)
    exact absurd hminus (by decide)

/-- Only the boost of a negative zero has a sign. -/
theorem Number.IsWeight.isUnsigned_boostSuffix_iff {n : Number} (hn : n.IsWeight) :
    IsUnsigned (boostSuffix n) ↔ ¬ n.IsNegativeZero := by
  constructor
  · intro h hzero
    rw [boostSuffix_of_isNegativeZero hzero] at h
    exact not_isUnsigned_negative_zero h
  · intro hzero
    by_cases hone : n.value? = some 1
    · exact .inl (boostSuffix_eq_nil_iff.2 hone)
    · obtain ⟨s, c, e, hwritten, -, hsign⟩ := hn.exists_written
      obtain rfl : s = false := Bool.eq_false_of_not_eq_true (mt hsign.1 hzero)
      obtain ⟨l, htext, -⟩ := exists_weightText hwritten
      have htext : weightText n = l.text := htext
      rw [boostSuffix_of_ne_one hone, htext]
      exact .inr ⟨l.text, rfl, l.text_ne_nil, fun c => l.isDigit_or_eq_point_of_mem_text,
        l.count_point_text_le⟩

end LuceneQuery
