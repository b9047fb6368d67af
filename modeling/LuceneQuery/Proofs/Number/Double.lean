import LuceneQuery.Proofs.Number.Rounding

/-!
# The double nearest to a quotient

A double is read off a quotient of naturals by rounding it half to even at the
last place that a double of its size has (`Double.placeOf`).  So the result is a
given double if and only if that double is the nearest multiple of the place
(`Double.ofRatio_eq_finite_iff`), and it depends on nothing but the value of the
quotient.

A larger value is not rounded to a smaller one (`Double.nearest_le`).  So what
lies between two numbers that are read as one double is read as it too.  What
lies less than half a place from a double is read as that double
(`Double.nearest_of_near`), where half of half a place counts below a power of
two.
-/

namespace LuceneQuery.Double

/-- The exponent of the last place of a double next to a value. -/
def placeOf (q : ℚ) : Int := max (Int.log 2 q - 52) (-1074)

/-! ## Places -/

section

variable {q q' : ℚ}

theorem placeOf_mono (hq : 0 < q) (h : q ≤ q') : placeOf q ≤ placeOf q' :=
  max_le_max (sub_le_sub_right (Int.log_mono_right hq h) 52) le_rfl

theorem two_zpow_add (n : Nat) (e : Int) : (2 : ℚ) ^ (e + n) = 2 ^ n * 2 ^ e := by
  rw [add_comm, zpow_add₀ (by norm_num), zpow_natCast]

/-- A number has no more than 53 binary digits before its last place. -/
theorem lt_placeOf (q : ℚ) : q < 2 ^ 53 * 2 ^ placeOf q := by
  calc q < ((2 : Nat) : ℚ) ^ (Int.log 2 q + 1) := Int.lt_zpow_succ_log_self (by decide) q
    _ ≤ 2 ^ (placeOf q + (53 : Nat)) := by
      rw [Nat.cast_ofNat]
      apply zpow_le_zpow_right₀ (by norm_num)
      have hle := le_max_left (Int.log 2 q - 52) (-1074)
      rw [placeOf]
      omega
    _ = 2 ^ 53 * 2 ^ placeOf q := two_zpow_add 53 _

theorem placeOf_le (hq : 0 < q) : placeOf q = -1074 ∨ 2 ^ 52 * 2 ^ placeOf q ≤ q := by
  rcases max_choice (Int.log 2 q - 52) (-1074) with h | h
  · right
    calc (2 : ℚ) ^ 52 * 2 ^ placeOf q = 2 ^ (placeOf q + (52 : Nat)) := (two_zpow_add 52 _).symm
      _ = ((2 : Nat) : ℚ) ^ Int.log 2 q := by
        rw [placeOf, h, Nat.cast_ofNat]
        congr 1
        omega
      _ ≤ q := Int.zpow_log_le_self (by decide) hq
  · exact .inl h

/-- The last place is the one that leaves exactly 53 digits. -/
theorem placeOf_eq {e : Int} (hlow : 2 ^ 52 * 2 ^ e ≤ q) (hhigh : q < 2 ^ 53 * 2 ^ e)
    (he : -1074 ≤ e) : placeOf q = e := by
  have hlog : Int.log 2 q = e + 52 := by
    apply log_eq_of_le_of_lt (by decide) <;> rw [Nat.cast_ofNat]
    · exact (two_zpow_add 52 e).trans_le hlow
    · rw [add_assoc]
      exact hhigh.trans_eq (two_zpow_add 53 e).symm
  rw [placeOf, hlog]
  omega

theorem placeOf_eq_least (hq : 0 < q) (h : q < 2 ^ 53 * 2 ^ (-1074 : Int)) :
    placeOf q = -1074 := by
  rcases placeOf_le hq with hleast | hlow
  · exact hleast
  · have hle : -1074 ≤ placeOf q := le_max_right _ _
    by_contra hne
    have hstep : (2 : ℚ) ^ 53 * 2 ^ (-1074 : Int) ≤ 2 ^ 52 * 2 ^ placeOf q := by
      rw [← two_zpow_add 53, ← two_zpow_add 52]
      exact zpow_le_zpow_right₀ (by norm_num) (by omega)
    linarith

/-! ## Rounding at the last place -/

/-- Whether a value is the one that `q` is rounded to at the last place of a
double. -/
abbrev Nearest (q r : ℚ) : Prop := IsNearest (2 ^ placeOf q) q r

theorem nearest_le {r r' : ℚ} (hq : 0 < q) (h : Nearest q r) (h' : Nearest q' r') (hle : q ≤ q') :
    r ≤ r' := by
  rcases (placeOf_mono hq hle).eq_or_lt with hplace | hplace
  · rw [Nearest, ← hplace] at h'
    exact IsNearest.le (by positivity) h h' hle
  · -- Between the two values lies a power of two, which both places reach.
    have hlow : 2 ^ 52 * 2 ^ placeOf q' ≤ q' := by
      refine (placeOf_le (hq.trans_le hle)).resolve_left ?_
      have hle : -1074 ≤ placeOf q := le_max_right _ _
      omega
    have hr : r ≤ 2 ^ 53 * 2 ^ placeOf q := by
      have htop : IsNearest (2 ^ placeOf q) (2 ^ 53 * 2 ^ placeOf q) (2 ^ 53 * 2 ^ placeOf q) :=
        IsNearest.of_eq_mul (m := 2 ^ 53) (by positivity) (by norm_num)
      exact h.le (by positivity) htop (lt_placeOf q).le
    have hr' : 2 ^ 52 * 2 ^ placeOf q' ≤ r' := by
      have hbottom : IsNearest (2 ^ placeOf q') (2 ^ 52 * 2 ^ placeOf q')
          (2 ^ 52 * 2 ^ placeOf q') :=
        IsNearest.of_eq_mul (m := 2 ^ 52) (by positivity) (by norm_num)
      exact hbottom.le (by positivity) h' hlow
    calc r ≤ 2 ^ 53 * 2 ^ placeOf q := hr
      _ ≤ 2 ^ 52 * 2 ^ placeOf q' := by
        rw [← two_zpow_add 53, ← two_zpow_add 52]
        exact zpow_le_zpow_right₀ (by norm_num) (by omega)
      _ ≤ r' := hr'

/-- Each number has a nearest double, of any range. -/
theorem exists_nearest (q : ℚ) (hq : 0 ≤ q) : ∃ r, Nearest q r := by
  have hunit : (0 : ℚ) < 2 ^ placeOf q := by positivity
  have h := isNearest_roundHalfEven hunit (q / 2 ^ placeOf q).num.toNat
    (q / 2 ^ placeOf q).den_pos
  have hnum : (((q / 2 ^ placeOf q).num.toNat : Nat) : ℚ) = (q / 2 ^ placeOf q).num := by
    have hnonneg : 0 ≤ (q / 2 ^ placeOf q).num := Rat.num_nonneg.2 (by positivity)
    exact_mod_cast Int.toNat_of_nonneg hnonneg
  rw [hnum, Rat.num_div_den, div_mul_cancel₀ _ hunit.ne'] at h
  exact ⟨_, h⟩

/-- What lies between two values that are rounded to one is rounded to it too. -/
theorem nearest_of_le_of_le {q₁ q₂ r : ℚ} (hq : 0 < q₁) (h₁ : Nearest q₁ r) (h₂ : Nearest q₂ r)
    (hlow : q₁ ≤ q) (hhigh : q ≤ q₂) : Nearest q r := by
  obtain ⟨s, hs⟩ := exists_nearest q (hq.le.trans hlow)
  have hrs := nearest_le hq h₁ hs hlow
  have hsr := nearest_le (hq.trans_le hlow) hs h₂ hhigh
  rwa [le_antisymm hsr hrs] at hs

end

/-! ## Canonical forms -/

section

variable {m n : Nat} {e f : Int}

/-- A value has one form with a mantissa of full length or the least exponent. -/
theorem eq_of_mul_zpow_eq (hm : m < 2 ^ 53) (hn : n < 2 ^ 53) (hm' : 2 ^ 52 ≤ m ∨ e = -1074)
    (hn' : 2 ^ 52 ≤ n ∨ f = -1074) (he : -1074 ≤ e) (hf : -1074 ≤ f)
    (h : (m : ℚ) * 2 ^ e = n * 2 ^ f) : m = n ∧ e = f := by
  have hle : ∀ {m n : Nat} {e f : Int}, m < 2 ^ 53 → (2 ^ 52 ≤ n ∨ f = -1074) → -1074 ≤ e →
      (m : ℚ) * 2 ^ e = n * 2 ^ f → f ≤ e := by
    intro m n e f hm hn he h
    by_contra hlt
    obtain ⟨k, hk⟩ : ∃ k : Nat, f = e + (k + 1 : Nat) := ⟨(f - e - 1).toNat, by omega⟩
    rw [hk, two_zpow_add, ← mul_assoc] at h
    have hmul : m = n * 2 ^ (k + 1) := by
      exact_mod_cast mul_right_cancel₀ (zpow_ne_zero e (by norm_num : (2 : ℚ) ≠ 0)) h
    have hfull : 2 ^ 52 ≤ n := hn.resolve_right (by omega)
    have hbig : 2 ^ 52 * 2 ≤ m := by
      calc 2 ^ 52 * 2 ≤ n * 2 ^ (k + 1) := by
            apply Nat.mul_le_mul hfull
            calc 2 = 2 ^ 1 := rfl
              _ ≤ 2 ^ (k + 1) := Nat.pow_le_pow_right (by decide) (by omega)
        _ = m := hmul.symm
    omega
  have hef : e = f := Int.le_antisymm (hle hn hm' hf h.symm) (hle hm hn' he h)
  subst hef
  exact ⟨by exact_mod_cast mul_right_cancel₀ (zpow_ne_zero e (by norm_num : (2 : ℚ) ≠ 0)) h, rfl⟩

/-! ## The double of a quotient -/

theorem mul_twoTo_div_mul_twoTo (num den : Nat) (e : Int) :
    ((num * twoTo (-e).toNat : Nat) : ℚ) / (den * twoTo e.toNat : Nat) * 2 ^ e = num / den := by
  have h := mul_pow_div_mul_pow (b := 2) (by decide) num den e
  rwa [Nat.cast_ofNat] at h

variable {num den : Nat}

/-- The last place of a ratio is computed. -/
theorem lastPlace_eq (hnum : num ≠ 0) (hden : den ≠ 0) :
    lastPlace num den = placeOf (num / den) := by
  let k : Int := (num.log2 : Int) - den.log2
  have hcond : num * twoTo (-(k - 52)).toNat < twoTo 52 * den * twoTo (k - 52).toNat ↔
      (num : ℚ) / den < (2 : Nat) ^ k := by
    have hpos : (0 : ℚ) < ((den * twoTo (k - 52).toNat : Nat) : ℚ) := by
      exact_mod_cast Nat.mul_pos (Nat.pos_of_ne_zero hden) (Nat.pow_pos (by decide))
    have hk : ((2 : Nat) : ℚ) ^ k = 2 ^ 52 * 2 ^ (k - 52) := by
      rw [← two_zpow_add 52, Nat.cast_ofNat]
      congr 1
      omega
    rw [← mul_twoTo_div_mul_twoTo num den (k - 52), hk,
      mul_lt_mul_iff_of_pos_right (by positivity), div_lt_iff₀ hpos, Nat.mul_assoc]
    exact_mod_cast Iff.rfl
  have hlog : Int.log 2 ((num : ℚ) / den) =
      if num * twoTo (-(k - 52)).toNat < twoTo 52 * den * twoTo (k - 52).toNat then k - 1
      else k := by
    rw [if_congr hcond rfl rfl]
    apply log_div (by decide)
    · exact_mod_cast Nat.log2_self_le hnum
    · exact_mod_cast Nat.lt_log2_self
    · exact_mod_cast Nat.log2_self_le hden
    · exact_mod_cast Nat.lt_log2_self
  rw [placeOf, hlog, lastPlace]
  simp only [k]
  split
  · congr 1
    omega
  · rfl

/-- The double of a mantissa and an exponent, which is infinite if the exponent is
too large. -/
def capped (negative : Bool) (m : Nat) (e : Int) : Double :=
  if h : CanonicalDouble m e then .finite negative m e h else .infinite negative

/-- The double of a rounded mantissa at a place.  A mantissa that has come to one
more digit is put at the next place. -/
def assemble (negative : Bool) (m : Nat) (e : Int) : Double :=
  if m = twoTo 53 then capped negative (twoTo 52) (e + 1) else capped negative m e

/-- A double that is not too large is what it is made of. -/
theorem capped_eq_finite_iff {negative : Bool} {k : Nat} {p : Int} (h : CanonicalDouble m e) :
    capped negative k p = .finite negative m e h ↔ k = m ∧ p = e := by
  unfold capped
  constructor
  · intro heq
    split at heq <;> cases heq
    exact ⟨rfl, rfl⟩
  · rintro ⟨rfl, rfl⟩
    rw [dif_pos h]

/-- A double is made of a number of places and the place, also if rounding has carried. -/
theorem assemble_eq_finite_iff {negative : Bool} {k : Nat} {p : Int} (hle : k ≤ 2 ^ 53)
    (hfull : 2 ^ 52 ≤ k ∨ p = -1074) (hp : -1074 ≤ p) (h : CanonicalDouble m e) :
    assemble negative k p = .finite negative m e h ↔ (k : ℚ) * 2 ^ p = m * 2 ^ e := by
  have hunique : ∀ {k : Nat} {p : Int}, k < 2 ^ 53 → (2 ^ 52 ≤ k ∨ p = -1074) → -1074 ≤ p →
      (k = m ∧ p = e ↔ (k : ℚ) * 2 ^ p = m * 2 ^ e) := by
    intro k p hlt hfull hp
    constructor
    · rintro ⟨rfl, rfl⟩
      rfl
    · exact eq_of_mul_zpow_eq hlt h.1 hfull h.2.2.2 hp h.2.1
  unfold assemble
  split
  · next hk =>
    have hvalue : (k : ℚ) * 2 ^ p = (twoTo 52 : Nat) * 2 ^ (p + 1) := by
      rw [hk, cast_twoTo, cast_twoTo, zpow_add_one₀ (by norm_num)]
      ring
    rw [capped_eq_finite_iff, hvalue]
    exact hunique (by decide) (.inl le_rfl) (by omega)
  · next hk => rw [capped_eq_finite_iff, hunique (lt_of_le_of_ne hle hk) hfull hp]

/-- A ratio is read as the nearest double. -/
theorem exists_ofRatio_eq (negative : Bool) (hnum : num ≠ 0) (hden : den ≠ 0) :
    ∃ m : Nat, Nearest (num / den) (m * 2 ^ placeOf (num / den)) ∧
      ofRatio negative num den = assemble negative m (placeOf (num / den)) := by
  let e := placeOf (num / den)
  refine ⟨roundHalfEven (num * twoTo (-e).toNat) (den * twoTo e.toNat), ?_, ?_⟩
  · have hpos : 0 < den * twoTo e.toNat :=
      Nat.mul_pos (Nat.pos_of_ne_zero hden) (Nat.pow_pos (by decide))
    have hunit : (0 : ℚ) < 2 ^ e := by positivity
    have h := isNearest_roundHalfEven hunit (num * twoTo (-e).toNat) hpos
    rwa [mul_twoTo_div_mul_twoTo] at h
  · rw [ofRatio, if_neg hnum, lastPlace_eq hnum hden, assemble]
    dsimp only [e]
    split <;> rfl

/-- The mantissa of a rounded value has 53 digits, or fewer at the least place. -/
theorem mantissa_of_nearest {q : ℚ} (hq : 0 < q) {k : Nat} (h : Nearest q (k * 2 ^ placeOf q)) :
    k ≤ 2 ^ 53 ∧ (2 ^ 52 ≤ k ∨ placeOf q = -1074) := by
  have hunit : (0 : ℚ) < 2 ^ placeOf q := by positivity
  constructor
  · have htop : IsNearest (2 ^ placeOf q) (2 ^ 53 * 2 ^ placeOf q) (2 ^ 53 * 2 ^ placeOf q) :=
      IsNearest.of_eq_mul (m := 2 ^ 53) hunit (by norm_num)
    have hmul := h.le hunit htop (lt_placeOf q).le
    exact_mod_cast le_of_mul_le_mul_right hmul hunit
  · rcases placeOf_le hq with hleast | hlow
    · exact .inr hleast
    · have hbottom : IsNearest (2 ^ placeOf q) (2 ^ 52 * 2 ^ placeOf q)
          (2 ^ 52 * 2 ^ placeOf q) := IsNearest.of_eq_mul (m := 2 ^ 52) hunit (by norm_num)
      have hmul := hbottom.le hunit h hlow
      exact .inl (by exact_mod_cast le_of_mul_le_mul_right hmul hunit)

theorem ratio_pos (hnum : num ≠ 0) (hden : den ≠ 0) : (0 : ℚ) < num / den :=
  div_pos (by exact_mod_cast Nat.pos_of_ne_zero hnum) (by exact_mod_cast Nat.pos_of_ne_zero hden)

/-- A quotient is read as a double if and only if the double is the nearest
multiple of its last place. -/
theorem ofRatio_eq_finite_iff {negative : Bool} (hnum : num ≠ 0) (hden : den ≠ 0)
    (h : CanonicalDouble m e) :
    ofRatio negative num den = .finite negative m e h ↔ Nearest (num / den) (m * 2 ^ e) := by
  obtain ⟨k, hnear, hratio⟩ := exists_ofRatio_eq negative hnum hden
  obtain ⟨hle, hfull⟩ := mantissa_of_nearest (ratio_pos hnum hden) hnear
  rw [hratio, assemble_eq_finite_iff hle hfull (le_max_right _ _) h]
  constructor
  · intro heq
    rwa [heq] at hnear
  · exact hnear.unique (by positivity)

theorem ofRatio_congr {num' den' : Nat} (negative : Bool) (hden : den ≠ 0) (hden' : den' ≠ 0)
    (h : (num : ℚ) / den = num' / den') :
    ofRatio negative num den = ofRatio negative num' den' := by
  have hdenq : (den : ℚ) ≠ 0 := by exact_mod_cast hden
  have hdenq' : (den' : ℚ) ≠ 0 := by exact_mod_cast hden'
  have hzero : num = 0 ↔ num' = 0 := by
    have hiff : (num : ℚ) / den = 0 ↔ (num' : ℚ) / den' = 0 := by rw [h]
    simpa [hdenq, hdenq'] using hiff
  by_cases hnum : num = 0
  · rw [ofRatio, ofRatio, if_pos hnum, if_pos (hzero.1 hnum)]
  · obtain ⟨k, hnear, hratio⟩ := exists_ofRatio_eq negative hnum hden
    obtain ⟨k', hnear', hratio'⟩ :=
      exists_ofRatio_eq negative (fun hz => hnum (hzero.2 hz)) hden'
    rw [← h] at hnear' hratio'
    have hsame := hnear.unique (by positivity) hnear'
    have hk : k = k' := by
      exact_mod_cast mul_right_cancel₀ (zpow_ne_zero _ (by norm_num : (2 : ℚ) ≠ 0)) hsame
    rw [hratio, hratio', hk]

/-! ## What is near to a double -/

/-- What lies less than a quarter of a place below a power of two is rounded to it. -/
theorem nearest_of_near_power {q : ℚ} (he : -1074 < e) (hbelow : q < 2 ^ 52 * 2 ^ e)
    (hnear : 4 * |q - 2 ^ 52 * 2 ^ e| < 2 ^ e) : Nearest q (2 ^ 52 * 2 ^ e) := by
  have hunit : (0 : ℚ) < 2 ^ (e - 1) := by positivity
  have hhalf : (2 : ℚ) ^ e = 2 * 2 ^ (e - 1) := by
    rw [← zpow_one_add₀ (by norm_num)]
    congr 1
    omega
  obtain ⟨hlow, -⟩ := abs_lt.1 ((lt_div_iff₀' (by norm_num)).2 hnear)
  have hplace : placeOf q = e - 1 := by
    apply placeOf_eq
    · linarith
    · linarith
    · omega
  have hpower : (2 : ℚ) ^ 52 * 2 ^ e = (2 ^ 53 : Nat) * 2 ^ (e - 1) := by
    rw [hhalf]
    push_cast
    ring
  rw [Nearest, hplace, hpower]
  apply IsNearest.of_lt
  rw [← hpower]
  linarith

/-- What lies less than half a place from a double is rounded to it.  Below a power
of two the places are half as wide. -/
theorem nearest_of_near {q : ℚ} (h : CanonicalDouble m e) (hm : m ≠ 0)
    (hnear : 2 * |q - m * 2 ^ e| < 2 ^ e) (hpower : m = 2 ^ 52 → 4 * |q - m * 2 ^ e| < 2 ^ e) :
    Nearest q (m * 2 ^ e) := by
  obtain ⟨hlow, hhigh⟩ := abs_lt.1 ((lt_div_iff₀' (by norm_num)).2 hnear)
  have hone : (1 : ℚ) ≤ m := by exact_mod_cast Nat.one_le_iff_ne_zero.2 hm
  have htop : (m : ℚ) + 1 ≤ 2 ^ 53 := by exact_mod_cast h.1
  have hunit : (0 : ℚ) < 2 ^ e := by positivity
  have hqpos : 0 < q := by nlinarith
  have hqtop : q < 2 ^ 53 * 2 ^ e := by nlinarith
  by_cases hfull : 2 ^ 52 * 2 ^ e ≤ q
  · rw [Nearest, placeOf_eq hfull hqtop h.2.1]
    exact IsNearest.of_lt hnear
  · by_cases he : e = -1074
    · subst he
      rw [Nearest, placeOf_eq_least hqpos hqtop]
      exact IsNearest.of_lt hnear
    · -- The double is a power of two, and `q` lies below it.
      have hm52 : m = 2 ^ 52 := by
        have hle : 2 ^ 52 ≤ m := h.2.2.2.resolve_right he
        by_contra hne
        have hlt : (2 : ℚ) ^ 52 + 1 ≤ m := by exact_mod_cast lt_of_le_of_ne hle (Ne.symm hne)
        nlinarith
      have hquarter := hpower hm52
      have hmq : (m : ℚ) = 2 ^ 52 := by exact_mod_cast hm52
      rw [hmq] at hquarter ⊢
      exact nearest_of_near_power (lt_of_le_of_ne h.2.1 (Ne.symm he)) (not_le.1 hfull) hquarter

end

end LuceneQuery.Double
