import LuceneQuery.Proofs.Number.Double

/-!
# The shortest decimal of a double

A decimal is read as a double if it lies in reach and the double is the nearest
one (`Double.IsReadAs`, `Double.ofDecimal_eq_finite_iff`).  What is read as a given
double is an interval around it, so on each grid of decimals it is enough to try
the two neighbours of the double (`Double.exists_neighbour_isReadAs`), and on the
grid of seventeen digits one of them is read as it
(`Double.exists_neighbour_seventeen`).  Hence the search ends, what it finds reads
back, and nothing with fewer digits does (`Double.isShortest_shortestDigits`).
-/

namespace LuceneQuery.Double

open Decimal

/-! ## Reading a decimal -/

/-- Whether the first digit of a value is at a place that a double can have. -/
def InReach (q : ℚ) : Prop :=
  -decimalReach ≤ Int.log 10 q + 1 ∧ Int.log 10 q + 1 ≤ decimalReach

/-- Whether `q` is read as the double of value `r`. -/
structure IsReadAs (q r : ℚ) : Prop where
  pos : 0 < q
  inReach : InReach q
  nearest : Nearest q r

theorem IsReadAs.ne_zero {c : Nat} {f : Int} {r : ℚ} (h : IsReadAs (magnitude c f) r) : c ≠ 0 := by
  rintro rfl
  exact h.pos.ne' (magnitude_zero f)

/-- What lies between two values that are read as one double is read as it too. -/
theorem IsReadAs.of_le_of_le {p q p' r : ℚ} (h : IsReadAs p r) (h' : IsReadAs p' r) (hlow : p ≤ q)
    (hhigh : q ≤ p') : IsReadAs q r := by
  have hpos := h.pos.trans_le hlow
  refine ⟨hpos, ⟨?_, ?_⟩, nearest_of_le_of_le h.pos h.nearest h'.nearest hlow hhigh⟩
  · exact h.inReach.1.trans (Int.add_le_add_right (Int.log_mono_right h.pos hlow) 1)
  · exact le_trans (Int.add_le_add_right (Int.log_mono_right hpos hhigh) 1) h'.inReach.2

section

variable {m c d : Nat} {e f g : Int} {negative : Bool}

/-- A decimal is read as a ratio, unless it is far too small or too large. -/
theorem ofDecimal_eq (hc : c ≠ 0) : ofDecimal negative c f =
    if Int.log 10 (magnitude c f) + 1 < -decimalReach then zero negative
    else if decimalReach < Int.log 10 (magnitude c f) + 1 then .infinite negative
    else ofRatio negative (c * tenTo f.toNat) (tenTo (-f).toNat) := by
  have hplace : ((digits c).length : Int) + f = Int.log 10 (magnitude c f) + 1 := by
    rw [log_magnitude hc]
    omega
  rw [ofDecimal, ← hplace]
  simp only [hc, false_or]
  rfl

theorem zero_ne_finite (hm : m ≠ 0) (h : CanonicalDouble m e) :
    zero negative ≠ .finite negative m e h := by
  intro heq
  cases heq
  exact hm rfl

/-- A decimal is read as a double if and only if it lies in reach and the double is
the nearest one. -/
theorem ofDecimal_eq_finite_iff (hm : m ≠ 0) (h : CanonicalDouble m e) :
    ofDecimal negative c f = .finite negative m e h ↔ IsReadAs (magnitude c f) (m * 2 ^ e) := by
  by_cases hc : c = 0
  · subst hc
    exact iff_of_false (zero_ne_finite hm h) fun hread => hread.ne_zero rfl
  · have hnum : c * tenTo f.toNat ≠ 0 := Nat.mul_ne_zero hc (tenTo_ne_zero _)
    rw [ofDecimal_eq hc]
    split
    · next hlow =>
      exact iff_of_false (zero_ne_finite hm h) fun hread => not_le.2 hlow hread.inReach.1
    · next hlow =>
      split
      · next hhigh =>
        exact iff_of_false Double.noConfusion fun hread => not_le.2 hhigh hread.inReach.2
      · next hhigh =>
        rw [ofRatio_eq_finite_iff hnum (tenTo_ne_zero _) h, ← magnitude_eq_div]
        exact ⟨fun hnear => ⟨magnitude_pos hc, ⟨not_lt.1 hlow, not_lt.1 hhigh⟩, hnear⟩,
          fun hread => hread.nearest⟩

theorem ofDecimal_congr (negative : Bool) (h : magnitude c f = magnitude d g) :
    ofDecimal negative c f = ofDecimal negative d g := by
  have hzero : c = 0 ↔ d = 0 := by
    rw [← magnitude_eq_zero_iff (e := f), h, magnitude_eq_zero_iff]
  by_cases hc : c = 0
  · rw [hc, hzero.1 hc]
    rfl
  · have hratio : ofRatio negative (c * tenTo f.toNat) (tenTo (-f).toNat) =
        ofRatio negative (d * tenTo g.toNat) (tenTo (-g).toNat) := by
      apply ofRatio_congr negative (tenTo_ne_zero _) (tenTo_ne_zero _)
      rw [← magnitude_eq_div, ← magnitude_eq_div, h]
    rw [ofDecimal_eq hc, ofDecimal_eq fun hd => hc (hzero.2 hd), h, hratio]

/-! ## What is read as a double -/

theorem two_pow_le_ten_pow (k : Nat) : (2 : ℚ) ^ (3 * k) ≤ 10 ^ k := by
  rw [pow_mul]
  exact pow_le_pow_left₀ (by norm_num) (by norm_num) k

theorem neg_le_log {q : ℚ} {k : Nat} (h : 2 ^ (-(3 * k : Nat) : Int) ≤ q) :
    -(k : Int) ≤ Int.log 10 q := by
  have hpos : 0 < q := lt_of_lt_of_le (by positivity) h
  apply (Int.zpow_le_iff_le_log (by decide) hpos).1
  refine le_trans ?_ h
  rw [Nat.cast_ofNat, zpow_neg, zpow_neg, zpow_natCast, zpow_natCast]
  exact inv_anti₀ (by positivity) (two_pow_le_ten_pow k)

theorem log_lt {q : ℚ} {k : Nat} (hpos : 0 < q) (h : q < 2 ^ ((3 * k : Nat) : Int)) :
    Int.log 10 q < k := by
  apply (Int.lt_zpow_iff_log_lt (by decide) hpos).1
  rw [Nat.cast_ofNat, zpow_natCast]
  rw [zpow_natCast] at h
  exact h.trans_le (two_pow_le_ten_pow k)

/-- What is not below half the least double and not above the greatest one by more
than a place is in reach. -/
theorem inReach_of_le_of_lt {q : ℚ} (hlow : 2 ^ (-1075 : Int) ≤ q) (hhigh : q < 2 ^ (1024 : Int)) :
    InReach q := by
  have hpos : 0 < q := lt_of_lt_of_le (by positivity) hlow
  have hge : -((401 : Nat) : Int) ≤ Int.log 10 q :=
    neg_le_log ((zpow_le_zpow_right₀ (by norm_num) (by decide)).trans hlow)
  have hlt : Int.log 10 q < ((400 : Nat) : Int) :=
    log_lt hpos (hhigh.trans_le (zpow_le_zpow_right₀ (by norm_num) (by decide)))
  rw [InReach, decimalReach]
  omega

/-- What is less than half a unit away from a double is read as it, or a quarter below a power
of two. -/
theorem isReadAs_of_near {q : ℚ} (h : CanonicalDouble m e) (hm : m ≠ 0)
    (hnear : 2 * |q - m * 2 ^ e| < 2 ^ e) (hpower : m = 2 ^ 52 → 4 * |q - m * 2 ^ e| < 2 ^ e) :
    IsReadAs q (m * 2 ^ e) := by
  have hunit : (0 : ℚ) < 2 ^ e := by positivity
  obtain ⟨hlow, hhigh⟩ := abs_lt.1 ((lt_div_iff₀' (by norm_num)).2 hnear)
  have hone : (1 : ℚ) ≤ m := by exact_mod_cast Nat.one_le_iff_ne_zero.2 hm
  have htop : (m : ℚ) + 1 ≤ 2 ^ 53 := by exact_mod_cast h.1
  have hhalf : 2 ^ e / 2 ≤ q := by nlinarith
  have hbelow : q < 2 ^ 53 * 2 ^ e := by nlinarith
  refine ⟨lt_of_lt_of_le (by positivity) hhalf, inReach_of_le_of_lt ?_ ?_,
    nearest_of_near h hm hnear hpower⟩
  · calc (2 : ℚ) ^ (-1075 : Int) ≤ 2 ^ (e - 1) :=
          zpow_le_zpow_right₀ (by norm_num) (by have := h.2.1; omega)
      _ = 2 ^ e / 2 := zpow_sub_one₀ (by norm_num) e
      _ ≤ q := hhalf
  · calc q < 2 ^ 53 * 2 ^ e := hbelow
      _ = 2 ^ (e + (53 : Nat)) := (two_zpow_add 53 e).symm
      _ ≤ 2 ^ (1024 : Int) := zpow_le_zpow_right₀ (by norm_num) (by have := h.2.2.1; omega)

theorem isReadAs_self (h : CanonicalDouble m e) (hm : m ≠ 0) :
    IsReadAs (m * 2 ^ e) ((m : ℚ) * 2 ^ e) := by
  have hunit : (0 : ℚ) < 2 ^ e := by positivity
  apply isReadAs_of_near h hm
  · rwa [sub_self, abs_zero, mul_zero]
  · intro _
    rwa [sub_self, abs_zero, mul_zero]

end

/-! ## The grid of a place -/

section

variable {num den : Nat} {place : Int} {x : DecimalDigits}

theorem decimalMagnitude_eq (hnum : num ≠ 0) (hden : den ≠ 0) :
    decimalMagnitude num den = Int.log 10 ((num : ℚ) / den) + 1 := by
  let k : Int := ((digits num).length : Int) - (digits den).length
  have hcond : num * tenTo (-k).toNat < den * tenTo k.toNat ↔
      (num : ℚ) / den < (10 : Nat) ^ k := by
    have hpos : (0 : ℚ) < ((den * tenTo k.toNat : Nat) : ℚ) := by
      exact_mod_cast Nat.mul_pos (Nat.pos_of_ne_zero hden) (Nat.pow_pos (by decide))
    rw [← mul_pow_div_mul_pow (b := 10) (by decide) num den k,
      mul_lt_iff_lt_one_left (by positivity), div_lt_one hpos, Nat.cast_lt]
  have hfirst : ∀ {n : Nat}, n ≠ 0 → ((10 : Nat) : ℚ) ^ (((digits n).length : Int) - 1) ≤ n := by
    intro n hn
    have hlength := length_digits_pos n
    have hcast : ((digits n).length : Int) - 1 = ((digits n).length - 1 : Nat) := by omega
    rw [hcast, zpow_natCast]
    exact_mod_cast pow_length_digits_le hn
  have hlast : ∀ n : Nat, (n : ℚ) < (10 : Nat) ^ (((digits n).length : Int) - 1 + 1) := by
    intro n
    rw [Int.sub_add_cancel, zpow_natCast]
    exact_mod_cast lt_pow_length_digits n
  have hlog := log_div (b := 10) (by decide) (hfirst hnum) (hlast num) (hfirst hden) (hlast den)
  have hk : ((digits num).length : Int) - 1 - ((digits den).length - 1) = k := by
    simp only [k]
    omega
  rw [hk] at hlog
  rw [hlog, ← if_congr hcond rfl rfl, decimalMagnitude]
  simp only [k, digits]
  split <;> omega

/-- How many steps of the grid of a place fit below a quotient. -/
def stepsBelow (num den : Nat) (place : Int) : Nat :=
  num * tenTo (-place).toNat / (den * tenTo place.toNat)

theorem le_stepsBelow_iff (hden : den ≠ 0) {k : Nat} :
    k ≤ stepsBelow num den place ↔ magnitude k place ≤ num / den := by
  have hpos : 0 < den * tenTo place.toNat :=
    Nat.pos_of_ne_zero (Nat.mul_ne_zero hden (tenTo_ne_zero _))
  have hposq : (0 : ℚ) < ((den * tenTo place.toNat : Nat) : ℚ) := by exact_mod_cast hpos
  have hunit : (0 : ℚ) < 10 ^ place := by positivity
  have hscale := mul_pow_div_mul_pow (b := 10) (by decide) num den place
  rw [Nat.cast_ofNat] at hscale
  rw [stepsBelow, Nat.le_div_iff_mul_le hpos, magnitude, ← hscale,
    mul_le_mul_iff_of_pos_right hunit, le_div_iff₀ hposq]
  exact_mod_cast Iff.rfl

/-- The neighbours of a ratio at a place are the last step below it and the next one. -/
theorem mem_neighbours_iff : x ∈ neighbours num den place ↔
    x = (stepsBelow num den place, place) ∨ x = (stepsBelow num den place + 1, place) := by
  unfold neighbours
  dsimp only
  split
  · rw [List.mem_pair]
    rfl
  · rw [List.mem_pair]
    exact or_comm

theorem magnitude_stepsBelow_le (hden : den ≠ 0) :
    magnitude (stepsBelow num den place) place ≤ num / den := (le_stepsBelow_iff hden).1 le_rfl

theorem lt_magnitude_stepsBelow (hden : den ≠ 0) :
    num / den < magnitude (stepsBelow num den place + 1) place :=
  not_le.1 (mt (le_stepsBelow_iff hden).2 (Nat.not_succ_le_self _))

/-- One of the neighbours is at most half a step away. -/
theorem exists_neighbour_near (num : Nat) (hden : den ≠ 0) (place : Int) :
    ∃ x ∈ neighbours num den place,
      2 * |magnitude x.1 x.2 - num / den| ≤ 10 ^ place := by
  have hlow : magnitude (stepsBelow num den place) place ≤ num / den :=
    magnitude_stepsBelow_le hden
  have hhigh : num / den < magnitude (stepsBelow num den place + 1) place :=
    lt_magnitude_stepsBelow hden
  have hstep : magnitude (stepsBelow num den place + 1) place =
      magnitude (stepsBelow num den place) place + 10 ^ place := by
    simp only [magnitude]
    push_cast
    ring
  by_cases hhalf : 2 * ((num : ℚ) / den - magnitude (stepsBelow num den place) place) ≤ 10 ^ place
  · refine ⟨_, mem_neighbours_iff.2 (.inl rfl), ?_⟩
    rw [abs_of_nonpos (by linarith)]
    linarith
  · refine ⟨_, mem_neighbours_iff.2 (.inr rfl), ?_⟩
    rw [abs_of_nonneg (by linarith)]
    linarith

/-- A neighbour has no more digits than its grid has, or is a power of ten. -/
theorem le_of_mem_neighbours {count : Nat} (hden : den ≠ 0)
    (hplace : Int.log 10 ((num : ℚ) / den) + 1 = place + count)
    (h : x ∈ neighbours num den place) : x.1 ≤ 10 ^ count := by
  have hlt : stepsBelow num den place < 10 ^ count := by
    by_contra hle
    have hmul := (le_stepsBelow_iff hden).1 (not_lt.1 hle)
    have htop : (num : ℚ) / den < (10 : Nat) ^ (Int.log 10 ((num : ℚ) / den) + 1) :=
      Int.lt_zpow_succ_log_self (by decide) _
    rw [hplace, ← magnitude_pow_ten] at htop
    exact absurd hmul (not_le.2 htop)
  rcases mem_neighbours_iff.1 h with rfl | rfl
  · exact hlt.le
  · exact hlt

/-- A decimal below a quotient is at most as many steps of the grid of its count of
digits as fit below the quotient. -/
theorem le_magnitude_stepsBelow {c : Nat} {f : Int} (hc : c ≠ 0) (hden : den ≠ 0)
    (hplace : Int.log 10 ((num : ℚ) / den) + 1 = place + (digits c).length)
    (hle : magnitude c f ≤ num / den) :
    magnitude c f ≤ magnitude (stepsBelow num den place) place := by
  have hmono := Int.log_mono_right (b := 10) (magnitude_pos hc) hle
  rw [log_magnitude hc] at hmono
  have hf : f ≤ place := by omega
  obtain ⟨k, hk, hkq⟩ : ∃ k, magnitude c f ≤ magnitude k place ∧ magnitude k place ≤ num / den := by
    rcases hf.eq_or_lt with rfl | hlt
    · exact ⟨c, le_rfl, hle⟩
    · -- The first place of the decimal lies below that of the quotient.
      have hlength := length_digits_pos c
      have hpower : magnitude (10 ^ ((digits c).length - 1)) place =
          (10 : Nat) ^ Int.log 10 ((num : ℚ) / den) := by
        rw [magnitude_pow_ten]
        congr 1
        omega
      refine ⟨10 ^ ((digits c).length - 1), ?_, ?_⟩
      · rw [hpower]
        have htop := Int.lt_zpow_succ_log_self (b := 10) (by decide) (magnitude c f)
        rw [log_magnitude hc] at htop
        exact htop.le.trans (zpow_le_zpow_right₀ (by norm_num) (by omega))
      · rw [hpower]
        exact Int.zpow_log_le_self (by decide) ((magnitude_pos hc).trans_le hle)
  exact hk.trans (magnitude_mono ((le_stepsBelow_iff hden).2 hkq) place)

/-- If some decimal of a count of digits is read as a number, a neighbour of the number
on the grid of that count is. -/
theorem exists_neighbour_isReadAs {c : Nat} {f : Int} (hden : den ≠ 0)
    (hplace : Int.log 10 ((num : ℚ) / den) + 1 = place + (digits c).length)
    (hself : IsReadAs (num / den) (num / den)) (hread : IsReadAs (magnitude c f) (num / den)) :
    ∃ x ∈ neighbours num den place, IsReadAs (magnitude x.1 x.2) (num / den) := by
  have hc := hread.ne_zero
  rcases le_or_gt (magnitude c f) (num / den) with hle | hgt
  · exact ⟨_, mem_neighbours_iff.2 (.inl rfl), hread.of_le_of_le hself
      (le_magnitude_stepsBelow hc hden hplace hle) (magnitude_stepsBelow_le hden)⟩
  · refine ⟨_, mem_neighbours_iff.2 (.inr rfl),
      hself.of_le_of_le hread (lt_magnitude_stepsBelow hden).le ?_⟩
    have hf : place ≤ f := by
      have hmono := Int.log_mono_right (b := 10) hself.pos hgt.le
      rw [log_magnitude hc] at hmono
      omega
    -- The decimal is a number of steps of the grid too, and more of them than fit below.
    have hgrid : magnitude c f = magnitude (c * tenTo (f - place).toNat) place :=
      magnitude_eq_mul_of_le hf
    rw [hgrid] at hgt ⊢
    apply magnitude_mono
    exact Nat.succ_le_of_lt (not_le.1 (mt (le_stepsBelow_iff hden).1 (not_le.2 hgt)))

/-- A neighbour with seventeen digits is read as the double that it is next to. -/
theorem exists_neighbour_seventeen {m : Nat} {e : Int} (h : CanonicalDouble m e) (hm : m ≠ 0)
    (hden : den ≠ 0) (hq : (num : ℚ) / den = m * 2 ^ e)
    (hplace : Int.log 10 ((num : ℚ) / den) + 1 = place + (17 : Nat)) :
    ∃ x ∈ neighbours num den place, IsReadAs (magnitude x.1 x.2) (m * 2 ^ e) := by
  obtain ⟨x, hx, hnear⟩ := exists_neighbour_near num hden place
  rw [hq] at hnear hplace
  have hunit : (0 : ℚ) < 2 ^ e := by positivity
  have hpos : (0 : ℚ) < m * 2 ^ e :=
    mul_pos (by exact_mod_cast Nat.pos_of_ne_zero hm) hunit
  have hstep : 10 ^ 16 * 10 ^ place ≤ (m : ℚ) * 2 ^ e := by
    calc (10 : ℚ) ^ 16 * 10 ^ place = (10 : Nat) ^ Int.log 10 ((m : ℚ) * 2 ^ e) := by
          rw [Nat.cast_ofNat, ← zpow_natCast, ← zpow_add₀ (by norm_num)]
          congr 1
          omega
      _ ≤ m * 2 ^ e := Int.zpow_log_le_self (by decide) hpos
  have htop : (m : ℚ) + 1 ≤ 2 ^ 53 := by exact_mod_cast h.1
  refine ⟨x, hx, isReadAs_of_near h hm ?_ ?_⟩
  · nlinarith
  · intro hpower
    rw [hpower] at hnear hstep ⊢
    push_cast at hnear hstep ⊢
    nlinarith

end

/-! ## The search -/

section

variable {num den : Nat} {first : Int} {readsBack : DecimalDigits → Bool} {x : DecimalDigits}

/-- The search fails only if all neighbours on the grids that it looks at fail. -/
theorem eq_false_of_search_eq_none {count i : Nat}
    (h : search num den first readsBack count = none) (hi : i < count)
    (hx : x ∈ neighbours num den (first - (17 - i))) : readsBack x = false := by
  induction count with
  | zero => exact absurd hi (Nat.not_lt_zero i)
  | succ count ih =>
    rw [search] at h
    split at h
    · cases h
    · next hnone =>
      rcases Nat.lt_succ_iff_lt_or_eq.1 hi with hlt | rfl
      · exact ih h hlt
      · exact Bool.eq_false_of_not_eq_true (List.find?_eq_none.1 hnone x hx)

/-- What the search finds is on the coarsest grid with a neighbour that reads back. -/
theorem search_eq_some {count : Nat} (h : search num den first readsBack count = some x) :
    ∃ i < count, x ∈ neighbours num den (first - (17 - i)) ∧ readsBack x = true ∧
      ∀ j, i < j → j < count →
        ∀ y ∈ neighbours num den (first - (17 - j)), readsBack y = false := by
  induction count with
  | zero => cases h
  | succ count ih =>
    rw [search] at h
    split at h
    · next y hfind =>
      cases h
      exact ⟨count, Nat.lt_succ_self count, List.mem_of_find?_eq_some hfind,
        List.find?_some hfind, fun j hlow hhigh => by omega⟩
    · next hnone =>
      obtain ⟨i, hi, hx, hread, hcoarser⟩ := ih h
      refine ⟨i, Nat.lt_succ_of_lt hi, hx, hread, fun j hlow hhigh y hy => ?_⟩
      rcases Nat.lt_succ_iff_lt_or_eq.1 hhigh with hlt | rfl
      · exact hcoarser j hlow hlt y hy
      · exact Bool.eq_false_of_not_eq_true (List.find?_eq_none.1 hnone y hy)

end

/-! ## The shortest decimal -/

/-- Whether a decimal is read as the double of value `r`, and nothing shorter is. -/
structure IsShortest (x : DecimalDigits) (r : ℚ) : Prop where
  isReadAs : IsReadAs (magnitude x.1 x.2) r
  mod_ne_zero : x.1 % 10 ≠ 0
  length_le : (digits x.1).length ≤ 17
  length_le_of_isReadAs : ∀ {c : Nat} {f : Int}, IsReadAs (magnitude c f) r →
    (digits x.1).length ≤ (digits c).length

/-- Both ways to drop zeros are one. -/
theorem dropZeros_eq_stripZeros {c : Nat} (hc : c ≠ 0) (fuel : Nat) (f : Int) :
    dropZeros fuel (c, f) = stripZeros fuel c f := by
  induction fuel generalizing c f with
  | zero => rfl
  | succ fuel ih =>
    rw [dropZeros, stripZeros, if_neg hc]
    by_cases hend : c % 10 = 0
    · rw [if_pos ⟨hc, hend⟩, if_pos hend]
      exact ih (by omega) (f + 1)
    · rw [if_neg fun h => hend h.2, if_neg hend]

/-- Without its zeros a decimal of the least count of digits is the shortest one. -/
theorem isShortest_dropZeros {x : DecimalDigits} {r : ℚ} {count : Nat}
    (hread : IsReadAs (magnitude x.1 x.2) r) (hle : x.1 ≤ 10 ^ count) (hpos : 0 < count)
    (hcount : count ≤ 17)
    (hleast : ∀ {c : Nat} {f : Int}, IsReadAs (magnitude c f) r → count ≤ (digits c).length) :
    IsShortest (dropZeros 20 x) r := by
  have hx := hread.ne_zero
  have hfuel : x.1 < 10 ^ 20 := by
    calc x.1 ≤ 10 ^ count := hle
      _ ≤ 10 ^ 17 := Nat.pow_le_pow_right (by decide) hcount
      _ < 10 ^ 20 := by decide
  have hdrop : dropZeros 20 x = stripZeros 20 x.1 x.2 := dropZeros_eq_stripZeros hx 20 x.2
  obtain ⟨hend, hvalue⟩ := stripZeros_spec (e := x.2) hx hfuel
  rw [← hdrop] at hend hvalue
  have hlength : (digits (dropZeros 20 x).1).length ≤ count := by
    apply length_digits_le hpos
    refine lt_of_le_of_ne ?_ ?_
    · rw [hdrop]
      exact (stripZeros_le 20 x.1 x.2).trans hle
    · intro hpower
      obtain ⟨k, rfl⟩ := Nat.exists_eq_succ_of_ne_zero hpos.ne'
      rw [Nat.pow_succ] at hpower
      omega
  exact {
    isReadAs := hvalue ▸ hread
    mod_ne_zero := hend
    length_le := hlength.trans hcount
    length_le_of_isReadAs := fun hread => hlength.trans (hleast hread) }

theorem ratio_eq (m : Nat) (e : Int) :
    ((m * twoTo e.toNat : Nat) : ℚ) / (twoTo (-e).toNat : Nat) = m * 2 ^ e := by
  rw [zpow_eq_div (by norm_num), Nat.cast_mul, cast_twoTo, cast_twoTo, mul_div_assoc]

/-- A double other than zero is written with the shortest decimal that is read as it. -/
theorem isShortest_shortestDigits {m : Nat} {e : Int} (h : CanonicalDouble m e) (hm : m ≠ 0) :
    IsShortest (shortestDigits m e h) (m * 2 ^ e) := by
  have hnum : m * twoTo e.toNat ≠ 0 := Nat.mul_ne_zero hm (twoTo_ne_zero _)
  have hden : twoTo (-e).toNat ≠ 0 := twoTo_ne_zero _
  have hplace : ∀ {i : Nat}, i ≤ 17 →
      Int.log 10 (((m * twoTo e.toNat : Nat) : ℚ) / (twoTo (-e).toNat : Nat)) + 1 =
        decimalMagnitude (m * twoTo e.toNat) (twoTo (-e).toNat) - (17 - i) + (17 - i : Nat) := by
    intro i hi
    rw [← decimalMagnitude_eq hnum hden]
    omega
  have hreads : ∀ x : DecimalDigits,
      decide (ofDecimal false x.1 x.2 = .finite false m e h) = true ↔
        IsReadAs (magnitude x.1 x.2) (m * 2 ^ e) := fun x => by
    rw [decide_eq_true_iff, ofDecimal_eq_finite_iff hm h]
  have hratio := ratio_eq m e
  rw [shortestDigits, if_neg hm]
  split
  · next x hsearch =>
    obtain ⟨i, hi, hx, hread, hcoarser⟩ := search_eq_some hsearch
    have hread := (hreads x).1 hread
    refine isShortest_dropZeros hread (le_of_mem_neighbours hden (hplace hi.le) hx) (by omega)
      (Nat.sub_le 17 i) fun {c f} hshort => ?_
    by_contra hlt
    -- A decimal with fewer digits would have a neighbour on a coarser grid that reads back.
    have hlength := length_digits_pos c
    have hcount : 17 - (17 - (digits c).length) = (digits c).length := by omega
    have hcoarse := hplace (Nat.sub_le 17 (digits c).length)
    rw [hcount] at hcoarse
    have hself := isReadAs_self h hm
    rw [← hratio] at hself hshort
    obtain ⟨y, hy, hyread⟩ := exists_neighbour_isReadAs hden hcoarse hself hshort
    rw [hratio] at hyread
    have hfalse := hcoarser _ (by omega) (by omega) y hy
    rw [(hreads y).2 hyread] at hfalse
    cases hfalse
  · next hnone =>
    obtain ⟨x, hx, hread⟩ := exists_neighbour_seventeen h hm hden hratio (hplace (Nat.zero_le 17))
    have hfalse := eq_false_of_search_eq_none hnone (by decide : 0 < 17) hx
    rw [(hreads x).2 hread] at hfalse
    cases hfalse

/-! ## Doubles and their decimals -/

section

variable {m c : Nat} {e f : Int}

theorem eq_least_of_zero (h : CanonicalDouble 0 e) : e = -1074 :=
  h.2.2.2.resolve_left (by decide)

theorem shortestDigits_zero (h : CanonicalDouble 0 e) : shortestDigits 0 e h = (0, 0) := by
  rw [shortestDigits, if_pos rfl]

/-- The decimal that a double is written with is read as that double. -/
theorem ofDecimal_shortestDigits (negative : Bool) (h : CanonicalDouble m e) :
    ofDecimal negative (shortestDigits m e h).1 (shortestDigits m e h).2 =
      .finite negative m e h := by
  by_cases hm : m = 0
  · subst hm
    obtain rfl := eq_least_of_zero h
    rw [shortestDigits_zero]
    rfl
  · exact (ofDecimal_eq_finite_iff hm h).2 (isShortest_shortestDigits h hm).isReadAs

/-- No decimal with fewer digits is read as the double. -/
theorem length_shortestDigits_le (h : CanonicalDouble m e)
    (hread : ofDecimal false c f = .finite false m e h) :
    (digits (shortestDigits m e h).1).length ≤ (digits c).length := by
  by_cases hm : m = 0
  · subst hm
    rw [shortestDigits_zero]
    exact length_digits_pos c
  · exact (isShortest_shortestDigits h hm).length_le_of_isReadAs
      ((ofDecimal_eq_finite_iff hm h).1 hread)

/-- The first digit of the decimal lies where a double can have one. -/
theorem shortestDigits_inReach (h : CanonicalDouble m e) (hc : (shortestDigits m e h).1 ≠ 0) :
    -decimalReach ≤ (shortestDigits m e h).2 + (digits (shortestDigits m e h).1).length := by
  have hm : m ≠ 0 := by
    rintro rfl
    exact hc (by rw [shortestDigits_zero])
  have hreach := (isShortest_shortestDigits h hm).isReadAs.inReach.1
  rw [log_magnitude hc] at hreach
  omega

/-- A weight keeps all digits of a double. -/
theorem fits_shortestDigits (h : CanonicalDouble m e) :
    Fits (magnitude (shortestDigits m e h).1 (shortestDigits m e h).2) := by
  by_cases hm : m = 0
  · subst hm
    rw [shortestDigits_zero]
    exact ⟨0, 0, by decide, by decide, rfl⟩
  · have hshortest := isShortest_shortestDigits h hm
    have hreach := shortestDigits_inReach h (fun hzero => hshortest.mod_ne_zero (by rw [hzero]))
    have hlength := hshortest.length_le
    refine ⟨_, _, ?_, ?_, rfl⟩
    · calc (shortestDigits m e h).1 < 10 ^ (digits (shortestDigits m e h).1).length :=
            lt_pow_length_digits _
        _ ≤ 10 ^ precision := Nat.pow_le_pow_right (by decide) (hlength.trans (by decide))
    · rw [decimalReach] at hreach
      rw [leastPlace]
      omega

end

end LuceneQuery.Double
