import LuceneQuery.Proofs.Number.Reading

/-!
# Literals

A literal is a number in full: digits, and behind a point more digits if there
are any.  It has no sign, no exponent, no zero in front of other digits and no
zero at the end of its fraction (`Literal`).  It stands for a value, and a reader
takes it for that value (`Literal.ofText?_text`).

A reduced form is written as the literal of its value (`exists_literal`).
-/

namespace LuceneQuery

open Decimal

/-- A number in full, without zeros that change nothing. -/
structure Literal where
  /-- The digits before the point. -/
  whole : List Char
  /-- The digits behind the point. -/
  fraction : List Char
  areDigits_whole : AreDigits whole
  areDigits_fraction : AreDigits fraction
  whole_ne_nil : whole ≠ []
  eq_zero_of_head : whole.head? = some '0' → whole = ['0']
  getLast_ne_zero : fraction.getLast? ≠ some '0'

namespace Literal

/-- The text of a literal, with a point only if digits stand behind it. -/
def text (l : Literal) : List Char :=
  l.whole ++ if l.fraction = [] then [] else '.' :: l.fraction

/-- The value of a literal: each digit counts by its place. -/
def value (l : Literal) : ℚ := valueOf l.whole + valueOf l.fraction / 10 ^ l.fraction.length

variable (l : Literal)

/-! ## Characters -/

theorem text_ne_nil : l.text ≠ [] := by
  intro h
  exact l.whole_ne_nil (List.append_eq_nil_iff.1 h).1

/-- A literal has digits and a point, and nothing else. -/
theorem isDigit_or_eq_point_of_mem_text {c : Char} (hc : c ∈ l.text) :
    c.isDigit = true ∨ c = '.' := by
  rcases List.mem_append.1 hc with hc | hc
  · exact .inl (l.areDigits_whole c hc)
  · split at hc
    · cases hc
    · rcases List.mem_cons.1 hc with rfl | hc
      · exact .inr rfl
      · exact .inl (l.areDigits_fraction c hc)

theorem count_point_eq_zero {ds : List Char} (hds : AreDigits ds) : ds.count '.' = 0 := by
  apply List.count_eq_zero_of_not_mem
  intro h
  exact absurd (hds '.' h) (by decide)

theorem count_point_text_le : l.text.count '.' ≤ 1 := by
  rw [text, List.count_append, count_point_eq_zero l.areDigits_whole, Nat.zero_add]
  split
  · exact Nat.zero_le 1
  · rw [List.count_cons_self, count_point_eq_zero l.areDigits_fraction]

/-! ## Values -/

/-- Its value is that of all its digits, moved by as many places as there are behind the
point. -/
theorem value_eq_magnitude :
    l.value = magnitude (valueOf (l.whole ++ l.fraction)) (-l.fraction.length) := by
  rw [value, magnitude, valueOf_append, zpow_neg, zpow_natCast]
  push_cast
  field_simp

/-- A literal is read as its value, behind any sign. -/
theorem ofText?_text (negative : Bool) : ∃ c e,
    ofText? (sign negative ++ l.text) = some (.finite negative c e) ∧ magnitude c e = l.value := by
  refine ⟨_, _, ?_, l.value_eq_magnitude.symm⟩
  have hstarts : StartsDigit l.text := startsDigit_append l.areDigits_whole l.whole_ne_nil _
  refine ofText?_sign_append hstarts ?_ negative
  unfold text
  split
  · next hnil =>
    rw [readMagnitude?_whole l.areDigits_whole l.whole_ne_nil (noHead_nil _), hnil,
      List.append_nil]
    rfl
  · have h := readMagnitude?_point l.areDigits_whole l.areDigits_fraction l.whole_ne_nil
      (noHead_nil _)
    rw [List.append_nil] at h
    rw [h]
    simp [readExponent?]

end Literal

/-! ## The literal of a reduced form -/

namespace Decimal

theorem digits_eq_if (n : Nat) :
    digits n = if n < 10 then [n.digitChar] else digits (n / 10) ++ [(n % 10).digitChar] :=
  Nat.toDigits_eq_if (by decide)

theorem eq_zero_of_digitChar {d : Nat} (hd : d < 10) (h : d.digitChar = '0') : d = 0 := by
  revert h
  revert d
  decide

/-- A number other than zero does not start with a zero. -/
theorem head_digits_ne_zero {c : Nat} (hc : c ≠ 0) : (digits c).head? ≠ some '0' := by
  induction c using Nat.strong_induction_on with
  | _ c ih =>
    rw [digits_eq_if]
    split
    · next hlt =>
      intro h
      exact hc (eq_zero_of_digitChar hlt (Option.some.inj h))
    · next hle =>
      rw [List.head?_append_of_ne_nil _ (digits_ne_nil _)]
      exact ih (c / 10) (by omega) (by omega)

theorem getLast_digits_ne_zero {c : Nat} (hc : c % 10 ≠ 0) : (digits c).getLast? ≠ some '0' := by
  rw [digits_eq_if]
  split
  · next hlt =>
    intro h
    have hzero := eq_zero_of_digitChar hlt (Option.some.inj h)
    omega
  · rw [List.getLast?_concat]
    intro h
    exact hc (eq_zero_of_digitChar (Nat.mod_lt c (by decide)) (Option.some.inj h))

/-- The literal of a whole number. -/
theorem exists_literal_of_nonneg {c : Nat} {e : Int} (h : IsReduced (c, e)) (he : 0 ≤ e) :
    ∃ l : Literal, positional c e = l.text ∧ l.value = magnitude c e := by
  have hzero : (digits c ++ List.replicate e.toNat '0').head? = some '0' →
      digits c ++ List.replicate e.toNat '0' = ['0'] := by
    intro hhead
    rw [List.head?_append_of_ne_nil _ (digits_ne_nil _)] at hhead
    rcases h with h | h
    · exact absurd hhead (head_digits_ne_zero fun hc => h (by simp [hc]))
    · cases h
      rfl
  let l : Literal := {
    whole := digits c ++ List.replicate e.toNat '0'
    fraction := []
    areDigits_whole := (areDigits_digits c).append (areDigits_zeros _)
    areDigits_fraction := fun _ hc => nomatch hc
    whole_ne_nil := by simp [digits_ne_nil]
    eq_zero_of_head := hzero
    getLast_ne_zero := by simp }
  refine ⟨l, ?_, ?_⟩
  · rw [positional, if_pos he, Literal.text, if_pos rfl, List.append_nil]
  · have htoNat : (0 : Int) + (e.toNat : Int) = e := by omega
    rw [l.value_eq_magnitude]
    simp only [l, List.append_nil, List.length_nil, Int.natCast_zero, Int.neg_zero]
    rw [valueOf_append_zeros, valueOf_digits, magnitude_mul_tenTo, htoNat]

/-- The literal of a number with a fraction. -/
theorem exists_literal_of_neg {c : Nat} {e : Int} (hc : c % 10 ≠ 0) (he : e < 0) :
    ∃ l : Literal, positional c e = l.text ∧ l.value = magnitude c e := by
  obtain ⟨whole, fraction, htext, hne, hlength, hwhole, hfraction, hfilled⟩ :=
    withPoint_spec (areDigits_digits c) (-e).toNat
  have hfne : fraction ≠ [] := by
    rintro rfl
    rw [List.length_nil] at hlength
    omega
  have hlast : fraction.getLast? ≠ some '0' := by
    rw [← List.getLast?_append_of_ne_nil whole hfne, hfilled,
      List.getLast?_append_of_ne_nil _ (digits_ne_nil c)]
    exact getLast_digits_ne_zero hc
  have hhead : whole.head? = some '0' → whole = ['0'] := by
    intro h
    have hfirst : (whole ++ fraction).head? = some '0' := by
      rw [List.head?_append_of_ne_nil _ hne, h]
    by_cases hlong : (-e).toNat + 1 - (digits c).length = 0
    · rw [hfilled, hlong, List.replicate_zero, List.nil_append] at hfirst
      exact absurd hfirst (head_digits_ne_zero fun hzero => hc (by rw [hzero]))
    · -- Zeros were filled up to the first place, so one of them precedes the point.
      have hone : whole.length = 1 := by
        have hsum := congrArg List.length hfilled
        simp only [List.length_append, List.length_replicate] at hsum
        omega
      obtain ⟨d, rfl⟩ := List.length_eq_one_iff.1 hone
      rw [Option.some.inj h]
  let l : Literal := {
    whole, fraction
    areDigits_whole := hwhole
    areDigits_fraction := hfraction
    whole_ne_nil := hne
    eq_zero_of_head := hhead
    getLast_ne_zero := hlast }
  refine ⟨l, ?_, ?_⟩
  · rw [positional, if_neg (not_le.2 he), htext, Literal.text, if_neg hfne]
  · have hneg : -(((-e).toNat : Nat) : Int) = e := by omega
    rw [l.value_eq_magnitude]
    simp only [l]
    rw [hfilled, valueOf_zeros_append, valueOf_digits, hlength, hneg]

/-- A reduced form is written as the literal of its value. -/
theorem exists_literal {x : Nat × Int} (hx : IsReduced x) :
    ∃ l : Literal, positional x.1 x.2 = l.text ∧ l.value = magnitude x.1 x.2 := by
  by_cases he : 0 ≤ x.2
  · exact exists_literal_of_nonneg hx he
  · rcases hx with hx | rfl
    · exact exists_literal_of_neg hx (not_le.1 he)
    · exact absurd (Int.le_refl 0) he

end Decimal

end LuceneQuery
