import LuceneQuery.Proofs.Clause.Checked
import LuceneQuery.Proofs.Number.Value

/-!
# Weights

A weight is let through if and only if it is a number next to a finite double and not
below zero (`weightOf_eq_ok_iff`), so it has a value, and not one below zero
(`Number.IsWeight`, `Number.isMagnitude_iff`).

What is not let through is refused as an argument, with three exceptions
(`BreaksOff`): an integer that no double is near to and a signaling not-a-number,
which cannot be compared with the doubles, and what is no number and cannot be shown.
-/

namespace LuceneQuery

open Decimal

/-! ## Weights that are let through -/

/-- A weight is let through if the double next to it is finite and it is not below
zero. -/
theorem weightOf_eq_ok_iff {v : Value} {n : Number} :
    weightOf v = .ok n ↔ v = .number n ∧ n.toDouble.isFinite = true ∧ n.isNegative = false := by
  constructor
  · intro h
    unfold weightOf at h
    split at h
    · unfold weightOfNumber at h
      split at h
      · cases h
      · split at h
        · cases h
        · next hfinite =>
          split at h
          · cases h
          · next hnegative =>
            cases h
            exact ⟨rfl, eq_true_of_ne_false hfinite, eq_false_of_ne_true hnegative⟩
    · cases h
  · rintro ⟨rfl, hfinite, hnegative⟩
    have hcomparable : incomparable? n = none := by
      cases n with
      | int i => exact if_pos hfinite
      | double x => rfl
      | decimal d =>
        cases d with
        | finite s c e => rfl
        | infinite s => rfl
        | nan s signaling payload => cases hfinite
    simp [weightOf, weightOfNumber, hcomparable, hfinite, hnegative]

theorem Number.isMagnitude_iff {n : Number} :
    n.IsMagnitude ↔ ∃ q, n.value? = some q ∧ 0 ≤ q := by
  rw [← Number.value?_exact, IsMagnitude]
  cases n.exact with
  | finite s c e =>
    have hnonneg := magnitude_nonneg c e
    simp only [Decimal.finite.injEq, Decimal.value?, Option.some.injEq, exists_eq_left']
    constructor
    · rintro ⟨_, _, _, ⟨rfl, rfl, rfl⟩, hzero⟩
      cases s with
      | false => exact hnonneg
      | true => simp [hzero rfl, signed]
    · intro h
      refine ⟨s, c, e, ⟨rfl, rfl, rfl⟩, ?_⟩
      rintro rfl
      have hneg : 0 ≤ -magnitude c e := h
      exact magnitude_eq_zero_iff.1 (le_antisymm (neg_nonneg.1 hneg) hnonneg)
  | infinite s => simp [Decimal.value?]
  | nan s signaling payload => simp [Decimal.value?]

/-- Whether a number is next to a finite double and not below zero. -/
structure Number.IsWeight (n : Number) : Prop where
  isFinite : n.toDouble.isFinite = true
  isMagnitude : n.IsMagnitude

/-- A value that is taken for a weight is one. -/
theorem isWeight_of_weightOf {v : Value} {n : Number} (h : weightOf v = .ok n) : n.IsWeight := by
  obtain ⟨-, hfinite, hn⟩ := of_weightOf_eq_ok h
  exact ⟨hfinite, hn⟩

/-! ## Weights that are refused -/

/-- The values that are not even refused as an argument: what cannot be compared with
the doubles, and what cannot be shown in a message. -/
inductive BreaksOff : Value → ClauseFault → Prop where
  | tooLarge {i : Int} (h : (Double.ofInt i).isFinite = false) : BreaksOff (.int i) .tooLarge
  | signaling (negative : Bool) (payload : List Char) :
      BreaksOff (.decimal (.nan negative true payload)) .signaling
  | tooManyDigits {v : Value} (hv : ∀ n, v ≠ .number n) (h : v.isWritable = false) :
      BreaksOff v .tooManyDigits

/-- The fault of a value that is no weight: it is the one of an argument, unless the
value breaks off. -/
inductive WeightFault (v : Value) : ClauseFault → Prop where
  | breaksOff {fault : ClauseFault} (h : BreaksOff v fault) : WeightFault v fault
  | argument (h : ∀ fault, ¬ BreaksOff v fault) (reason : ArgumentReason) :
      WeightFault v (.argument .boost v reason)

theorem breaksOff_number_iff {n : Number} {fault : ClauseFault} :
    BreaksOff (.number n) fault ↔ incomparable? n = some fault := by
  constructor
  · intro h
    cases h with
    | tooLarge h => simp [incomparable?, h]
    | signaling negative payload => rfl
    | tooManyDigits hv h => exact absurd rfl (hv n)
  · intro h
    cases n with
    | int i =>
      unfold incomparable? at h
      dsimp only at h
      split at h
      · cases h
      · next hfinite =>
        cases h
        exact .tooLarge (eq_false_of_ne_true hfinite)
    | double x => cases h
    | decimal d =>
      cases d with
      | finite s c e => cases h
      | infinite s => cases h
      | nan s signaling payload =>
        cases signaling with
        | false => cases h
        | true =>
          cases h
          exact .signaling s payload

/-- A number is refused for what is wrong with it as a weight. -/
theorem weightFault_of_weightOfNumber {n : Number} {fault : ClauseFault}
    (h : weightOfNumber n = .error fault) : WeightFault (.number n) fault := by
  unfold weightOfNumber at h
  split at h
  · next other hother =>
    cases h
    exact .breaksOff (breaksOff_number_iff.2 hother)
  · next hnone =>
    have hcompared : ∀ other, ¬ BreaksOff (.number n) other := by
      simp [breaksOff_number_iff, hnone]
    split at h
    · cases h
      exact .argument hcompared _
    · split at h
      · cases h
        exact .argument hcompared _
      · cases h

theorem weightFault_of_not_number {v : Value} {fault : ClauseFault} (hv : ∀ n, v ≠ .number n)
    (h : weightOf v = .error fault) : WeightFault v fault := by
  unfold weightOf at h
  split at h
  · next n => exact absurd rfl (hv n)
  · unfold ClauseFault.ofArgument at h
    split at h
    · next hwritable =>
      cases h
      refine .argument (fun other hother => ?_) _
      cases hother with
      | tooLarge _ => exact hv _ rfl
      | signaling _ _ => exact hv _ rfl
      | tooManyDigits _ hlong => exact absurd (hwritable.symm.trans hlong) (by decide)
    · next hlong =>
      cases h
      exact .breaksOff (.tooManyDigits hv (eq_false_of_ne_true hlong))

/-- A value is let through or it is refused. -/
theorem weightOf_cases (v : Value) :
    (∃ n q, v = .number n ∧ n.value? = some q ∧ 0 ≤ q ∧ weightOf v = .ok n) ∨
      ∃ fault, weightOf v = .error fault ∧ WeightFault v fault := by
  cases h : weightOf v with
  | ok n =>
    obtain ⟨rfl, -, hn⟩ := of_weightOf_eq_ok h
    obtain ⟨q, hq, hnonneg⟩ := Number.isMagnitude_iff.1 hn
    exact .inl ⟨n, q, rfl, hq, hnonneg, rfl⟩
  | error fault =>
    refine .inr ⟨fault, rfl, ?_⟩
    by_cases hnumber : ∃ n, v = .number n
    · obtain ⟨n, rfl⟩ := hnumber
      exact weightFault_of_weightOfNumber h
    · exact weightFault_of_not_number (not_exists.1 hnumber) h

end LuceneQuery
