import LuceneQuery.Proofs.Clause.Weight
import LuceneQuery.Store.Step

/-!
# Setting a weight

A clause of a store takes a weight that is let through as it is, and a weight that is
refused leaves the whole store as it was.  The value alone decides which of the two it
is, whatever the clause was told before (`boost_is_stored_or_refused`).
-/

namespace LuceneQuery.Store

variable {s : Store} {h : Handle} {v : Value}

theorem step_boost_of_ok {n : Number} (hv : weightOf v = .ok n) :
    s.step (.set h (.boost v)) =
      { store := s.modify h (Cell.mapSlots ({ · with weight := n })), outcome := .done } := by
  simp only [step, Setting.apply, hv, bind, Except.bind]

theorem step_boost_of_error {fault : ClauseFault} (hv : weightOf v = .error fault) :
    s.step (.set h (.boost v)) = { store := s, outcome := .refused fault } := by
  simp only [step, Setting.apply, hv, bind, Except.bind]

/-- A clause that is told a weight stores it, and then it is a number with a value not
below zero, or the weight is refused and nothing has changed.  It is refused as an
argument, unless it breaks off. -/
theorem boost_is_stored_or_refused (s : Store) (h : Handle) (v : Value) :
    (∃ n q, v = .number n ∧ n.value? = some q ∧ 0 ≤ q ∧ weightOf v = .ok n ∧
        s.step (.set h (.boost v)) =
          { store := s.modify h (Cell.mapSlots ({ · with weight := n })), outcome := .done }) ∨
      ∃ fault, weightOf v = .error fault ∧
        s.step (.set h (.boost v)) = { store := s, outcome := .refused fault } ∧
          WeightFault v fault := by
  rcases weightOf_cases v with ⟨n, q, hv, hq, hnonneg, hok⟩ | ⟨fault, hfault, hkind⟩
  · exact .inl ⟨n, q, hv, hq, hnonneg, hok, step_boost_of_ok hok⟩
  · exact .inr ⟨fault, hfault, step_boost_of_error hfault, hkind⟩

/-- An integer that no double is near to is not refused as an argument. -/
theorem boost_out_of_reach_breaks_off :
    ¬∀ (s : Store) (h : Handle) (v : Value), (s.step (.set h (.boost v))).outcome = .done ∨
      ∃ reason, (s.step (.set h (.boost v))).outcome = .refused (.argument .boost v reason) := by
  intro hall
  have hlarge : (Double.ofInt (tenTo 400)).isFinite = false := by decide +kernel
  have hfault : weightOf (.int (tenTo 400)) = .error .tooLarge := by
    simp only [weightOf, weightOfNumber, breaksOff_number_iff.1 (.tooLarge hlarge)]
  rcases hall {} 0 (.int (tenTo 400)) with hdone | ⟨reason, hrefused⟩
  · rw [step_boost_of_error hfault] at hdone
    cases hdone
  · rw [step_boost_of_error hfault] at hrefused
    cases hrefused

end LuceneQuery.Store
