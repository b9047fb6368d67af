import LuceneQuery.Proofs.Clause.Boost
import LuceneQuery.Proofs.Config.WellFormed

/-!
# The boosts of a configuration

A weight of a configuration has passed the same check as any weight, at any depth of
groups (`Denotes.everyWeight`, `everyWeight_of_readQueries`).  So what holds of the boosts
of all weights that are let through holds of the boosts that a configuration asks for:
none has a sign but that of a negative zero (`boosts_are_unsigned_but_negative_zero`).
-/

namespace LuceneQuery

/-- Whether the boost of a weight is unsigned, unless the weight is a negative zero,
whose sign is written. -/
def Number.SignsOnlyNegativeZero (n : Number) : Prop :=
  n.IsNegativeZero ∧ boostSuffix n = "^-0" ∨ ¬ n.IsNegativeZero ∧ IsUnsigned (boostSuffix n)

/-- A weight that a clause takes writes a sign only if it is negative zero. -/
theorem Number.IsWeight.signsOnlyNegativeZero {n : Number} (hn : n.IsWeight) :
    n.SignsOnlyNegativeZero := by
  by_cases hzero : n.IsNegativeZero
  · exact .inl ⟨hzero, boostSuffix_of_isNegativeZero hzero⟩
  · exact .inr ⟨hzero, hn.isUnsigned_boostSuffix_iff.2 hzero⟩

/-- Whether all weights in a clause have a property, at any depth. -/
def Clause.EveryWeight (p : Number → Prop) : Clause → Prop :=
  Every (fun s => p s.weight) fun _ => True

theorem Clause.EveryWeight.mono {p p' : Number → Prop} {c : Clause} (h : c.EveryWeight p)
    (hp : ∀ {n : Number}, p n → p' n) : c.EveryWeight p' :=
  Every.mono h (fun _ hs => hp hs) fun _ hl => hl

namespace Config

/-- All weights of a clause, at any depth of groups, have passed the check. -/
theorem Denotes.everyWeight {escape : Bool} {v : Value} {c : Clause} (h : Denotes escape v c) :
    c.EveryWeight Number.IsWeight :=
  h.every (fun hslots => hslots.weight.isWeight) fun _ => trivial

/-- All weights in the queries of a configuration are weights that a clause takes. -/
theorem everyWeight_of_readQueries {escape : Bool} {root : Entries}
    {queries : List LabelledQuery} (h : readQueries escape root = .ok queries) {q : LabelledQuery}
    (hq : q ∈ queries) : q.query.EveryWeight Number.IsWeight :=
  every_of_readQueries (fun hslots => hslots.weight.isWeight) (fun _ => trivial) h q hq

/-- Whether a weight is set directly, in a clause or in a whole configuration, its boost
has no sign unless it is a negative zero, and then it is exactly that. -/
theorem boosts_are_unsigned_but_negative_zero (escape : Bool) (key : KeyPath) (v : Value)
    (root : Entries) :
    (∀ n, weightOf v = .ok n → n.SignsOnlyNegativeZero) ∧
      (∀ c, readClause escape key v = .ok c →
        c.EveryWeight Number.SignsOnlyNegativeZero) ∧
      ∀ settings, Settings.read root = .ok settings → ∀ q ∈ settings.queries,
        q.query.EveryWeight Number.SignsOnlyNegativeZero := by
  refine ⟨fun n h => ?_, fun c h => ?_, fun settings h q hq => ?_⟩
  · exact (isWeight_of_weightOf h).signsOnlyNegativeZero
  · exact (readClause_eq_ok_iff.1 h).everyWeight.mono Number.IsWeight.signsOnlyNegativeZero
  · have hqueries := (Settings.read_eq_ok_iff.1 h).queries
    exact (everyWeight_of_readQueries hqueries hq).mono Number.IsWeight.signsOnlyNegativeZero

/-- A configuration with a query of one group, whose only term has a negative zero for
its boost. -/
def negativeZeroRoot : Entries :=
  [(.str "queries", .list [.map [(.str "clauses", .list [.map [(.str "group",
    .list [.map [(.str "term", .str "a"), (.str "boost", .double (.zero true))]])]])]])]

theorem negative_zero_in_group :
    (Number.double (.zero true)).SignsOnlyNegativeZero ∧
      ∃ settings, Settings.read negativeZeroRoot = .ok settings ∧ ∀ q ∈ settings.queries,
        q.query.EveryWeight Number.SignsOnlyNegativeZero := by
  obtain ⟨settings, h⟩ : ∃ settings, Settings.read negativeZeroRoot = .ok settings := ⟨_, rfl⟩
  obtain ⟨hweight, -, hroot⟩ :=
    boosts_are_unsigned_but_negative_zero false [] (.double (.zero true)) negativeZeroRoot
  exact ⟨hweight _ (weightOf_eq_ok_iff.2 ⟨rfl, rfl, rfl⟩), settings, h, hroot settings h⟩

/-- A negative zero is not below zero, so it is let through. -/
theorem negative_zero_boost_is_signed :
    ¬∀ v n, weightOf v = .ok n → IsUnsigned (boostSuffix n) := by
  intro h
  have hok : weightOf (.double (.zero true)) = .ok (.double (.zero true)) :=
    weightOf_eq_ok_iff.2 ⟨rfl, rfl, rfl⟩
  exact (isWeight_of_weightOf hok).isUnsigned_boostSuffix_iff.1 (h _ _ hok) rfl

end Config

end LuceneQuery
