import LuceneQuery.Proofs.Clause.Checked
import LuceneQuery.Store.Step

/-!
# The effect of blueprints and settings

A blueprint that is not refused describes a leaf or a query without clauses
(`Blueprint.cases_of_build`).  A setting that is not refused writes what it was
told into one slot of a cell or of its leaf: `Setting.Does` lists what each
setting does, with what its check has made sure of (`Setting.does_of_apply`).
Either way what has been checked stays so.
-/

namespace LuceneQuery.Store

/-! ## Blueprints -/

/-- A blueprint makes a checked leaf or a query without clauses, in a field and
with all other slots empty. -/
theorem Blueprint.cases_of_build {b : Blueprint} {cell : Cell} (h : b.build = .ok cell) :
    (∃ field l, cell = .leaf { field } l ∧ l.Checked) ∨ ∃ field, cell = .query { field } [] := by
  cases b with
  | term text field escape =>
    obtain ⟨l, hl, hcell⟩ := exists_of_bind_eq_ok h
    cases hcell
    exact Or.inl ⟨field, l, rfl, Leaf.checked_of_ofTerm hl⟩
  | phrase text field escape =>
    cases h
    exact Or.inl ⟨field, _, rfl, Leaf.checked_ofPhrase text escape⟩
  | range lower upper kind field escape =>
    obtain ⟨l, hl, hcell⟩ := exists_of_bind_eq_ok h
    cases hcell
    exact Or.inl ⟨field, l, rfl, Leaf.checked_of_ofRange hl⟩
  | query field =>
    cases h
    exact Or.inr ⟨field, rfl⟩

/-! ## Settings -/

/-- What a setting does to a cell, once its check has passed. -/
inductive Setting.Does : Setting → (Cell → Cell) → Prop where
  | field (name : Text) : Does (.field name) (Cell.mapSlots ({ · with field := name }))
  | operator (op : Operator) : Does (.operator op) (Cell.mapSlots ({ · with operator := op }))
  | boost {n : Number} (hfinite : n.toDouble.isFinite = true) (hn : n.IsMagnitude) :
      Does (.boost (.number n)) (Cell.mapSlots ({ · with weight := n }))
  | fuzziness {n : Int} (hlow : 0 ≤ n) (hhigh : n ≤ maxFuzziness) :
      Does (.fuzziness (.int n)) (Cell.mapLeaf (withFuzziness n))
  | proximity {n : Int} (hlow : 0 ≤ n) : Does (.proximity (.int n)) (Cell.mapLeaf (withSlop n))
  | rangeKind (kind : RangeKind) : Does (.rangeKind kind) (Cell.mapLeaf (withKind kind))

/-- A setting that is accepted does what it says. -/
theorem Setting.does_of_apply {setting : Setting} {change : Cell → Cell}
    (h : setting.apply = .ok change) : setting.Does change := by
  cases setting with
  | field name =>
    cases h
    exact .field name
  | operator op =>
    cases h
    exact .operator op
  | boost weight =>
    obtain ⟨n, hn, hchange⟩ := exists_of_bind_eq_ok h
    obtain ⟨rfl, hfinite, hmagnitude⟩ := of_weightOf_eq_ok hn
    cases hchange
    exact .boost hfinite hmagnitude
  | fuzziness distance =>
    obtain ⟨n, hn, hchange⟩ := exists_of_bind_eq_ok h
    obtain ⟨rfl, hlow, hhigh⟩ := of_fuzzinessOf_eq_ok hn
    cases hchange
    exact .fuzziness hlow hhigh
  | proximity distance =>
    obtain ⟨n, hn, hchange⟩ := exists_of_bind_eq_ok h
    obtain ⟨rfl, hlow⟩ := of_slopOf_eq_ok hn
    cases hchange
    exact .proximity hlow
  | rangeKind kind =>
    cases h
    exact .rangeKind kind

theorem checked_withFuzziness {n : Int} (hlow : 0 ≤ n) (hhigh : n ≤ maxFuzziness) :
    ∀ {l : Leaf}, l.Checked → (withFuzziness n l).Checked
  | .term .., h => ⟨h.1, h.2.1, h.2.2.1, hlow, hhigh⟩
  | .phrase .., h => h
  | .range .., h => h

theorem checked_withSlop {n : Int} (hlow : 0 ≤ n) :
    ∀ {l : Leaf}, l.Checked → (withSlop n l).Checked
  | .term .., h => h
  | .phrase .., _ => hlow
  | .range .., h => h

theorem checked_withKind (kind : RangeKind) :
    ∀ {l : Leaf}, l.Checked → (withKind kind l).Checked
  | .term .., h => h
  | .phrase .., h => h
  | .range .., h => ⟨h.1, h.2.1, kind.eq_inclusive_or_exclusive⟩

/-- A setting changes the slots of a cell or its leaf, and what has been checked
stays so. -/
theorem Setting.cases_of_apply {setting : Setting} {change : Cell → Cell}
    (h : setting.apply = .ok change) :
    (∃ f, change = Cell.mapSlots f ∧ ∀ {s : Slots}, s.Checked → (f s).Checked) ∨
      ∃ f, change = Cell.mapLeaf f ∧ ∀ {l : Leaf}, l.Checked → (f l).Checked := by
  cases does_of_apply h with
  | field name => exact Or.inl ⟨_, rfl, fun hs => hs⟩
  | operator op => exact Or.inl ⟨_, rfl, fun hs => hs⟩
  | boost hfinite hn => exact Or.inl ⟨_, rfl, fun _ => ⟨hfinite, hn⟩⟩
  | fuzziness hlow hhigh => exact Or.inr ⟨_, rfl, checked_withFuzziness hlow hhigh⟩
  | proximity hlow => exact Or.inr ⟨_, rfl, checked_withSlop hlow⟩
  | rangeKind kind => exact Or.inr ⟨_, rfl, checked_withKind kind⟩

end LuceneQuery.Store
