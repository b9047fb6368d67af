import LuceneQuery.Proofs.Clause.Leafless
import LuceneQuery.Proofs.Store.WellFormed

/-!
# Shared queries without a leaf

The leaves in the tree of a query are the leaves that the query reaches
(`Acyclic.hasLeaf_tree_iff`).  So in a session without assignments a query is rendered
to nothing if and only if it reaches no leaf, and otherwise as one group between its
slots (`rendersByLeaves_run`).
-/

namespace LuceneQuery.Store

/-- Whether the clause of a handle is a leaf. -/
def IsLeaf (s : Store) (h : Handle) : Prop := ∃ slots l, s.cell? h = some (.leaf slots l)

/-- Whether a query reaches a leaf. -/
def ReachesLeaf (s : Store) (q : Handle) : Prop := ∃ h, s.Reaches q h ∧ s.IsLeaf h

section

variable {s : Store} {h q : Handle} {slots : Slots} {cs : List Handle}

/-- A leaf is reached as a clause or through one. -/
theorem reachesLeaf_iff : s.ReachesLeaf q ↔ ∃ c ∈ s.clauses q, s.IsLeaf c ∨ s.ReachesLeaf c := by
  constructor
  · rintro ⟨h, hreach, hleaf⟩
    obtain ⟨c, hc, rfl | hreach⟩ := reaches_iff.1 hreach
    · exact ⟨c, hc, .inl hleaf⟩
    · exact ⟨c, hc, .inr ⟨h, hreach, hleaf⟩⟩
  · rintro ⟨c, hc, hleaf | ⟨h, hreach, hleaf⟩⟩
    · exact ⟨c, Contains.reaches hc, hleaf⟩
    · exact ⟨h, Contains.trans_reaches hc hreach, hleaf⟩

/-- There is a leaf in the tree of a clause if it is one itself or reaches one. -/
theorem Acyclic.hasLeaf_tree_iff (hs : s.Acyclic) :
    (s.tree h).hasLeaf = true ↔ s.IsLeaf h ∨ s.ReachesLeaf h := by
  induction h using hs.wellFounded.induction with
  | _ h ih =>
    cases hcell : s.cell? h with
    | none =>
      rw [tree_of_none hcell, reachesLeaf_iff]
      simp [IsLeaf, clauses, hcell]
    | some cell =>
      cases cell with
      | leaf slots l =>
        rw [tree_of_leaf hcell]
        simp [IsLeaf, hcell]
      | query slots cs =>
        have hclauses : s.clauses h = cs := by simp [clauses, hcell, Cell.clauses]
        have hnot : ¬s.IsLeaf h := by simp [IsLeaf, hcell]
        rw [hs.tree_of_query hcell, Clause.hasLeaf_query, List.any_map, List.any_eq_true,
          or_iff_right hnot, reachesLeaf_iff, hclauses]
        exact exists_congr fun c => and_congr_right fun hc => ih c (contains_of_mem hcell hc)

theorem Acyclic.hasLeaf_tree_of_query (hs : s.Acyclic)
    (hcell : s.cell? q = some (.query slots cs)) :
    (s.tree q).hasLeaf = true ↔ s.ReachesLeaf q := by
  rw [hs.hasLeaf_tree_iff, or_iff_right]
  simp [IsLeaf, hcell]

end

/-- A query shows nothing, neither on its own nor inside another one, if and only if it
reaches no leaf.  Otherwise it is one group inside another query: its operator, its
field, the texts in it that are not empty in parentheses with single spaces between
them, and its boost.  Queries without a leaf leave no trace. -/
structure RendersByLeaves (s : Store) (q : Handle) (slots : Slots) (cs : List Handle) :
    Prop where
  rendering : s.rendering? q = some [] ↔ ¬s.ReachesLeaf q
  text : s.text q = [] ↔ ¬s.ReachesLeaf q
  nested : s.nestedText q = [] ↔ ¬s.ReachesLeaf q
  group : s.ReachesLeaf q →
    s.nestedText q = slots.operator.sign ++ fieldLabel slots.field ++
      "(" ++ List.intercalate " " ((cs.map s.nestedText).filter (· ≠ [])) ++ ")" ++
      boostSuffix slots.weight
  pruned : (s.tree q).pruned.rendering? = s.rendering? q ∧
    (s.tree q).pruned.nestedText = s.nestedText q

/-- All queries of a session without assignments are rendered by their leaves. -/
theorem rendersByLeaves_run {session : List Step} (hsession : ∀ x ∈ session, x.isChecked = true)
    {q : Handle} {slots : Slots} {cs : List Handle}
    (hq : (run {} session).cell? q = some (.query slots cs)) :
    RendersByLeaves (run {} session) q slots cs := by
  let s := run {} session
  have hs : s.Acyclic := acyclic_run session
  have hw : (s.tree q).WellFormed := wellFormed_tree_of_run hsession q
  have hleaf : (s.tree q).hasLeaf = false ↔ ¬s.ReachesLeaf q := by
    rw [← hs.hasLeaf_tree_of_query hq, Bool.not_eq_true]
  refine {
    rendering := (Clause.rendering?_eq_some_nil_iff hw).trans hleaf
    text := (Clause.text_eq_nil_iff hw).trans hleaf
    nested := (Clause.nestedText_eq_nil_iff hw).trans hleaf
    group := fun hreach => ?_
    pruned := ⟨Clause.rendering?_pruned hw, Clause.nestedText_pruned hw⟩ }
  have htree := hs.tree_of_query hq
  have htrue := (hs.hasLeaf_tree_of_query hq).2 hreach
  rw [htree] at hw htrue
  rw [nestedText, htree, Clause.nestedText_of_hasLeaf hw htrue, List.map_map]
  rfl

end LuceneQuery.Store
