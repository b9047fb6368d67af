import LuceneQuery.Proofs.Clause.NormalForm
import LuceneQuery.Proofs.Store.Change
import LuceneQuery.Proofs.Store.Checked

/-!
# Sessions without assignments

All clauses of a session without assignments are checked (`checked_run`), and so
they unfold to well-formed trees (`wellFormed_tree_of_run`).  These are the
clauses whose texts are told apart by their normal forms
(`text_eq_iff_normalForm_eq`).
-/

namespace LuceneQuery

/-- Whether the slots and the leaf of a cell are well-formed. -/
def Cell.WellFormed : Cell → Prop
  | .leaf slots l => slots.WellFormed ∧ l.WellFormed
  | .query slots _ => slots.WellFormed

theorem Cell.Checked.wellFormed : ∀ {cell : Cell}, cell.Checked → cell.WellFormed
  | .leaf .., h => ⟨h.1.wellFormed, h.2.wellFormed⟩
  | .query .., h => Slots.Checked.wellFormed h

namespace Store

/-- Whether all cells are well-formed. -/
def WellFormed (s : Store) : Prop := ∀ h cell, s.cell? h = some cell → cell.WellFormed

theorem Checked.wellFormed {s : Store} (hs : s.Checked) : s.WellFormed :=
  fun h cell hcell => (hs h cell hcell).wellFormed

/-- The trees of a well-formed store are well-formed, down to any depth. -/
theorem WellFormed.treeWithin {s : Store} (hs : s.WellFormed) :
    ∀ (depth : Nat) (h : Handle), (s.treeWithin depth h).WellFormed
  | 0, _ => .query rfl fun _ hc => absurd hc List.not_mem_nil
  | depth + 1, h => by
      rw [Store.treeWithin]
      split
      · next slots l hcell => exact .leaf (hs h _ hcell).1 (hs h _ hcell).2
      · next slots cs hcell =>
        refine .query (hs h _ hcell) ?_
        intro c hc
        obtain ⟨k, -, rfl⟩ := List.mem_map.1 hc
        exact hs.treeWithin depth k
      · exact .query rfl fun _ hc => absurd hc List.not_mem_nil

/-- All clauses of a session without assignments are well-formed. -/
theorem wellFormed_tree_of_run {session : List Step}
    (hsession : ∀ x ∈ session, x.isChecked = true) (h : Handle) :
    ((run {} session).tree h).WellFormed :=
  (checked_run hsession).wellFormed.treeWithin _ h

/-- Rendering is unambiguous.  In sessions without assignments, two clauses whose
leaves are escaped and whose fields are names have the same text if and only if
they have the same normal form.  Then they are rendered alike, or a number in
each of them cannot be written. -/
theorem text_eq_iff_normalForm_eq {session session' : List Step}
    (hsession : ∀ x ∈ session, x.isChecked = true)
    (hsession' : ∀ x ∈ session', x.isChecked = true) {c d : Handle}
    (hc : ((run {} session).tree c).IsPlain) (hd : ((run {} session').tree d).IsPlain) :
    let s := run {} session
    let s' := run {} session'
    (s.text c = s'.text d ↔ (s.tree c).normalForm = (s'.tree d).normalForm) ∧
      ((s.tree c).normalForm = (s'.tree d).normalForm → s.rendering? c = s'.rendering? d) := by
  intro s s'
  have hcw : (s.tree c).WellFormed := wellFormed_tree_of_run hsession c
  have hdw : (s'.tree d).WellFormed := wellFormed_tree_of_run hsession' d
  exact ⟨Clause.text_eq_iff hcw hc hdw hd, Clause.rendering?_eq_of_normalForm_eq hcw hc hdw hd⟩

/-- A term, and a query that holds the term behind a query without clauses. -/
def wrappedSession : List Step :=
  [.create (.term (.str " a") [] true), .create (.query []), .create (.query []),
    .add 2 [.clause 1, .clause 0]]

/-- The term and the query have one normal form and so one text. -/
theorem text_of_wrapped_term :
    let s := run {} wrappedSession
    (∀ x ∈ wrappedSession, x.isChecked = true) ∧ (s.tree 0).IsPlain ∧ (s.tree 2).IsPlain ∧
      (s.tree 0).normalForm = (s.tree 2).normalForm ∧ s.text 0 = s.text 2 ∧
      s.rendering? 0 = s.rendering? 2 := by
  intro s
  have hsession : ∀ x ∈ wrappedSession, x.isChecked = true := by decide
  have hterm : (s.tree 0).IsPlain := .leaf (by decide) rfl
  have hempty : (s.tree 1).IsPlain := .query (by decide) fun _ hc => absurd hc List.not_mem_nil
  have hquery : (s.tree 2).IsPlain :=
    .query (by decide) (List.forall_mem_cons.2 ⟨hempty, List.forall_mem_singleton.2 hterm⟩)
  have hform : (s.tree 0).normalForm = (s.tree 2).normalForm := rfl
  have h := text_eq_iff_normalForm_eq hsession hsession hterm hquery
  exact ⟨hsession, hterm, hquery, hform, h.1.2 hform, h.2 hform⟩

end Store

end LuceneQuery
