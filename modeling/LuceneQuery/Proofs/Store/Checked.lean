import LuceneQuery.Proofs.Clause.Text
import LuceneQuery.Proofs.Store.Session

/-!
# What is checked stays checked

Only an assignment writes a part of a clause without a check.  All other steps
keep what the checks have established for every cell (`Checked.step`), and so
it holds of every clause after any session without assignments (`checked_run`),
whatever the clauses were made from and their modifiers were told.
-/

namespace LuceneQuery

/-- Whether the slots and the leaf of a cell are ones that the checks let
through. -/
def Cell.Checked : Cell → Prop
  | .leaf slots l => slots.Checked ∧ l.Checked
  | .query slots _ => slots.Checked

namespace Cell

theorem Checked.slots : ∀ {cell : Cell}, cell.Checked → cell.slots.Checked
  | .leaf .., h => h.1
  | .query .., h => h

/-- A change of slots that keeps them checked keeps the cell checked. -/
theorem Checked.mapSlots {f : Slots → Slots} (hf : ∀ {s : Slots}, s.Checked → (f s).Checked) :
    ∀ {cell : Cell}, cell.Checked → (cell.mapSlots f).Checked
  | .leaf .., h => ⟨hf h.1, h.2⟩
  | .query .., h => hf h

theorem Checked.mapLeaf {f : Leaf → Leaf} (hf : ∀ {l : Leaf}, l.Checked → (f l).Checked) :
    ∀ {cell : Cell}, cell.Checked → (cell.mapLeaf f).Checked
  | .leaf .., h => ⟨h.1, hf h.2⟩
  | .query .., h => h

theorem Checked.extend (hs : List Handle) :
    ∀ {cell : Cell}, cell.Checked → (cell.extend hs).Checked
  | .leaf .., h => h
  | .query .., h => h

/-- What a constructor builds is checked. -/
theorem checked_of_build {b : Store.Blueprint} {cell : Cell} (h : b.build = .ok cell) :
    cell.Checked := by
  rcases Store.Blueprint.cases_of_build h with ⟨field, l, rfl, hl⟩ | ⟨field, rfl⟩
  · exact ⟨Slots.checked_of_field field, hl⟩
  · exact Slots.checked_of_field field

/-- What a setting makes of a checked cell is checked. -/
theorem Checked.apply {setting : Store.Setting} {change : Cell → Cell}
    (h : setting.apply = .ok change) {cell : Cell} (hcell : cell.Checked) :
    (change cell).Checked := by
  rcases Store.Setting.cases_of_apply h with ⟨f, rfl, hf⟩ | ⟨f, rfl, hf⟩
  · exact hcell.mapSlots hf
  · exact hcell.mapLeaf hf

end Cell

namespace Store

/-- Whether all cells are ones that the checks let through. -/
def Checked (s : Store) : Prop := ∀ h cell, s.cell? h = some cell → cell.Checked

/-- Whether a step checks what it is given. -/
def Step.isChecked : Step → Bool
  | .assign .. => false
  | _ => true

section

variable {s : Store}

theorem checked_empty : ({} : Store).Checked := by
  intro h cell hcell
  cases hcell

theorem Checked.insert (hs : s.Checked) {cell : Cell} (hcell : cell.Checked) :
    (s.insert cell).Checked := by
  intro h cell' hget
  have hmem : cell' ∈ s.cells ++ [cell] := List.mem_of_getElem? hget
  rcases List.mem_append.1 hmem with hold | hnew
  · obtain ⟨k, hk⟩ := List.mem_iff_getElem?.1 hold
    exact hs k cell' hk
  · rw [List.mem_singleton.1 hnew]
    exact hcell

theorem Checked.modify (hs : s.Checked) {f : Cell → Cell}
    (hf : ∀ {cell : Cell}, cell.Checked → (f cell).Checked) (h : Handle) :
    (s.modify h f).Checked := by
  intro k cell hget
  by_cases hk : k = h
  · subst hk
    rw [cell?_modify_self] at hget
    obtain ⟨old, hold, rfl⟩ := Option.map_eq_some_iff.1 hget
    exact hf (hs k old hold)
  · rw [cell?_modify_of_ne s f hk] at hget
    exact hs k cell hget

/-- A step that checks what it is given keeps all cells checked. -/
theorem Checked.step (hs : s.Checked) (hacyclic : s.Acyclic) {x : Step}
    (hx : x.isChecked = true) : (s.step x).store.Checked := by
  cases x with
  | create blueprint =>
    simp only [Store.step]
    split
    · next cell hcell => exact hs.insert (Cell.checked_of_build hcell)
    · exact hs
  | set h setting =>
    simp only [Store.step]
    split
    · next change hchange => exact hs.modify (Cell.Checked.apply hchange) h
    · exact hs
  | assign h assignment => cases hx
  | add q addends =>
    simp only [Store.step, hacyclic.add_store]
    exact hs.modify (Cell.Checked.extend _) q

/-- A session without assignments keeps a store checked. -/
theorem Checked.run (hs : s.Checked) (hacyclic : s.Acyclic) {session : List Step}
    (hsession : ∀ x ∈ session, x.isChecked = true) : (s.run session).Checked := by
  induction session generalizing s with
  | nil => exact hs
  | cons x session ih =>
    exact ih (hs.step hacyclic (hsession x List.mem_cons_self)) (hacyclic.step x)
      fun y hy => hsession y (List.mem_cons_of_mem x hy)

end

theorem checked_run {session : List Step} (hsession : ∀ x ∈ session, x.isChecked = true) :
    (run {} session).Checked :=
  checked_empty.run acyclic_empty hsession

/-- In a session without assignments every clause is one that the checks let
through, whatever it was made from and told: terms are tokens, bounds are open or
tokens, distances lie in their ranges and weights are finite and not below zero.
So the body of a range is three words between matching brackets, escaped or not,
and the text of a term has a blank only if its field has one. -/
theorem clauses_stay_checked {session : List Step}
    (hsession : ∀ x ∈ session, x.isChecked = true) (h : Handle) :
    let s := run {} session
    (∀ slots text escape fuzziness,
        s.cell? h = some (.leaf slots (.term text escape fuzziness)) →
          text ≠ [] ∧ Text.trim text = text ∧ Text.hasBlank text = false ∧
            0 ≤ fuzziness ∧ fuzziness ≤ 2 ∧ Text.hasBlank (s.text h) = Text.hasBlank slots.field) ∧
      (∀ slots text escape slop, s.cell? h = some (.leaf slots (.phrase text escape slop)) →
        0 ≤ slop) ∧
      (∀ slots lower upper escape kind,
        s.cell? h = some (.leaf slots (.range lower upper escape kind)) →
          lower.IsOpenOrToken ∧ upper.IsOpenOrToken ∧ (kind = .inclusive ∨ kind = .exclusive) ∧
            ∀ escape', ∃ low high : Text, low ≠ [] ∧ high ≠ [] ∧
              Text.words (Leaf.range lower upper escape' kind).body =
                [kind.opening ++ low, "TO", high ++ kind.closing]) ∧
      ∀ cell, s.cell? h = some cell → cell.slots.weight.IsMagnitude := by
  intro s
  have hs : s.Checked := checked_run hsession
  refine ⟨?_, ?_, ?_, ?_⟩
  · intro slots text escape fuzziness hcell
    obtain ⟨hslots, hleaf⟩ := hs h _ hcell
    refine ⟨hleaf.1, hleaf.2.1, hleaf.2.2.1, hleaf.2.2.2.1, hleaf.2.2.2.2, ?_⟩
    rw [Store.text, tree_of_leaf hcell, Clause.text_leaf]
    exact Slots.hasBlank_leafText_term hslots hleaf
  · intro slots text escape slop hcell
    exact (hs h _ hcell).2
  · intro slots lower upper escape kind hcell
    obtain ⟨-, hlower, hupper, hkind⟩ := hs h _ hcell
    exact ⟨hlower, hupper, hkind, fun escape' => ⟨_, _, Leaf.boundText_ne_nil escape' lower,
      Leaf.boundText_ne_nil escape' upper, Leaf.words_body_range hlower hupper escape' kind⟩⟩
  · intro cell hcell
    exact (hs h cell hcell).slots.2

/-- A range with one bound, whose boost is refused and whose kind is changed. -/
def halfOpenSession : List Step :=
  [.create (.range (.str " 5\t") .null (.str "inclusive") "price" true),
    .set 0 (.boost (.int (-1))), .set 0 (.rangeKind .exclusive)]

theorem half_open_range_is_three_words :
    let s := run {} halfOpenSession
    (∀ x ∈ halfOpenSession, x.isChecked = true) ∧
      s.cell? 0 = some (.leaf { field := "price" } (.range (.str " 5\t") .null true .exclusive)) ∧
      ∃ low high : Text, low ≠ [] ∧ high ≠ [] ∧
        Text.words (Leaf.range (.str " 5\t") .null true .exclusive).body =
          ["\x7b" ++ low, "TO", high ++ "\x7d"] := by
  intro s
  have hsession : ∀ x ∈ halfOpenSession, x.isChecked = true := by decide
  have hcell : s.cell? 0 =
      some (.leaf { field := "price" } (.range (.str " 5\t") .null true .exclusive)) := rfl
  obtain ⟨-, -, hrange, -⟩ := clauses_stay_checked hsession 0
  exact ⟨hsession, hcell, (hrange _ _ _ _ _ hcell).2.2.2 true⟩

end Store

end LuceneQuery
