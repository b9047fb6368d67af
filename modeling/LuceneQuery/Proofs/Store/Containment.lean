import Mathlib.Data.Finset.Card
import Mathlib.Logic.Relation
import LuceneQuery.Proofs.Store.Effect

/-!
# Containment

A query contains the clauses that were added to it, and reaches what stands
anywhere below it.  `Store.holds` and `Store.tree` walk down this relation
under a bound on the depth.

*Rank.*  In a store without cycles the rank of a clause is the number of cells
that are met on the way down from it, itself included.  A step down strictly
lowers the rank (`Acyclic.rank_lt`), and no rank is above the number of cells
(`rank_le_size`).  So the walks down are well-founded, and no walk uses up its
bound: `holds` is true reachability (`Acyclic.holds_iff`), and `tree` satisfies
the equation of the walk without a bound (`Acyclic.tree_eq`).

*Changes.*  A new clause without parts and a change of slots or of a leaf leave
the relation as it is.  One more clause in a query adds one edge, and a path
that uses it passes through the query (`reaches_append`).
-/

namespace LuceneQuery

/-- A cell that describes a new clause has no parts. -/
theorem Store.Blueprint.clauses_of_build {b : Store.Blueprint} {cell : Cell}
    (h : b.build = .ok cell) : cell.clauses = [] := by
  rcases cases_of_build h with ⟨field, l, rfl, -⟩ | ⟨field, rfl⟩
  · rfl
  · rfl

namespace Cell

@[simp] theorem clauses_mapSlots (f : Slots → Slots) (cell : Cell) :
    (cell.mapSlots f).clauses = cell.clauses := by
  cases cell <;> rfl

@[simp] theorem clauses_mapLeaf (f : Leaf → Leaf) (cell : Cell) :
    (cell.mapLeaf f).clauses = cell.clauses := by
  cases cell <;> rfl

@[simp] theorem kindName_append (h : Handle) (cell : Cell) :
    (cell.append h).kindName = cell.kindName := by
  cases cell <;> rfl

/-- A clause in a query is one that was there or the one that is added. -/
theorem mem_clauses_append {h c : Handle} {cell : Cell} (hc : c ∈ (cell.append h).clauses) :
    c ∈ cell.clauses ∨ c = h := by
  cases cell with
  | leaf slots l => cases hc
  | query slots cs => simpa [append, clauses] using hc

theorem clauses_subset_append (h : Handle) (cell : Cell) :
    cell.clauses ⊆ (cell.append h).clauses := by
  cases cell with
  | leaf slots l => exact List.Subset.refl _
  | query slots cs => exact List.subset_append_left cs [h]

end Cell

/-- What a setting does to a cell leaves the clauses in it. -/
theorem Store.Setting.clauses_of_apply {setting : Store.Setting} {change : Cell → Cell}
    (h : setting.apply = .ok change) (cell : Cell) : (change cell).clauses = cell.clauses := by
  rcases cases_of_apply h with ⟨f, rfl, -⟩ | ⟨f, rfl, -⟩
  · exact cell.clauses_mapSlots f
  · exact cell.clauses_mapLeaf f

namespace Store

/-! ## The relation -/

/-- A query contains a clause directly. -/
def Contains (s : Store) (q c : Handle) : Prop := c ∈ s.clauses q

/-- A query reaches a clause anywhere below it. -/
def Reaches (s : Store) : Handle → Handle → Prop := Relation.TransGen s.Contains

/-- No clause stands below itself. -/
def Acyclic (s : Store) : Prop := ∀ h, ¬ s.Reaches h h

section

variable {s : Store} {h q c target : Handle}

theorem Contains.reaches (hc : s.Contains q c) : s.Reaches q c := Relation.TransGen.single hc

/-- What a clause in a query reaches, the query reaches. -/
theorem Contains.trans_reaches (hc : s.Contains q c) (hr : s.Reaches c target) :
    s.Reaches q target :=
  Relation.TransGen.head hc hr

/-- A query reaches its clauses and what these reach. -/
theorem reaches_iff :
    s.Reaches h target ↔ ∃ c ∈ s.clauses h, c = target ∨ s.Reaches c target := by
  unfold Reaches
  rw [Relation.TransGen.head'_iff]
  simp only [Relation.reflTransGen_iff_eq_or_transGen, eq_comm (a := target)]
  rfl

theorem Contains.lt_size (hc : s.Contains q c) : q < s.size := by
  unfold Contains clauses at hc
  split at hc
  · next cell hcell =>
    exact (List.getElem?_eq_some_iff.1 hcell).1
  · cases hc

/-! ## The rank of a clause -/

open Classical in
/-- The cells that are met on the way down from a clause, itself included. -/
noncomputable def below (s : Store) (h : Handle) : Finset Handle :=
  (Finset.range s.size).filter fun k => Relation.ReflTransGen s.Contains h k

/-- Below a clause there is what it reaches, and itself. -/
theorem mem_below {k : Handle} :
    k ∈ s.below h ↔ k < s.size ∧ Relation.ReflTransGen s.Contains h k := by
  simp [below]

/-- The number of cells that are met on the way down from a clause. -/
noncomputable def rank (s : Store) (h : Handle) : Nat := (s.below h).card

/-- No clause has a rank above the number of cells. -/
theorem rank_le_size (s : Store) (h : Handle) : s.rank h ≤ s.size := by
  have hsub : s.below h ⊆ Finset.range s.size := by
    intro k hk
    rw [Finset.mem_range]
    exact (mem_below.1 hk).1
  exact (Finset.card_le_card hsub).trans_eq (Finset.card_range s.size)

/-- A step down lowers the rank: what is met from a clause is met from the
query above it, and the query itself only from there. -/
theorem Acyclic.rank_lt (hs : s.Acyclic) (hc : s.Contains q c) : s.rank c < s.rank q := by
  have hsub : s.below c ⊆ s.below q := by
    intro k hk
    rw [mem_below] at hk ⊢
    exact ⟨hk.1, .head hc hk.2⟩
  have hq : q ∉ s.below c := by
    intro hq
    exact hs q (Relation.TransGen.head' hc (mem_below.1 hq).2)
  apply Finset.card_lt_card
  rw [Finset.ssubset_iff_of_subset hsub]
  exact ⟨q, mem_below.2 ⟨hc.lt_size, .refl⟩, hq⟩

/-- Walks down a store without cycles end. -/
theorem Acyclic.wellFounded (hs : s.Acyclic) : WellFounded fun c q => s.Contains q c :=
  Subrelation.wf hs.rank_lt (measure s.rank).wf

/-! ## Walks under a bound -/

theorem holdsWithin_succ_iff (s : Store) (depth : Nat) (h target : Handle) :
    s.holdsWithin (depth + 1) h target = true ↔
      ∃ c ∈ s.clauses h, c = target ∨ s.holdsWithin depth c target = true := by
  simp [holdsWithin]

/-- A bound from the rank on is enough to find what is reached. -/
theorem Acyclic.holdsWithin_iff (hs : s.Acyclic) :
    ∀ {depth : Nat} {h target : Handle}, s.rank h ≤ depth →
      (s.holdsWithin depth h target = true ↔ s.Reaches h target)
  | 0, h, target, hr => by
      have hnone : ¬ s.Reaches h target := by
        rw [reaches_iff]
        rintro ⟨c, hc, -⟩
        have := hs.rank_lt (q := h) hc
        omega
      simp [holdsWithin, hnone]
  | depth + 1, h, target, hr => by
      rw [holdsWithin_succ_iff, reaches_iff]
      refine exists_congr fun c => and_congr_right fun hc => ?_
      have hlt := hs.rank_lt (q := h) hc
      rw [hs.holdsWithin_iff (by omega)]

/-- `holds` is reachability. -/
theorem Acyclic.holds_iff (hs : s.Acyclic) : s.holds h target = true ↔ s.Reaches h target :=
  hs.holdsWithin_iff (s.rank_le_size h)

/-- A larger bound finds nothing more. -/
theorem Acyclic.holdsWithin_eq (hs : s.Acyclic) {depth : Nat} (hd : s.size ≤ depth)
    (h target : Handle) : s.holdsWithin depth h target = s.holds h target := by
  rw [Bool.eq_iff_iff, hs.holds_iff]
  exact hs.holdsWithin_iff ((s.rank_le_size h).trans hd)

/-- The walk of `holds` without its bound. -/
theorem Acyclic.holds_eq (hs : s.Acyclic) (h target : Handle) :
    s.holds h target = (s.clauses h).any fun c => c == target || s.holds c target := by
  rw [Bool.eq_iff_iff, hs.holds_iff, reaches_iff]
  simp [hs.holds_iff]

/-- Two bounds above the rank unfold a clause alike. -/
theorem Acyclic.treeWithin_eq_of_rank_lt (hs : s.Acyclic) :
    ∀ {d e : Nat} {h : Handle}, s.rank h < d → s.rank h < e → s.treeWithin d h = s.treeWithin e h
  | d + 1, e + 1, h, hd, he => by
      simp only [treeWithin]
      split
      · rfl
      · next slots cs hcell =>
        congr 1
        refine List.map_congr_left fun c hc => ?_
        have hcont : s.Contains h c := by simpa [Contains, clauses, hcell, Cell.clauses] using hc
        have hlt := hs.rank_lt hcont
        exact hs.treeWithin_eq_of_rank_lt (by omega) (by omega)
      · rfl

theorem Acyclic.treeWithin_eq (hs : s.Acyclic) {depth : Nat} (hd : s.size < depth) (h : Handle) :
    s.treeWithin depth h = s.tree h :=
  hs.treeWithin_eq_of_rank_lt ((s.rank_le_size h).trans_lt hd)
    ((s.rank_le_size h).trans_lt s.size.lt_succ_self)

theorem tree_of_leaf {slots : Slots} {l : Leaf} (hcell : s.cell? h = some (.leaf slots l)) :
    s.tree h = .leaf slots l := by
  simp [tree, treeWithin, hcell]

theorem tree_of_none (hcell : s.cell? h = none) : s.tree h = .query {} [] := by
  simp [tree, treeWithin, hcell]

/-- A query unfolds to the query of what its clauses unfold to. -/
theorem Acyclic.tree_of_query (hs : s.Acyclic) {slots : Slots} {cs : List Handle}
    (hcell : s.cell? h = some (.query slots cs)) : s.tree h = .query slots (cs.map s.tree) := by
  have hc : ∀ c ∈ cs, s.Contains h c := by
    intro c hc
    simpa [Contains, clauses, hcell, Cell.clauses] using hc
  simp only [tree, treeWithin, hcell]
  congr 1
  refine List.map_congr_left fun c hcs => ?_
  have hlt := hs.rank_lt (hc c hcs)
  have hle := s.rank_le_size h
  exact hs.treeWithin_eq_of_rank_lt (by omega) (by omega)

/-- The walk of `tree` without its bound. -/
theorem Acyclic.tree_eq (hs : s.Acyclic) (h : Handle) :
    s.tree h = match s.cell? h with
      | some (.leaf slots l) => .leaf slots l
      | some (.query slots cs) => .query slots (cs.map s.tree)
      | none => .query {} [] := by
  split
  · next hcell => exact tree_of_leaf hcell
  · next hcell => exact hs.tree_of_query hcell
  · next hcell => exact tree_of_none hcell

end

/-! ## Changes of the store -/

section

variable {s : Store} {h q : Handle}

@[simp] theorem size_modify (s : Store) (h : Handle) (f : Cell → Cell) :
    (s.modify h f).size = s.size := by
  simp [modify, size]

theorem cell?_modify_self (s : Store) (h : Handle) (f : Cell → Cell) :
    (s.modify h f).cell? h = (s.cell? h).map f := by
  simp [modify, cell?]

theorem cell?_modify_of_ne (s : Store) {h k : Handle} (f : Cell → Cell) (hk : k ≠ h) :
    (s.modify h f).cell? k = s.cell? k := by
  simp [modify, cell?, hk.symm]

/-- A change that keeps the clauses of a cell keeps all clauses. -/
theorem clauses_modify {f : Cell → Cell} (hf : ∀ cell, (f cell).clauses = cell.clauses) :
    (s.modify h f).clauses = s.clauses := by
  funext k
  unfold clauses
  by_cases hk : k = h
  · subst hk
    rw [cell?_modify_self]
    cases s.cell? k <;> simp [hf]
  · rw [cell?_modify_of_ne s f hk]

theorem clauses_insert {cell : Cell} (hcell : cell.clauses = []) :
    (s.insert cell).clauses = s.clauses := by
  funext k
  unfold clauses cell? insert
  rcases Nat.lt_trichotomy k s.cells.length with hk | hk | hk
  · simp [List.getElem?_append_left hk]
  · rw [hk, List.getElem?_concat_length, List.getElem?_eq_none (Nat.le_refl _)]
    simp [hcell]
  · rw [List.getElem?_eq_none (by simp; omega), List.getElem?_eq_none (by omega)]

/-- Whether a store has cycles depends on nothing but what its cells hold. -/
theorem Acyclic.of_clauses_eq {s' : Store} (hs : s.Acyclic) (heq : s'.clauses = s.clauses) :
    s'.Acyclic := by
  unfold Acyclic Reaches Contains
  rw [heq]
  exact hs

/-- One more clause in a query adds at most one edge. -/
theorem contains_append {a b : Handle} (hab : (s.modify q (·.append h)).Contains a b) :
    s.Contains a b ∨ (a = q ∧ b = h) := by
  unfold Contains clauses at hab ⊢
  by_cases ha : a = q
  · subst ha
    rw [cell?_modify_self] at hab
    cases hcell : s.cell? a with
    | none => simp [hcell] at hab
    | some cell =>
      simp only [hcell, Option.map_some] at hab ⊢
      rcases Cell.mem_clauses_append hab with hb | hb
      · exact Or.inl hb
      · exact Or.inr ⟨trivial, hb⟩
  · rw [cell?_modify_of_ne s _ ha] at hab
    exact Or.inl hab

theorem Contains.append {a b : Handle} (hab : s.Contains a b) :
    (s.modify q (·.append h)).Contains a b := by
  unfold Contains clauses at hab ⊢
  by_cases ha : a = q
  · subst ha
    rw [cell?_modify_self]
    cases hcell : s.cell? a with
    | none => simp [hcell] at hab
    | some cell =>
      simp only [hcell] at hab
      exact Cell.clauses_subset_append h cell hab
  · rw [cell?_modify_of_ne s _ ha]
    exact hab

theorem Reaches.append {a b : Handle} (hab : s.Reaches a b) :
    (s.modify q (·.append h)).Reaches a b :=
  Relation.TransGen.mono (fun _ _ => Contains.append) a b hab

/-- A path in the larger store is an old one, or it leads down to the query
and goes on from the clause that was added. -/
theorem reaches_append {a b : Handle} (hab : (s.modify q (·.append h)).Reaches a b) :
    s.Reaches a b ∨
      (Relation.ReflTransGen s.Contains a q ∧ Relation.ReflTransGen s.Contains h b) := by
  induction hab with
  | single hb =>
    rcases contains_append hb with hb | ⟨rfl, rfl⟩
    · exact Or.inl (.single hb)
    · exact Or.inr ⟨.refl, .refl⟩
  | tail _ hbc ih =>
    rcases contains_append hbc with hbc | ⟨rfl, rfl⟩
    · rcases ih with ih | ⟨haq, hhb⟩
      · exact Or.inl (ih.tail hbc)
      · exact Or.inr ⟨haq, hhb.tail hbc⟩
    · rcases ih with ih | ⟨haq, -⟩
      · exact Or.inr ⟨ih.to_reflTransGen, .refl⟩
      · exact Or.inr ⟨haq, .refl⟩

/-- What reaches the query that grows reached it before. -/
theorem reaches_append_self_iff {k : Handle} (hk : k ≠ q) :
    (s.modify q (·.append h)).Reaches k q ↔ s.Reaches k q := by
  refine ⟨fun hr => ?_, Reaches.append⟩
  rcases reaches_append hr with hr | ⟨hr, -⟩
  · exact hr
  · rcases Relation.reflTransGen_iff_eq_or_transGen.1 hr with heq | hr
    · exact absurd heq.symm hk
    · exact hr

/-- A clause that is not the query and does not reach it closes no cycle. -/
theorem Acyclic.append (hs : s.Acyclic) (hne : h ≠ q) (hr : ¬ s.Reaches h q) :
    (s.modify q (·.append h)).Acyclic := by
  intro k hk
  rcases reaches_append hk with hk | ⟨hkq, hhk⟩
  · exact hs k hk
  · rcases Relation.reflTransGen_iff_eq_or_transGen.1 (hhk.trans hkq) with heq | hhq
    · exact hne heq.symm
    · exact hr hhq

end

end Store

end LuceneQuery
