import LuceneQuery.Proofs.Clause.Checked
import LuceneQuery.Proofs.Clause.NormalForm

/-!
# Queries without a leaf

A query is empty if it has no leaf, be it directly or at any depth, and whatever its
slots and those of the queries in it are.  No well-formed leaf is without a text, so
the text of a clause is empty if and only if the clause has no leaf
(`Clause.text_eq_nil_iff`).

Queries without a leaf leave no trace in the text of what they are in: it is the text of
the clause from which they have been *pruned* (`Clause.nestedText_pruned`).
-/

namespace LuceneQuery

/-! ## Joined texts -/

/-- The texts that are not empty are joined by single spaces. -/
theorem joinTexts_eq_intercalate (xs : List Text) :
    joinTexts xs = List.intercalate " " (xs.filter (· ≠ [])) := by
  induction xs with
  | nil => rfl
  | cons x xs ih =>
    rw [joinTexts_cons]
    by_cases hx : x = []
    · simpa [hx] using ih
    · rw [List.filter_cons_of_pos (by simpa using hx)]
      cases hrest : xs.filter (· ≠ []) with
      | nil =>
        rw [hrest] at ih
        rw [ih]
        simp
      | cons y ys =>
        have hne : joinTexts xs ≠ [] := by
          have hy : y ∈ xs.filter (· ≠ []) := hrest ▸ List.mem_cons_self
          obtain ⟨hmem, hne⟩ := List.mem_filter.1 hy
          rw [Ne, joinTexts_eq_nil_iff]
          exact fun hnil => of_decide_eq_true hne (hnil y hmem)
        rw [joinPair_of_ne_nil hx hne, ih, hrest]
        simp [List.intercalate]

theorem joinTexts_filter (xs : List Text) : joinTexts (xs.filter (· ≠ [])) = joinTexts xs := by
  rw [joinTexts_eq_intercalate, joinTexts_eq_intercalate xs, List.filter_filter]
  simp only [Bool.and_self]

namespace Clause

/-! ## Leaves in clauses -/

mutual

/-- Whether there is a leaf in a clause. -/
def hasLeaf : Clause → Bool
  | .leaf .. => true
  | .query _ cs => haveLeaf cs

/-- Whether there is a leaf in some clauses. -/
def haveLeaf : List Clause → Bool
  | [] => false
  | c :: rest => c.hasLeaf || haveLeaf rest

end

mutual

/-- A clause without the queries in it that have no leaf. -/
def pruned : Clause → Clause
  | .leaf s l => .leaf s l
  | .query s cs => .query s (prunedOf cs)

/-- The clauses that have a leaf, each of them pruned. -/
def prunedOf : List Clause → List Clause
  | [] => []
  | c :: rest => if c.hasLeaf then c.pruned :: prunedOf rest else prunedOf rest

end

theorem haveLeaf_eq_any (cs : List Clause) : haveLeaf cs = cs.any hasLeaf := by
  induction cs with
  | nil => rw [haveLeaf, List.any_nil]
  | cons c cs ih => rw [haveLeaf, List.any_cons, ih]

theorem prunedOf_eq_map (cs : List Clause) : prunedOf cs = (cs.filter hasLeaf).map pruned := by
  induction cs with
  | nil => rw [prunedOf, List.filter_nil, List.map_nil]
  | cons c cs ih =>
    rw [prunedOf, List.filter_cons, ih]
    split <;> simp

@[simp] theorem hasLeaf_leaf (s : Slots) (l : Leaf) : (Clause.leaf s l).hasLeaf = true := by
  rw [hasLeaf]

@[simp] theorem hasLeaf_query (s : Slots) (cs : List Clause) :
    (Clause.query s cs).hasLeaf = cs.any hasLeaf := by
  rw [hasLeaf, haveLeaf_eq_any]

@[simp] theorem pruned_leaf (s : Slots) (l : Leaf) : (Clause.leaf s l).pruned = .leaf s l := by
  rw [pruned]

@[simp] theorem pruned_query (s : Slots) (cs : List Clause) :
    (Clause.query s cs).pruned = .query s ((cs.filter hasLeaf).map pruned) := by
  rw [pruned, prunedOf_eq_map]

end Clause

/-! ## Leaves have a text -/

theorem Leaf.body_ne_nil {l : Leaf} (h : l.WellFormed) : l.body ≠ [] := by
  cases l with
  | term text escape fuzziness =>
    rw [body]
    split
    · exact Escape.token_ne_nil h.1
    · exact h.1
  | phrase text escape slop => simp [body]
  | range lower upper escape kind => simp [body, boundText_ne_nil]

theorem Slots.leafText_ne_nil (s : Slots) {l : Leaf} (h : l.WellFormed) : s.leafText l ≠ [] := by
  simp [leafText, Leaf.body_ne_nil h]

namespace Clause

variable {c : Clause} {s : Slots} {cs : List Clause}

/-- A clause is empty inside a query if and only if it has no leaf. -/
theorem nestedText_eq_nil_iff (h : c.WellFormed) : c.nestedText = [] ↔ c.hasLeaf = false := by
  induction h with
  | @leaf s l hs hl => simp [Slots.leafText_ne_nil s hl]
  | query hs _ ih =>
    rw [nestedText_query, Slots.groupText_eq_nil_iff, joinTexts_eq_nil_iff, hasLeaf_query,
      List.any_eq_false, List.forall_mem_map]
    exact forall₂_congr fun c hc => (ih c hc).trans (by simp)

/-- A clause is empty on its own if and only if it has no leaf. -/
theorem text_eq_nil_iff (h : c.WellFormed) : c.text = [] ↔ c.hasLeaf = false := by
  rw [← nestedText_eq_nil_iff h]
  cases c with
  | leaf s l => simp
  | query s cs => simp

/-- The texts of the clauses with a leaf are those that are not empty. -/
theorem map_nestedText_filter (h : ∀ c ∈ cs, c.WellFormed) :
    (cs.filter hasLeaf).map nestedText = (cs.map nestedText).filter (· ≠ []) := by
  rw [List.filter_map]
  congr 1
  refine List.filter_congr fun c hc => ?_
  rw [Function.comp_apply, Bool.eq_iff_iff, decide_eq_true_iff, Ne,
    nestedText_eq_nil_iff (h c hc), Bool.not_eq_false]

/-- Inside a query, a query with a leaf is one group in parentheses between its slots. -/
theorem nestedText_of_hasLeaf (h : (Clause.query s cs).WellFormed)
    (hleaf : (Clause.query s cs).hasLeaf = true) :
    (Clause.query s cs).nestedText =
      s.before ++ "(" ++ List.intercalate " " ((cs.map nestedText).filter (· ≠ [])) ++ ")" ++
        s.after := by
  have hbody : joinTexts (cs.map nestedText) ≠ [] := by
    intro hnil
    have hempty := (nestedText_eq_nil_iff h).1 (by simp [hnil])
    exact absurd hleaf (by simp [hempty])
  rw [nestedText_query, Slots.groupText, if_neg hbody, Bool.true_or, if_pos rfl,
    joinTexts_eq_intercalate]

/-- The clauses of a query are joined to the same text when they have been pruned, if
each of them keeps its own. -/
theorem joinTexts_map_pruned (h : ∀ c ∈ cs, c.WellFormed)
    (hcs : ∀ c ∈ cs, c.pruned.nestedText = c.nestedText) :
    joinTexts (((cs.filter hasLeaf).map pruned).map nestedText) =
      joinTexts (cs.map nestedText) := by
  have hkept : ((cs.filter hasLeaf).map pruned).map nestedText =
      (cs.filter hasLeaf).map nestedText := by
    rw [List.map_map]
    exact List.map_congr_left fun c hc => hcs c (List.mem_filter.1 hc).1
  rw [hkept, map_nestedText_filter h, joinTexts_filter]

/-- Queries without a leaf leave no trace in the text of a clause inside a query. -/
theorem nestedText_pruned (h : c.WellFormed) : c.pruned.nestedText = c.nestedText := by
  induction h with
  | leaf hs hl => rw [pruned_leaf]
  | query hs hcs ih =>
    rw [pruned_query, nestedText_query, nestedText_query, joinTexts_map_pruned hcs ih]

theorem text_pruned (h : c.WellFormed) : c.pruned.text = c.text := by
  cases c with
  | leaf s l => rw [pruned_leaf]
  | query s cs =>
    rw [pruned_query, text_query, text_query,
      joinTexts_map_pruned h.of_mem fun c hc => nestedText_pruned (h.of_mem c hc)]

/-- There is no number in a clause without a leaf. -/
theorem isWritable_of_not_hasLeaf (h : c.hasLeaf = false) : c.isWritable = true := by
  induction c using Clause.induction with
  | leaf s l => cases h
  | query s cs ih =>
    rw [hasLeaf_query, List.any_eq_false] at h
    rw [isWritable_query, List.all_eq_true]
    exact fun c hc => ih c hc (Bool.not_eq_true _ ▸ h c hc)

theorem isWritable_pruned (c : Clause) : c.pruned.isWritable = c.isWritable := by
  induction c using Clause.induction with
  | leaf s l => rw [pruned_leaf]
  | query s cs ih =>
    rw [pruned_query, isWritable_query, isWritable_query, Bool.eq_iff_iff]
    simp only [List.all_eq_true, List.forall_mem_map, List.mem_filter, and_imp]
    refine forall₂_congr fun c hc => ?_
    rw [ih c hc]
    -- A clause that is left out has no leaf, and so there is no number in it.
    refine ⟨fun h => ?_, fun h _ => h⟩
    cases hleaf : c.hasLeaf with
    | true => exact h hleaf
    | false => exact isWritable_of_not_hasLeaf hleaf

/-- Queries without a leaf have no part in how a clause is rendered. -/
theorem rendering?_pruned (h : c.WellFormed) : c.pruned.rendering? = c.rendering? := by
  rw [rendering?, rendering?, isWritable_pruned, text_pruned h]

/-- A clause is rendered to nothing if and only if it has no leaf. -/
theorem rendering?_eq_some_nil_iff (h : c.WellFormed) :
    c.rendering? = some [] ↔ c.hasLeaf = false := by
  rw [rendering?, ← text_eq_nil_iff h]
  constructor
  · intro hsome
    split at hsome
    · exact Option.some.inj hsome
    · cases hsome
  · intro hnil
    rw [if_pos (isWritable_of_not_hasLeaf ((text_eq_nil_iff h).1 hnil)), hnil]

end Clause

end LuceneQuery
