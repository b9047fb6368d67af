import LuceneQuery.Clause.Text

/-!
# Texts of clauses

The functions on clauses recurse over a clause and its list of clauses
together.  Here they are put in terms of `List.map` and `List.all`, with an
induction principle to match, and the joining of many texts in terms of the
joining of two.
-/

namespace LuceneQuery

/-! ## Induction on clauses -/

/-- A property of all clauses, shown of a query from its clauses. -/
theorem Clause.induction {p : Clause → Prop} (leaf : ∀ s l, p (.leaf s l))
    (query : ∀ s cs, (∀ c ∈ cs, p c) → p (.query s cs)) : ∀ c, p c
  | .leaf s l => leaf s l
  | .query s cs => query s cs fun c _ => Clause.induction leaf query c

theorem Clause.nestedTexts_eq_map : ∀ cs : List Clause, nestedTexts cs = cs.map nestedText
  | [] => by rw [nestedTexts, List.map_nil]
  | c :: cs => by rw [nestedTexts, List.map_cons, nestedTexts_eq_map cs]

theorem Clause.areWritable_eq_all : ∀ cs : List Clause, areWritable cs = cs.all isWritable
  | [] => by rw [areWritable, List.all_nil]
  | c :: cs => by rw [areWritable, List.all_cons, areWritable_eq_all cs]

@[simp] theorem Clause.nestedText_leaf (s : Slots) (l : Leaf) :
    (Clause.leaf s l).nestedText = s.leafText l := by
  rw [nestedText]

@[simp] theorem Clause.nestedText_query (s : Slots) (cs : List Clause) :
    (Clause.query s cs).nestedText = s.groupText true (joinTexts (cs.map nestedText)) := by
  rw [nestedText, nestedTexts_eq_map]

@[simp] theorem Clause.text_leaf (s : Slots) (l : Leaf) :
    (Clause.leaf s l).text = s.leafText l := rfl

@[simp] theorem Clause.text_query (s : Slots) (cs : List Clause) :
    (Clause.query s cs).text = s.groupText false (joinTexts (cs.map nestedText)) := by
  rw [text, nestedTexts_eq_map]

@[simp] theorem Clause.isWritable_leaf (s : Slots) (l : Leaf) :
    (Clause.leaf s l).isWritable = l.isWritable := by
  rw [isWritable]

@[simp] theorem Clause.isWritable_query (s : Slots) (cs : List Clause) :
    (Clause.query s cs).isWritable = cs.all isWritable := by
  rw [isWritable, areWritable_eq_all]

/-- The text of a clause, if all its numbers can be written. -/
def Clause.rendering? (c : Clause) : Option Text := if c.isWritable then some c.text else none

/-! ## The marks -/

@[simp] theorem text_space : Text.ofString " " = [.char ' '] := by decide

@[simp] theorem text_open : Text.ofString "(" = [.char '('] := by decide

@[simp] theorem text_quote : Text.ofString "\"" = [.char '"'] := by decide

@[simp] theorem text_close : Text.ofString ")" = [.char ')'] := by decide

/-! ## Joining two texts -/

/-- Two texts with a space between them, unless one of them is empty. -/
def joinPair (x y : Text) : Text :=
  if y = [] then x else if x = [] then y else x ++ .char ' ' :: y

/-- A row is its first text joined with the rest of the row. -/
theorem joinTexts_cons (x : Text) (rest : List Text) :
    joinTexts (x :: rest) = joinPair x (joinTexts rest) := by
  rw [joinTexts]
  cases joinTexts rest with
  | nil => rfl
  | cons c y => simp [joinPair]

@[simp] theorem joinPair_nil (x : Text) : joinPair x [] = x := rfl

@[simp] theorem nil_joinPair (y : Text) : joinPair [] y = y := by
  unfold joinPair
  split
  · next h => exact h.symm
  · rfl

/-- There is one space between two texts. -/
theorem joinPair_of_ne_nil {x y : Text} (hx : x ≠ []) (hy : y ≠ []) :
    joinPair x y = x ++ .char ' ' :: y := by
  rw [joinPair, if_neg hy, if_neg hx]

/-- Two texts give nothing only if there is nothing in either. -/
theorem joinPair_eq_nil_iff {x y : Text} : joinPair x y = [] ↔ x = [] ∧ y = [] := by
  by_cases hx : x = []
  · simp [hx]
  · by_cases hy : y = []
    · simp [hy]
    · simp [joinPair_of_ne_nil hx hy, hx]

/-- A row is nothing only if all of its texts are. -/
theorem joinTexts_eq_nil_iff {xs : List Text} : joinTexts xs = [] ↔ ∀ x ∈ xs, x = [] := by
  induction xs with
  | nil => simp [joinTexts]
  | cons x xs ih => rw [joinTexts_cons, joinPair_eq_nil_iff, ih, List.forall_mem_cons]

theorem joinPair_assoc (x y z : Text) :
    joinPair (joinPair x y) z = joinPair x (joinPair y z) := by
  by_cases hx : x = []
  · simp [hx]
  · by_cases hy : y = []
    · simp [hy]
    · by_cases hz : z = []
      · simp [hz]
      · rw [joinPair_of_ne_nil hx hy, joinPair_of_ne_nil hy hz, joinPair_of_ne_nil (by simp) hz,
          joinPair_of_ne_nil hx (by simp), List.append_assoc, List.cons_append]

/-- Two rows give what they give one after the other. -/
theorem joinTexts_append (xs ys : List Text) :
    joinTexts (xs ++ ys) = joinPair (joinTexts xs) (joinTexts ys) := by
  induction xs with
  | nil => exact (nil_joinPair _).symm
  | cons x xs ih => rw [List.cons_append, joinTexts_cons, joinTexts_cons, ih, joinPair_assoc]

/-- The space counts if there is something on both sides of it. -/
theorem length_joinPair (x y : Text) :
    (joinPair x y).length =
      x.length + y.length + if x.length = 0 ∨ y.length = 0 then 0 else 1 := by
  by_cases hx : x = []
  · simp [hx]
  · by_cases hy : y = []
    · simp [hy]
    · simp [joinPair_of_ne_nil hx hy, hx, hy]
      omega

/-! ## Groups -/

namespace Slots

/-- Slots are not filled if they write nothing before and after. -/
theorem isFilled_eq_false_iff (s : Slots) : s.isFilled = false ↔ s.before = [] ∧ s.after = [] := by
  simp [isFilled]

@[simp] theorem groupText_nil (s : Slots) (nested : Bool) : s.groupText nested [] = [] := rfl

/-- A group that is nested or has a slot filled stands in parentheses. -/
theorem groupText_of_ne_nil {s : Slots} {nested : Bool} {body : Text} (hbody : body ≠ [])
    (hmarked : (nested || s.isFilled) = true) :
    s.groupText nested body = s.before ++ .char '(' :: (body ++ .char ')' :: s.after) := by
  simp [groupText, hbody, hmarked]

/-- A group with marks has its parentheses on the top level too. -/
theorem groupText_of_isFilled {s : Slots} (hs : s.isFilled = true) (nested : Bool) (body : Text) :
    s.groupText nested body = s.groupText true body := by
  simp [groupText, hs]

/-- A query without marks has none there. -/
theorem groupText_of_unmarked {s : Slots} (hempty : s.isFilled = false) (body : Text) :
    s.groupText false body = body := by
  unfold groupText
  split
  · next h => exact h.symm
  · simp [hempty]

/-- The number of characters that a group which is not empty adds to its body. -/
def margin (s : Slots) (nested : Bool) : Nat :=
  if nested || s.isFilled then s.before.length + s.after.length + 2 else 0

/-- Parentheses and marks take their room if there is something inside. -/
theorem length_groupText (s : Slots) (nested : Bool) (body : Text) :
    (s.groupText nested body).length =
      if body.length = 0 then 0 else body.length + s.margin nested := by
  by_cases hbody : body = []
  · simp [hbody]
  · by_cases hmarked : (nested || s.isFilled) = true
    · rw [groupText_of_ne_nil hbody hmarked]
      simp [margin, hbody, hmarked]
      omega
    · simp [groupText, margin, hbody, hmarked]

/-- A longer body makes a longer group. -/
theorem length_groupText_lt (s : Slots) (nested : Bool) {x y : Text} (h : x.length < y.length) :
    (s.groupText nested x).length < (s.groupText nested y).length := by
  rw [length_groupText, length_groupText]
  split <;> split <;> omega

/-- Slots of which one is filled make a group longer than empty slots do. -/
theorem groupText_ne_of_isFilled {s t : Slots} (hs : s.isFilled = false) (ht : t.isFilled = true)
    {body : Text} (hbody : body ≠ []) (nested : Bool) :
    s.groupText nested body ≠ t.groupText nested body := by
  intro h
  have hlen := congrArg List.length h
  obtain ⟨hbefore, hafter⟩ := s.isFilled_eq_false_iff.1 hs
  have hfilled : 0 < t.before.length + t.after.length := by
    rw [Nat.pos_iff_ne_zero]
    intro hzero
    have hempty : t.isFilled = false := by
      rw [isFilled_eq_false_iff, ← List.length_eq_zero_iff, ← List.length_eq_zero_iff]
      omega
    rw [ht] at hempty
    cases hempty
  have hpos := List.length_pos_iff.2 hbody
  rw [length_groupText, length_groupText, if_neg (by omega), if_neg (by omega)] at hlen
  have hmargin : s.margin nested < t.margin nested := by
    cases nested <;> simp only [margin, hs, ht, hbefore, hafter, List.length_nil, Bool.or_true,
      Bool.true_or, Bool.or_self, Bool.false_eq_true, if_true, if_false] <;> omega
  omega

@[simp] theorem groupText_eq_nil_iff (s : Slots) (nested : Bool) (body : Text) :
    s.groupText nested body = [] ↔ body = [] := by
  rw [← List.length_eq_zero_iff, length_groupText, ← List.length_eq_zero_iff (l := body)]
  split <;> omega

/-- Groups in the same slots have the same text only if their bodies have. -/
theorem groupText_injective (s : Slots) (nested : Bool) :
    Function.Injective (s.groupText nested) := by
  intro x y hxy
  by_cases hx : x = []
  · subst hx
    exact ((s.groupText_eq_nil_iff nested y).1 hxy.symm).symm
  · have hy : y ≠ [] := by
      intro hy
      subst hy
      exact hx ((s.groupText_eq_nil_iff nested x).1 hxy)
    by_cases hmarked : (nested || s.isFilled) = true
    · rw [groupText_of_ne_nil hx hmarked, groupText_of_ne_nil hy hmarked] at hxy
      have hrest := (List.cons_eq_cons.1 (List.append_cancel_left hxy)).2
      exact List.append_cancel_right hrest
    · simpa [groupText, hx, hy, hmarked] using hxy

/-- Two sets of slots look alike around the body of a nested group only if they
do around that of a group on its own. -/
theorem groupText_true_eq_iff (s t : Slots) (body : Text) :
    s.groupText true body = t.groupText true body ↔
      s.groupText false body = t.groupText false body := by
  by_cases hbody : body = []
  · simp [hbody]
  · cases hs : s.isFilled with
    | true =>
      cases ht : t.isFilled with
      | true => rw [groupText_of_isFilled hs false, groupText_of_isFilled ht false]
      | false =>
        have hne := groupText_ne_of_isFilled ht hs hbody
        exact ⟨fun h => absurd h.symm (hne true), fun h => absurd h.symm (hne false)⟩
    | false =>
      cases ht : t.isFilled with
      | true =>
        have hne := groupText_ne_of_isFilled hs ht hbody
        exact ⟨fun h => absurd h (hne true), fun h => absurd h (hne false)⟩
      | false =>
        obtain ⟨hsb, hsa⟩ := s.isFilled_eq_false_iff.1 hs
        obtain ⟨htb, hta⟩ := t.isFilled_eq_false_iff.1 ht
        simp [groupText, hs, ht, hsb, hsa, htb, hta]

end Slots

end LuceneQuery
