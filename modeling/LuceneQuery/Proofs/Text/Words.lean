import LuceneQuery.Text.Blank

/-!
# Words

The words of a text are its longest pieces without blanks.  A blank parts the
words in front of it from those behind it (`words_append_cons`), and a text
without blanks is one word (`words_of_not_hasBlank`) and has nothing to trim
(`trim_of_not_hasBlank`).
-/

namespace LuceneQuery.Text

/-- The words of a text. -/
def words (s : Text) : List Text := (s.splitOnP isBlank).filter (· ≠ [])

section

variable {c : CodePoint} {s r : Text}

/-- A text has no blank if none of its characters is one. -/
theorem hasBlank_eq_false_iff : hasBlank s = false ↔ ∀ c ∈ s, isBlank c = false := by
  simp [hasBlank]

@[simp] theorem hasBlank_nil : hasBlank [] = false := rfl

@[simp] theorem hasBlank_cons : hasBlank (c :: s) = (isBlank c || hasBlank s) := List.any_cons

@[simp] theorem hasBlank_append : hasBlank (s ++ r) = (hasBlank s || hasBlank r) :=
  List.any_append

/-- A blank parts a text into the words before it and those behind. -/
theorem words_append_cons (hc : isBlank c = true) (s r : Text) :
    words (s ++ c :: r) = words s ++ words r := by
  rw [words, List.splitOnP_append_cons s r hc, List.filter_append]
  rfl

/-- A text without a blank is one word. -/
theorem words_of_not_hasBlank (hs : s ≠ []) (h : hasBlank s = false) : words s = [s] := by
  rw [words, List.splitOnP_eq_singleton (hasBlank_eq_false_iff.1 h)]
  simp [hs]

/-- There is nothing to trim at the end of a word. -/
theorem trimRight_of_not_hasBlank : ∀ {s : Text}, hasBlank s = false → trimRight s = s
  | [], _ => rfl
  | c :: s, h => by
      obtain ⟨hc, hs⟩ := Bool.or_eq_false_iff.1 (hasBlank_cons.symm.trans h)
      rw [trimRight, trimRight_of_not_hasBlank hs]
      cases s with
      | nil => simp [hc]
      | cons d s => rfl

/-- There is nothing to trim at a word. -/
theorem trim_of_not_hasBlank (h : hasBlank s = false) : trim s = s := by
  have hleft : trimLeft s = s := by
    cases s with
    | nil => rfl
    | cons c s =>
      have hc : isBlank c = false := (Bool.or_eq_false_iff.1 (hasBlank_cons.symm.trans h)).1
      exact List.dropWhile_cons_of_neg (by simp [hc])
  rw [trim, hleft, trimRight_of_not_hasBlank h]

end

end LuceneQuery.Text
