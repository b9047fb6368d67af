import LuceneQuery.Proofs.Clause.Text

/-!
# How a difference shows

Two texts *differ* as an `Ordering` says: the second one is longer, it is
shorter, or it is another text of the same length.  Where a part of a text is
replaced, possibly in several places, the whole differs in the same way as the
part: replacements that all make the text longer cannot cancel out, and
replacements that keep every length leave all positions in place.  A part that
becomes empty, or stops to be, also takes or brings a space or parentheses,
which goes in the same direction.

So a difference goes up through `joinTexts` (`joinTexts_differs`) and
`groupText` (`Differs.groupText`).
-/

namespace LuceneQuery

/-- How a text differs from another one: in length, or in nothing but the
characters. -/
inductive Differs : Ordering → Text → Text → Prop where
  | longer {x y : Text} (h : x.length < y.length) : Differs .lt x y
  | shorter {x y : Text} (h : y.length < x.length) : Differs .gt x y
  | other {x y : Text} (hlen : x.length = y.length) (h : x ≠ y) : Differs .eq x y

/-- A text is the same or differs in a certain way. -/
def SameOrDiffers (o : Ordering) (x y : Text) : Prop := x = y ∨ Differs o x y

namespace Differs

variable {o : Ordering} {x y x' y' : Text}

theorem ne (h : Differs o x y) : x ≠ y := by
  rintro rfl
  cases h with
  | longer h => exact Nat.lt_irrefl _ h
  | shorter h => exact Nat.lt_irrefl _ h
  | other _ h => exact h rfl

/-- Two texts that are not the same differ in one of the ways. -/
theorem of_ne (h : x ≠ y) : ∃ o, Differs o x y := by
  rcases Nat.lt_trichotomy x.length y.length with hlt | heq | hgt
  · exact ⟨_, .longer hlt⟩
  · exact ⟨_, .other heq h⟩
  · exact ⟨_, .shorter hgt⟩

end Differs

namespace SameOrDiffers

variable {x y : Text}

theorem le (h : SameOrDiffers .lt x y) : x.length ≤ y.length := by
  rcases h with rfl | h
  · exact Nat.le_refl _
  · cases h with
    | longer h => exact Nat.le_of_lt h

theorem ge (h : SameOrDiffers .gt x y) : y.length ≤ x.length := by
  rcases h with rfl | h
  · exact Nat.le_refl _
  · cases h with
    | shorter h => exact Nat.le_of_lt h

theorem length_eq (h : SameOrDiffers .eq x y) : x.length = y.length := by
  rcases h with rfl | h
  · rfl
  · cases h with
    | other hlen _ => exact hlen

end SameOrDiffers

/-! ## Two texts -/

section

variable {o : Ordering} {x y x' y' : Text}

/-- Joined texts of the same lengths are the same only if their parts are. -/
theorem joinPair_inj (hx : x.length = x'.length) (hy : y.length = y'.length)
    (h : joinPair x y = joinPair x' y') : x = x' ∧ y = y' := by
  have hx0 : x = [] ↔ x' = [] := by
    rw [← List.length_eq_zero_iff, hx, List.length_eq_zero_iff]
  have hy0 : y = [] ↔ y' = [] := by
    rw [← List.length_eq_zero_iff, hy, List.length_eq_zero_iff]
  by_cases hyn : y = []
  · rw [hyn, hy0.1 hyn, joinPair_nil, joinPair_nil] at h
    exact ⟨h, by rw [hyn, hy0.1 hyn]⟩
  · by_cases hxn : x = []
    · rw [hxn, hx0.1 hxn, nil_joinPair, nil_joinPair] at h
      exact ⟨by rw [hxn, hx0.1 hxn], h⟩
    · rw [joinPair_of_ne_nil hxn hyn, joinPair_of_ne_nil (mt hx0.2 hxn) (mt hy0.2 hyn)] at h
      obtain ⟨hxx, hyy⟩ := List.append_inj h hx
      exact ⟨hxx, (List.cons_eq_cons.1 hyy).2⟩

/-- A difference in one of two joined texts, or the same one in both, is a
difference of the whole. -/
theorem joinPair_differs (hx : SameOrDiffers o x x') (hy : SameOrDiffers o y y')
    (h : Differs o x x' ∨ Differs o y y') : Differs o (joinPair x y) (joinPair x' y') := by
  cases o with
  | lt =>
    apply Differs.longer
    have hxl := hx.le
    have hyl := hy.le
    have hlt : x.length < x'.length ∨ y.length < y'.length := by
      rcases h with h | h <;> cases h with
      | longer h => simp [h]
    rw [length_joinPair, length_joinPair]
    split <;> split <;> omega
  | gt =>
    apply Differs.shorter
    have hxl := hx.ge
    have hyl := hy.ge
    have hlt : x'.length < x.length ∨ y'.length < y.length := by
      rcases h with h | h <;> cases h with
      | shorter h => simp [h]
    rw [length_joinPair, length_joinPair]
    split <;> split <;> omega
  | eq =>
    apply Differs.other
    · rw [length_joinPair, length_joinPair, hx.length_eq, hy.length_eq]
    · intro heq
      obtain ⟨hxx, hyy⟩ := joinPair_inj hx.length_eq hy.length_eq heq
      rcases h with h | h
      · exact h.ne hxx
      · exact h.ne hyy

/-- If both parts of a pair change in one way, the pair changes in that way. -/
theorem SameOrDiffers.joinPair (hx : SameOrDiffers o x x') (hy : SameOrDiffers o y y') :
    SameOrDiffers o (joinPair x y) (joinPair x' y') := by
  rcases hx with rfl | hx
  · rcases hy with rfl | hy
    · exact Or.inl rfl
    · exact Or.inr (joinPair_differs (Or.inl rfl) (Or.inr hy) (Or.inr hy))
  · exact Or.inr (joinPair_differs (Or.inr hx) hy (Or.inl hx))

/-! ## Groups -/

theorem Differs.groupText (s : Slots) (nested : Bool) (h : Differs o x y) :
    Differs o (s.groupText nested x) (s.groupText nested y) := by
  cases h with
  | longer h => exact .longer (s.length_groupText_lt nested h)
  | shorter h => exact .shorter (s.length_groupText_lt nested h)
  | other hlen h =>
    apply Differs.other
    · rw [Slots.length_groupText, Slots.length_groupText, hlen]
    · exact fun heq => h (s.groupText_injective nested heq)

end

/-! ## Many texts -/

section

variable {α : Type} {o : Ordering} {f g : α → Text}

/-- If all texts of a row change in one way, the row changes in that way. -/
theorem joinTexts_sameOrDiffers :
    ∀ {cs : List α}, (∀ c ∈ cs, SameOrDiffers o (f c) (g c)) →
      SameOrDiffers o (joinTexts (cs.map f)) (joinTexts (cs.map g))
  | [], _ => Or.inl rfl
  | c :: cs, h => by
      rw [List.map_cons, List.map_cons, joinTexts_cons, joinTexts_cons]
      exact (h c List.mem_cons_self).joinPair
        (joinTexts_sameOrDiffers fun c' hc' => h c' (List.mem_cons_of_mem c hc'))

/-- A difference in some of many joined texts, the same one wherever there is
one, is a difference of the whole. -/
theorem joinTexts_differs :
    ∀ {cs : List α}, (∀ c ∈ cs, SameOrDiffers o (f c) (g c)) →
      (∃ c ∈ cs, Differs o (f c) (g c)) →
      Differs o (joinTexts (cs.map f)) (joinTexts (cs.map g))
  | [], _, ⟨c, hc, _⟩ => by cases hc
  | c :: cs, h, ⟨c', hc', hd⟩ => by
      have hc := h c List.mem_cons_self
      have hcs : ∀ k ∈ cs, SameOrDiffers o (f k) (g k) :=
        fun k hk => h k (List.mem_cons_of_mem c hk)
      rw [List.map_cons, List.map_cons, joinTexts_cons, joinTexts_cons]
      apply joinPair_differs hc (joinTexts_sameOrDiffers hcs)
      rcases List.mem_cons.1 hc' with rfl | hc'
      · exact Or.inl hd
      · exact Or.inr (joinTexts_differs hcs ⟨c', hc', hd⟩)

end

end LuceneQuery
