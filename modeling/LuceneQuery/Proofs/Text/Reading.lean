import LuceneQuery.Text.Blank

/-!
# Where a reader stops

A reader takes characters of one kind up to the first character of another
kind, or to the end.  If nothing in a part is of the other kind and what follows
starts with it, the reader takes exactly the part (`append_inj_of_stopsAt`).
-/

namespace LuceneQuery.Text

/-- Whether a text is empty or starts with a character at which a reader stops. -/
def StopsAt (stops : CodePoint → Bool) (s : Text) : Prop := ∀ c ∈ s.head?, stops c = true

section

variable {stops stops' : CodePoint → Bool} {c : CodePoint} {s s' r r' : Text}

@[simp] theorem stopsAt_nil : StopsAt stops [] := by
  intro c hc
  cases hc

@[simp] theorem stopsAt_cons : StopsAt stops (c :: s) ↔ stops c = true := by
  simp [StopsAt]

/-- What stops one reader stops one that is stopped by more. -/
theorem StopsAt.mono (h : StopsAt stops s) (himp : ∀ c, stops c = true → stops' c = true) :
    StopsAt stops' s :=
  fun c hc => himp c (h c hc)

theorem StopsAt.of_beq (h : StopsAt (· == c) s) (hc : stops c = true) : StopsAt stops s :=
  h.mono fun d hd => by rw [beq_iff_eq.1 hd]; exact hc

/-- Two texts that both stop a reader stop it in a row. -/
theorem StopsAt.append (hs : StopsAt stops s) (hr : StopsAt stops r) : StopsAt stops (s ++ r) := by
  cases s with
  | nil => exact hr
  | cons c s => exact stopsAt_cons.2 (stopsAt_cons.1 hs)

/-- Whether a text starts with a character of a kind. -/
def Starts (kind : CodePoint → Bool) (s : Text) : Prop := ∃ c ∈ s.head?, kind c = true

@[simp] theorem starts_cons : Starts stops (c :: s) ↔ stops c = true := by
  simp [Starts]

/-- A text that starts with some character still does with more behind it. -/
theorem Starts.append (h : Starts stops s) (r : Text) : Starts stops (s ++ r) := by
  cases s with
  | nil =>
    obtain ⟨c, hc, -⟩ := h
    cases hc
  | cons c s => exact starts_cons.2 (starts_cons.1 h)

theorem Starts.mono (h : Starts stops s) (himp : ∀ c, stops c = true → stops' c = true) :
    Starts stops' s := by
  obtain ⟨c, hc, hstops⟩ := h
  exact ⟨c, hc, himp c hstops⟩

/-- A text that starts with a stopping character stops a reader. -/
theorem Starts.stopsAt (h : Starts stops s) : StopsAt stops s := by
  obtain ⟨c, hc, hstops⟩ := h
  intro d hd
  rw [Option.mem_unique hd hc]
  exact hstops

theorem Starts.ne_nil (h : Starts stops s) : s ≠ [] := by
  rintro rfl
  obtain ⟨c, hc, -⟩ := h
  cases hc

/-- The first character of a text is of each kind that the text starts with. -/
theorem Starts.exists_both (h : Starts stops s) (h' : Starts stops' s) :
    ∃ c, stops c = true ∧ stops' c = true := by
  obtain ⟨c, hc, hstops⟩ := h
  obtain ⟨d, hd, hstops'⟩ := h'
  rw [Option.mem_unique hd hc] at hstops'
  exact ⟨c, hstops, hstops'⟩

/-- A reader takes all of a text that does not stop it, and no more. -/
theorem takeWhile_append_of_stopsAt (hs : ∀ c ∈ s, stops c = false) (hr : StopsAt stops r) :
    (s ++ r).takeWhile (!stops ·) = s := by
  rw [List.takeWhile_append_of_pos (fun c hc => by rw [hs c hc]; rfl)]
  cases r with
  | nil => rw [List.takeWhile_nil, List.append_nil]
  | cons c r => simp [stopsAt_cons.1 hr]

/-- Two texts are told from what follows them if they end at the first
character of a kind. -/
theorem append_inj_of_stopsAt (hs : ∀ c ∈ s, stops c = false) (hs' : ∀ c ∈ s', stops c = false)
    (hr : StopsAt stops r) (hr' : StopsAt stops r') (h : s ++ r = s' ++ r') : s = s' ∧ r = r' := by
  have hpart : s = s' := by
    rw [← takeWhile_append_of_stopsAt hs hr, h, takeWhile_append_of_stopsAt hs' hr']
  subst hpart
  exact ⟨rfl, List.append_cancel_left h⟩

end

/-- A space is a blank. -/
theorem ne_space_of_not_hasBlank {s : Text} (h : hasBlank s = false) :
    ∀ c ∈ s, c ≠ .char ' ' := by
  rintro c hc rfl
  have hblank : hasBlank s = true := List.any_eq_true.2 ⟨_, hc, by decide⟩
  rw [h] at hblank
  cases hblank

end LuceneQuery.Text
