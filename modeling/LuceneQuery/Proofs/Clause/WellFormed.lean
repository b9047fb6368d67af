import LuceneQuery.Clause.Text

/-!
# Well-formed leaves and slots

What a constructor or a modifier lets through has a certain shape: the text of a
term is a token, the bounds of a range can be written and hold no blank between
their ends, and a weight is a finite number.

`Clause.Every` says that all slots and all leaves of a clause have a property,
down to any depth.
-/

namespace LuceneQuery

theorem exists_of_bind_eq_ok {ε α β : Type} {x : Except ε α} {f : α → Except ε β} {b : β}
    (h : x >>= f = .ok b) : ∃ a, x = .ok a ∧ f a = .ok b := by
  cases x with
  | error e => cases h
  | ok a => exact ⟨a, rfl, h⟩

/-! ## Tokens and bounds -/

/-- A token is a text without the blanks at its ends.  It is not empty and holds
no blank. -/
theorem exists_of_tokenOf_eq_ok {place token : Text} {v : Value}
    (h : tokenOf place v = .ok token) :
    ∃ s, v = .str s ∧ token = Text.trim s ∧ token ≠ [] ∧ Text.hasBlank token = false := by
  unfold tokenOf at h
  split at h
  · next s =>
    dsimp only at h
    split at h
    · cases h
    · next hne =>
      split at h
      · cases h
      · next hblank =>
        cases h
        exact ⟨s, rfl, rfl, hne, Bool.eq_false_iff.2 hblank⟩
  · obtain ⟨word, -, hfault⟩ := exists_of_bind_eq_ok h
    cases hfault

/-- A value with a word can be written, and the word is its text. -/
theorem of_wordOf_eq_ok {v : Value} {word : Text} (h : wordOf v = .ok word) :
    v.isWritable = true ∧ word = v.text := by
  unfold wordOf at h
  split at h
  · next hwritable =>
    cases h
    exact ⟨hwritable, rfl⟩
  · cases h

/-- Whether a value can be a bound. -/
structure Value.IsBound (v : Value) : Prop where
  isWritable : v.isWritable = true
  hasBlank : Text.hasBlank (Text.trim v.text) = false

theorem isBound_of_boundOf_eq_ok {v b : Value} (h : boundOf v = .ok b) : b.IsBound := by
  unfold boundOf at h
  split at h
  · cases h
    exact ⟨rfl, by decide⟩
  · obtain ⟨word, hword, hrest⟩ := exists_of_bind_eq_ok h
    obtain ⟨hwritable, rfl⟩ := of_wordOf_eq_ok hword
    split at hrest
    · next hempty =>
      cases hrest
      exact ⟨hwritable, by rw [hempty]; rfl⟩
    · obtain ⟨token, htoken, hb⟩ := exists_of_bind_eq_ok hrest
      obtain ⟨s, hs, rfl, -, hblank⟩ := exists_of_tokenOf_eq_ok htoken
      cases hb
      cases hs
      exact ⟨hwritable, hblank⟩

/-! ## Leaves and slots -/

/-- Whether the texts of a leaf have the shape that the constructors check. -/
def Leaf.WellFormed : Leaf → Prop
  | .term text _ _ => text ≠ [] ∧ Text.hasBlank text = false
  | .phrase .. => True
  | .range lower upper _ _ => lower.IsBound ∧ upper.IsBound

/-- Whether the weight is one that a modifier lets through. -/
def Slots.WellFormed (s : Slots) : Prop := s.weight.toDouble.isFinite = true

/-! ## Clauses -/

/-- Whether all slots and all leaves in a clause have their property. -/
inductive Clause.Every (p : Slots → Prop) (q : Leaf → Prop) : Clause → Prop where
  | leaf {s : Slots} {l : Leaf} (hs : p s) (hl : q l) : Every p q (.leaf s l)
  | query {s : Slots} {cs : List Clause} (hs : p s) (hcs : ∀ c ∈ cs, Every p q c) :
      Every p q (.query s cs)

/-- What holds of all slots and leaves of a clause can be weakened. -/
theorem Clause.Every.mono {p p' : Slots → Prop} {q q' : Leaf → Prop} {c : Clause}
    (h : c.Every p q) (hp : ∀ s, p s → p' s) (hq : ∀ l, q l → q' l) : c.Every p' q' := by
  induction h with
  | leaf hs hl => exact .leaf (hp _ hs) (hq _ hl)
  | query hs _ ih => exact .query (hp _ hs) ih

theorem Clause.Every.and {p p' : Slots → Prop} {q q' : Leaf → Prop} {c : Clause}
    (h : c.Every p q) (h' : c.Every p' q') :
    c.Every (fun s => p s ∧ p' s) (fun l => q l ∧ q' l) := by
  induction h with
  | leaf hs hl =>
    cases h' with
    | leaf hs' hl' => exact .leaf ⟨hs, hs'⟩ ⟨hl, hl'⟩
  | query hs _ ih =>
    cases h' with
    | query hs' hcs' => exact .query ⟨hs, hs'⟩ fun c hc => ih c hc (hcs' c hc)

end LuceneQuery
