import LuceneQuery.Clause.Text
import LuceneQuery.Proofs.Clause.Unescape

/-!
# Where a phrase ends

A reader that has passed the opening quote of a phrase goes on to the first quote that
no backslash takes.  In the text of a phrase that is escaped each quote and each
backslash is an escaped letter, and no other letter is escaped (`letters_phrase`).  So
the reader takes backslashes for what they are, even those at the end of the phrase, and
stops at the closing quote whatever stands behind it.
-/

namespace LuceneQuery.Escape

/-- The text up to the first quote that no backslash takes, and the text behind this
quote. -/
def upToQuote : Text → Option (Text × Text)
  | [] => none
  | '\\' :: c :: s => (upToQuote s).map fun (before, after) => ('\\' :: c :: before, after)
  | c :: s =>
    if c = .char '"' then some ([], s)
    else (upToQuote s).map fun (before, after) => (c :: before, after)

/-- A character behind a backslash does not end a quoted text. -/
theorem upToQuote_backslash (c : CodePoint) (s : Text) :
    upToQuote (.char '\\' :: c :: s) =
      (upToQuote s).map fun (before, after) => (.char '\\' :: c :: before, after) := by
  rw [upToQuote]

theorem upToQuote_quote (s : Text) : upToQuote (.char '"' :: s) = some ([], s) := by
  rw [upToQuote]
  · exact if_pos rfl
  · rintro d s' hd
    cases hd

theorem upToQuote_cons_of_ne {c : CodePoint} (hquote : c ≠ .char '"')
    (hbackslash : c ≠ .char '\\') (s : Text) :
    upToQuote (c :: s) = (upToQuote s).map fun (before, after) => (c :: before, after) := by
  rw [upToQuote]
  · exact if_neg hquote
  · rintro d s' hd
    exact absurd hd hbackslash

/-- Whether a reader goes past a letter inside a phrase. -/
def Letter.IsInside (l : Letter) : Prop := l.escaped = true ∨ l.char ∉ phraseSpecials

/-- A reader takes all letters inside a phrase up to the first quote behind them. -/
theorem upToQuote_append {r : Text} (h : ∀ l ∈ letters r, l.IsInside) (s : Text) :
    upToQuote (r ++ .char '"' :: s) = some (r, s) := by
  fun_induction letters r with
  | case1 => exact upToQuote_quote s
  | case2 c r ih =>
    have hrest := ih fun l hl => h l (List.mem_cons_of_mem _ hl)
    simp only [List.cons_append, upToQuote_backslash, hrest, Option.map_some]
  | case3 c r _ ih =>
    have hrest := ih fun l hl => h l (List.mem_cons_of_mem _ hl)
    have hc : c ∉ phraseSpecials := 
      (h ⟨false, c⟩ List.mem_cons_self).resolve_left Bool.false_ne_true
    have hquote : c ≠ .char '"' := fun hc' => hc (hc' ▸ by decide)
    have hbackslash : c ≠ .char '\\' := fun hc' => hc (hc' ▸ by decide)
    rw [List.cons_append, upToQuote_cons_of_ne hquote hbackslash, hrest, Option.map_some]

/-- A character of a phrase as a letter of the escaped phrase. -/
def phraseLetter (c : CodePoint) : Letter := ⟨phraseSpecials.contains c, c⟩

theorem isInside_phraseLetter (c : CodePoint) : (phraseLetter c).IsInside := by
  by_cases hc : c ∈ phraseSpecials
  · exact .inl (by simpa [phraseLetter] using hc)
  · exact .inr hc

/-- The letters of an escaped phrase are its characters, with backslashes in front of
the quotes and the backslashes. -/
theorem letters_phrase (t : Text) : letters (phrase t) = t.map phraseLetter := by
  induction t with
  | nil => rfl
  | cons c t ih =>
    rw [phrase, List.map_cons, phraseLetter]
    split
    · next hspecial => rw [letters_backslash, ih, hspecial]
    · next hspecial =>
      have hbackslash : c ≠ .char '\\' := fun hc => hspecial (hc ▸ by decide)
      rw [letters_cons_of_ne hbackslash, ih, Bool.eq_false_iff.2 hspecial]

/-- The text of a phrase is found again without its escapes. -/
theorem unescape_phrase (t : Text) : unescape (phrase t) = t := by
  rw [unescape, letters_phrase, List.map_map]
  exact List.map_id t

/-- Behind the opening quote of an escaped phrase, whatever its text is and whatever text
follows it, a reader takes exactly what stands in front of the closing quote, which is the
phrase when the backslashes are taken away, and leaves exactly what follows. -/
theorem phrase_ends_at_closing_quote (t s : Text) (slop : Int) :
    ∃ opened inside, (Leaf.phrase t true slop).body ++ s = .char '"' :: opened ∧
      upToQuote opened = some (inside, s) ∧
      (Leaf.phrase t true slop).body = .char '"' :: (inside ++ [.char '"']) ∧
      unescape inside = t := by
  have hbody : (Leaf.phrase t true slop).body = .char '"' :: (phrase t ++ [.char '"']) := rfl
  have hinside : ∀ l ∈ letters (phrase t), l.IsInside := by
    rw [letters_phrase]
    exact List.forall_mem_map.2 fun c _ => isInside_phraseLetter c
  refine ⟨phrase t ++ .char '"' :: s, phrase t, ?_, upToQuote_append hinside s, hbody,
    unescape_phrase t⟩
  rw [hbody, List.cons_append, List.append_assoc, List.singleton_append]

example :
    upToQuote (phrase "a\\\"\\" ++ "\" b\"" : Text) =
      some (("a\\\\\\\"\\\\" : Text), (" b\"" : Text)) := by
  decide

end LuceneQuery.Escape
