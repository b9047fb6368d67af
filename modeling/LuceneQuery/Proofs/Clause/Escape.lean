import LuceneQuery.Clause.Text
import LuceneQuery.Proofs.Text.Reading

/-!
# Reading escaped text

A reader takes a backslash together with the character behind it and drops the
backslash.  It reads a token up to a space or a character with a meaning of its
own, and a phrase up to the closing quote.  Both readers undo escaping whatever
follows (`readToken_token`, `readPhrase_phrase`), so what is escaped can be told
from the text that it stands at the start of (`token_append_inj`,
`phrase_append_inj`).
-/

namespace LuceneQuery

namespace Escape

/-! ## Tokens -/

/-- Whether a code point ends a token: a space, or a character with a meaning
that is not the backslash. -/
def endsToken (c : CodePoint) : Bool :=
  c == .char ' ' || tokenSpecials.contains c && c != .char '\\'

/-- The token at the start of a text, without its backslashes, and the rest. -/
def readToken : Text → Text × Text
  | [] => ([], [])
  | '\\' :: c :: s => (c :: (readToken s).1, (readToken s).2)
  | c :: s => if endsToken c then ([], c :: s) else (c :: (readToken s).1, (readToken s).2)

/-- A backslash and what is behind it are read as one character of a token. -/
theorem readToken_backslash (c : CodePoint) (s : Text) :
    readToken (.char '\\' :: c :: s) = (c :: (readToken s).1, (readToken s).2) := by
  rw [readToken]

theorem readToken_cons_of_not {c : CodePoint} (hc : endsToken c = false)
    (hne : c ≠ .char '\\') (s : Text) :
    readToken (c :: s) = (c :: (readToken s).1, (readToken s).2) := by
  rw [readToken]
  · simp [hc]
  · intro d s' hd
    exact absurd hd hne

theorem readToken_of_stopsAt {s : Text} (h : Text.StopsAt endsToken s) : readToken s = ([], s) := by
  cases s with
  | nil => rfl
  | cons c s =>
    have hc : endsToken c = true := Text.stopsAt_cons.1 h
    rw [readToken]
    · simp [hc]
    · rintro d s' rfl -
      exact absurd hc (by decide)

/-- A character that is written without an escape neither ends a token nor escapes. -/
theorem endsToken_of_not_special {c : CodePoint} (hc : ¬ tokenSpecials.contains c = true)
    (hne : c ≠ .char ' ') : endsToken c = false ∧ c ≠ .char '\\' := by
  refine ⟨?_, ?_⟩
  · rw [Bool.not_eq_true] at hc
    rw [endsToken, hc, Bool.false_and, Bool.or_false]
    simpa using hne
  · rintro rfl
    exact hc (by decide)

/-- The reader gives a token back, whatever follows its end. -/
theorem readToken_token {t rest : Text} (ht : ∀ c ∈ t, c ≠ .char ' ')
    (hrest : Text.StopsAt endsToken rest) : readToken (token t ++ rest) = (t, rest) := by
  fun_induction token t with
  | case1 => exact readToken_of_stopsAt hrest
  | case2 s ih =>
    have hs := ih fun c hc => ht c (by simp [hc])
    simp only [List.cons_append, readToken_backslash, hs]
  | case3 s ih =>
    have hs := ih fun c hc => ht c (by simp [hc])
    simp only [List.cons_append, readToken_backslash, hs]
  | case4 c s _ _ _ ih =>
    have hs := ih fun d hd => ht d (List.mem_cons_of_mem c hd)
    simp only [List.cons_append, readToken_backslash, hs]
  | case5 c s _ _ hspecial ih =>
    have hs := ih fun d hd => ht d (List.mem_cons_of_mem c hd)
    obtain ⟨hend, hne⟩ := endsToken_of_not_special hspecial (ht c List.mem_cons_self)
    rw [List.cons_append, readToken_cons_of_not hend hne, hs]

/-- An escaped token and what follows it are told from the text that they make. -/
theorem token_append_inj {t t' rest rest' : Text} (ht : ∀ c ∈ t, c ≠ .char ' ')
    (ht' : ∀ c ∈ t', c ≠ .char ' ') (hrest : Text.StopsAt endsToken rest)
    (hrest' : Text.StopsAt endsToken rest')
    (h : token t ++ rest = token t' ++ rest') : t = t' ∧ rest = rest' := by
  have hread := congrArg readToken h
  rw [readToken_token ht hrest, readToken_token ht' hrest'] at hread
  exact Prod.mk.inj hread

/-- An escaped token starts with a character that does not end one. -/
theorem token_eq_cons {t : Text} (ht : t ≠ []) (hspace : ∀ c ∈ t, c ≠ .char ' ') :
    ∃ c s, token t = c :: s ∧ endsToken c = false := by
  fun_cases token t with
  | case1 => exact absurd rfl ht
  | case2 s => exact ⟨_, _, rfl, by decide⟩
  | case3 s => exact ⟨_, _, rfl, by decide⟩
  | case4 c s => exact ⟨_, _, rfl, by decide⟩
  | case5 c s _ _ hspecial =>
    exact ⟨_, _, rfl, (endsToken_of_not_special hspecial (hspace c List.mem_cons_self)).1⟩

/-! ## Phrases -/

/-- The phrase up to the closing quote, without its backslashes, and what stands
behind the quote. -/
def readPhrase : Text → Text × Text
  | [] => ([], [])
  | '\\' :: c :: s => (c :: (readPhrase s).1, (readPhrase s).2)
  | c :: s => if c = .char '"' then ([], s) else (c :: (readPhrase s).1, (readPhrase s).2)

theorem readPhrase_backslash (c : CodePoint) (s : Text) :
    readPhrase (.char '\\' :: c :: s) = (c :: (readPhrase s).1, (readPhrase s).2) := by
  rw [readPhrase]

theorem readPhrase_quote (s : Text) : readPhrase (.char '"' :: s) = ([], s) := by
  rw [readPhrase]
  · simp
  · intro d s' hd
    exact absurd hd (by decide)

theorem readPhrase_cons_of_not {c : CodePoint} (hc : ¬ phraseSpecials.contains c = true)
    (s : Text) : readPhrase (c :: s) = (c :: (readPhrase s).1, (readPhrase s).2) := by
  rw [readPhrase]
  · rw [if_neg]
    rintro rfl
    exact hc (by decide)
  · rintro d s' rfl
    exact absurd (by decide) hc

/-- The reader gives a phrase back, whatever follows its closing quote. -/
theorem readPhrase_phrase (t rest : Text) :
    readPhrase (phrase t ++ .char '"' :: rest) = (t, rest) := by
  induction t with
  | nil => exact readPhrase_quote rest
  | cons c s ih =>
    rw [phrase]
    by_cases hspecial : phraseSpecials.contains c = true
    · rw [if_pos hspecial]
      simp only [List.cons_append, readPhrase_backslash, ih]
    · rw [if_neg hspecial, List.cons_append, readPhrase_cons_of_not hspecial, ih]

/-- An escaped phrase and what follows its closing quote are told from the text
that they make. -/
theorem phrase_append_inj {t t' rest rest' : Text}
    (h : phrase t ++ .char '"' :: rest = phrase t' ++ .char '"' :: rest') :
    t = t' ∧ rest = rest' := by
  have hread := congrArg readPhrase h
  rw [readPhrase_phrase, readPhrase_phrase] at hread
  exact Prod.mk.inj hread

end Escape

end LuceneQuery
