import LuceneQuery.Proofs.Clause.Escape
import Mathlib.Algebra.Ring.Parity
import Mathlib.Data.List.DropRight

/-!
# What escaping does to a token

An escaped text is read from left to right by *letters*.  A backslash with the
character behind it is one letter, which is *escaped*, and every other character
is a *bare* letter of its own.  `unescape` keeps the characters of the letters.

Escaping puts a backslash in front of some characters of a token and does nothing
else.  They are the characters that have a meaning wherever they stand, and the
ampersands and bars with one exception.  A run of either is escaped two by two from
its start, so that the last one of an odd run stays bare, and no bare one meets
another of its kind (`token_escapes_exactly`).

The escaper sees what is left of the token and not what it has passed.  What it
needs to know of that is a parity: an ampersand or bar that comes next has an even
number of its like right before it (`Settled`).  Each step keeps this, and the
parity tells whether a run that ends here is odd (`endsOddRun_iff`).
-/

namespace LuceneQuery.Escape

/-! ## Letters -/

/-- A character of an escaped text with the backslash in front of it, if it has one. -/
structure Letter where
  /-- Whether a backslash stands in front of the character. -/
  escaped : Bool
  /-- The character. -/
  char : CodePoint

/-- The text of a letter. -/
def Letter.text (l : Letter) : Text := if l.escaped then ['\\', l.char] else [l.char]

/-- The letters of an escaped text.  A backslash with nothing behind it is bare. -/
def letters : Text → List Letter
  | [] => []
  | '\\' :: c :: s => ⟨true, c⟩ :: letters s
  | c :: s => ⟨false, c⟩ :: letters s

/-- An escaped text with each backslash taken for the character behind it. -/
def unescape (s : Text) : Text := (letters s).map Letter.char

/-- A backslash and what is behind it are one letter. -/
theorem letters_backslash (c : CodePoint) (s : Text) :
    letters (.char '\\' :: c :: s) = ⟨true, c⟩ :: letters s := by
  rw [letters]

theorem letters_cons_of_ne {c : CodePoint} (hc : c ≠ .char '\\') (s : Text) :
    letters (c :: s) = ⟨false, c⟩ :: letters s := by
  rw [letters]
  intro d s' hd
  exact absurd hd hc

theorem flatMap_text_letters (s : Text) : (letters s).flatMap Letter.text = s := by
  fun_induction letters s with
  | case1 => rfl
  | case2 c s ih => simp [Letter.text, ih]
  | case3 c s _ ih => simp [Letter.text, ih]

/-! ## Runs -/

/-- The characters of the syntax of queries that have a meaning in a token wherever
they stand. -/
def syntaxSpecials : Text := "+-!()\x7b\x7d[]^\"~*?:\\/"

/-- The characters that have a meaning in a token where two of them meet. -/
def doubledSpecials : List CodePoint := ['&', '|']

/-- Whether a text is a run of `n` characters `c` between two parts that do not
prolong it. -/
structure IsRun (t before : Text) (n : Nat) (c : CodePoint) (after : Text) : Prop where
  split : t = before ++ List.replicate n c ++ after
  starts : before.getLast? ≠ some c
  ends : after.head? ≠ some c

/-- Whether a run of odd length ends at a place of a text. -/
def EndsOddRun (t : Text) (i : Nat) : Prop :=
  ∃ before n c after, IsRun t before n c after ∧ Odd n ∧ before.length + n = i + 1

/-- Whether the character at a place of a token needs a backslash. -/
def NeedsEscape (t : Text) (i : Nat) : Prop :=
  ∃ c, t[i]? = some c ∧ (c ∈ syntaxSpecials ∨ c ∈ doubledSpecials ∧ ¬EndsOddRun t i)

/-- How many characters `c` a text ends with. -/
def trailing (c : CodePoint) (s : Text) : Nat := (s.rtakeWhile (· == c)).length

/-- One more of a character lengthens the run of it at the end, and any other ends the run. -/
theorem trailing_concat (c d : CodePoint) (s : Text) :
    trailing c (s ++ [d]) = if d = c then trailing c s + 1 else 0 := by
  unfold trailing
  rw [List.rtakeWhile_concat]
  by_cases hd : d = c
  · simp [hd]
  · simp [hd]

theorem trailing_eq_zero {c : CodePoint} {s : Text} (h : s.getLast? ≠ some c) :
    trailing c s = 0 := by
  induction s using List.reverseRecOn with
  | nil => rfl
  | append_singleton s d =>
    rw [List.getLast?_concat] at h
    rw [trailing_concat, if_neg fun hd => h (congrArg some hd)]

theorem trailing_append_replicate {c : CodePoint} {s : Text} (h : s.getLast? ≠ some c) (n : Nat) :
    trailing c (s ++ List.replicate n c) = n := by
  induction n with
  | zero => rw [List.replicate_zero, List.append_nil, trailing_eq_zero h]
  | succ n ih => rw [List.replicate_succ', ← List.append_assoc, trailing_concat, if_pos rfl, ih]

/-- A text is cut where the run at its end starts. -/
theorem exists_append_replicate_trailing (c : CodePoint) (s : Text) :
    ∃ before, s = before ++ List.replicate (trailing c s) c ∧ before.getLast? ≠ some c := by
  induction s using List.reverseRecOn with
  | nil => exact ⟨[], rfl, by simp⟩
  | append_singleton s d ih =>
    rw [trailing_concat]
    split
    · next hd =>
      obtain ⟨before, hs, hlast⟩ := ih
      refine ⟨before, ?_, hlast⟩
      rw [List.replicate_succ', ← List.append_assoc, ← hs, hd]
    · next hd =>
      refine ⟨s ++ [d], by simp, ?_⟩
      rw [List.getLast?_concat]
      exact fun heq => hd (Option.some.inj heq)

/-- The last of a run has the others before it. -/
theorem IsRun.split_last {t before after : Text} {n : Nat} {c : CodePoint}
    (h : IsRun t before (n + 1) c after) :
    t = before ++ List.replicate n c ++ c :: after := by
  rw [h.split, List.replicate_succ']
  simp

/-- The character behind a run is not the one that the run ends with. -/
theorem EndsOddRun.getElem?_succ_ne {t : Text} {i : Nat} (h : EndsOddRun t i) :
    t[i + 1]? ≠ t[i]? := by
  obtain ⟨before, n, c, after, hrun, ⟨m, rfl⟩, hlength⟩ := h
  have hi : i = (before ++ List.replicate (2 * m) c).length := by
    rw [List.length_append, List.length_replicate]
    omega
  have hends : after[0]? ≠ some c := List.head?_eq_getElem? ▸ hrun.ends
  rw [hrun.split_last, hi, List.getElem?_append_right (Nat.le_succ _),
    List.getElem?_append_right (Nat.le_refl _)]
  simpa using hends

/-- A run of odd length ends at a character if none of its like follows it and an
even number of them precedes it. -/
theorem endsOddRun_iff {before after : Text} {c : CodePoint} :
    EndsOddRun (before ++ c :: after) before.length ↔
      after.head? ≠ some c ∧ Even (trailing c before) := by
  constructor
  · rintro ⟨start, n, d, rest, hrun, ⟨m, rfl⟩, hlength⟩
    obtain ⟨hbefore, hcons⟩ := List.append_inj hrun.split_last (by simp; omega)
    obtain ⟨rfl, rfl⟩ := List.cons.inj hcons
    refine ⟨hrun.ends, ?_⟩
    rw [hbefore, trailing_append_replicate hrun.starts]
    exact even_two_mul m
  · rintro ⟨hends, heven⟩
    obtain ⟨start, hbefore, hstarts⟩ := exists_append_replicate_trailing c before
    refine ⟨start, trailing c before + 1, c, after, ⟨?_, hstarts, hends⟩, heven.add_one, ?_⟩
    · rw [List.replicate_succ', ← List.append_assoc, ← hbefore, List.append_assoc,
        List.singleton_append]
    · have hlength := congrArg List.length hbefore
      rw [List.length_append, List.length_replicate] at hlength
      omega

theorem tokenSpecials_eq : tokenSpecials = syntaxSpecials := rfl

/-- A character needs an escape by itself, or as one of a pair in a run. -/
theorem needsEscape_iff {before after : Text} {c : CodePoint} :
    NeedsEscape (before ++ c :: after) before.length ↔
      c ∈ tokenSpecials ∨
        c ∈ doubledSpecials ∧ ¬(after.head? ≠ some c ∧ Even (trailing c before)) := by
  simp [NeedsEscape, endsOddRun_iff, tokenSpecials_eq]

/-! ## Along a token -/

/-- Whether an ampersand or bar that comes next has an even number of its like
right before it. -/
def Settled (before after : Text) : Prop :=
  ∀ c ∈ doubledSpecials, after.head? = some c → Even (trailing c before)

/-- Whether the letters of a part of a token have their backslashes where the token
needs them. -/
def Fits (before after : Text) (ls : List Letter) : Prop :=
  ∀ i l, ls[i]? = some l →
    (l.escaped = true ↔ NeedsEscape (before ++ after) (before.length + i))

/-- Letters fit a text if the first is escaped exactly if it must be, and the rest fit. -/
theorem Fits.cons {before after : Text} {l : Letter} {ls : List Letter}
    (hl : l.escaped = true ↔ NeedsEscape (before ++ l.char :: after) before.length)
    (h : Fits (before ++ [l.char]) after ls) : Fits before (l.char :: after) (l :: ls) := by
  intro i m hm
  cases i with
  | zero =>
    cases hm
    exact hl
  | succ i =>
    have hi := h i m (by simpa using hm)
    rw [List.append_assoc, List.singleton_append, List.length_append, List.length_singleton,
      Nat.add_assoc, Nat.add_comm 1 i] at hi
    exact hi

theorem not_mem_tokenSpecials {c : CodePoint} (hc : c ∈ doubledSpecials) : c ∉ tokenSpecials := by
  simp only [doubledSpecials, List.mem_cons, List.not_mem_nil, or_false] at hc
  rcases hc with rfl | rfl <;> decide

theorem ne_backslash {c : CodePoint} (hc : c ∉ tokenSpecials) : c ≠ .char '\\' := by
  rintro rfl
  exact hc (by decide)

/-- A pair of ampersands or bars needs two backslashes. -/
theorem Fits.pair {before after : Text} {c : CodePoint} {ls : List Letter}
    (hc : c ∈ doubledSpecials) (hsettled : Settled before (c :: c :: after))
    (h : Fits (before ++ [c, c]) after ls) :
    Fits before (c :: c :: after) (⟨true, c⟩ :: ⟨true, c⟩ :: ls) := by
  have heven : Even (trailing c before) := hsettled c hc rfl
  refine .cons (l := ⟨true, c⟩) (iff_of_true rfl ?_)
    (.cons (l := ⟨true, c⟩) (iff_of_true rfl ?_) ?_)
  · exact needsEscape_iff.2 (.inr ⟨hc, fun hodd => hodd.1 rfl⟩)
  · refine needsEscape_iff.2 (.inr ⟨hc, fun hodd => ?_⟩)
    have hodd := hodd.2
    rw [trailing_concat, if_pos rfl, Nat.even_add_one] at hodd
    exact hodd heven
  · simpa using h

/-- Behind a pair the count of a run starts anew. -/
theorem Settled.pair {before after : Text} {c : CodePoint}
    (hsettled : Settled before (c :: c :: after)) : Settled (before ++ [c, c]) after := by
  intro d hd hhead
  have happend : before ++ [c, c] = before ++ [c] ++ [c] := by simp
  rw [happend, trailing_concat, trailing_concat]
  by_cases hcd : c = d
  · subst hcd
    have heven : Even (trailing c before) := hsettled c hd rfl
    simpa [Nat.even_add_one] using heven
  · simp [hcd]

/-- Behind a character that is not the same as the next one nothing is pending. -/
theorem settled_concat {before after : Text} {c : CodePoint}
    (h : c ∈ doubledSpecials → after.head? ≠ some c) : Settled (before ++ [c]) after := by
  intro d hd hhead
  rw [trailing_concat, if_neg]
  · exact Even.zero
  · rintro rfl
    exact h hd hhead

/-- A token that starts with no pair does not go on with the ampersand or bar that
it starts with. -/
theorem head?_ne_of_not_pair {c : CodePoint} {s : Text}
    (hand : ∀ s', c = .char '&' → s = .char '&' :: s' → False)
    (hbar : ∀ s', c = .char '|' → s = .char '|' :: s' → False) (hc : c ∈ doubledSpecials) :
    s.head? ≠ some c := by
  intro hhead
  obtain ⟨s', rfl⟩ := List.head?_eq_some_iff.1 hhead
  simp only [doubledSpecials, List.mem_cons, List.not_mem_nil, or_false] at hc
  rcases hc with rfl | rfl
  · exact hand s' rfl rfl
  · exact hbar s' rfl rfl

/-- The letters of an escaped token have their backslashes where the token needs
them. -/
theorem fits_token {before t : Text} (h : Settled before t) :
    Fits before t (letters (token t)) := by
  fun_induction token t generalizing before with
  | case1 =>
    intro i l hl
    cases hl
  | case2 s ih =>
    simp only [letters_backslash]
    exact .pair (by decide) h (ih h.pair)
  | case3 s ih =>
    simp only [letters_backslash]
    exact .pair (by decide) h (ih h.pair)
  | case4 c s _ _ hspecial ih =>
    have hc : c ∈ tokenSpecials := by simpa using hspecial
    rw [letters_backslash]
    refine .cons (l := ⟨true, c⟩) (iff_of_true rfl (needsEscape_iff.2 (.inl hc))) (ih ?_)
    exact settled_concat fun hdoubled => absurd hc (not_mem_tokenSpecials hdoubled)
  | case5 c s hand hbar hspecial ih =>
    have hc : c ∉ tokenSpecials := by simpa using hspecial
    have hnext : c ∈ doubledSpecials → s.head? ≠ some c := head?_ne_of_not_pair hand hbar
    have hbare : ¬NeedsEscape (before ++ c :: s) before.length := by
      rw [needsEscape_iff]
      rintro (hmem | ⟨hdoubled, hnot⟩)
      · exact hc hmem
      · exact hnot ⟨hnext hdoubled, h c hdoubled rfl⟩
    rw [letters_cons_of_ne (ne_backslash hc)]
    refine .cons (l := ⟨false, c⟩) (iff_of_false Bool.false_ne_true hbare) (ih ?_)
    exact settled_concat hnext

/-- The text of a token is found again without its escapes. -/
theorem unescape_token (t : Text) : unescape (token t) = t := by
  unfold unescape
  fun_induction token t with
  | case1 => rfl
  | case2 s ih => simp [letters_backslash, ih]
  | case3 s ih => simp [letters_backslash, ih]
  | case4 c s _ _ _ ih => simp [letters_backslash, ih]
  | case5 c s _ _ hspecial ih =>
    have hc : c ∉ tokenSpecials := by simpa using hspecial
    rw [letters_cons_of_ne (ne_backslash hc), List.map_cons, ih]

/-- The letters of a token are the characters of its text, one for one. -/
theorem getElem?_of_letters_token {t : Text} {i : Nat} {l : Letter}
    (hl : (letters (token t))[i]? = some l) : t[i]? = some l.char := by
  have hchars := congrArg (·[i]?) (unescape_token t)
  simpa [unescape, hl] using hchars.symm

/-- The letters of an escaped token are its characters in their order, with a
backslash in front of exactly those that need one.  So no bare letter has a meaning
of its own, no bare ampersand meets another one and no bare bar does, and no other
token is escaped to the same text. -/
theorem token_escapes_exactly (t : Text) :
    unescape (token t) = t ∧ (letters (token t)).flatMap Letter.text = token t ∧
      (∀ i l, (letters (token t))[i]? = some l → (l.escaped = true ↔ NeedsEscape t i)) ∧
      (∀ l ∈ letters (token t), l.char ∈ syntaxSpecials → l.escaped = true) ∧
      (∀ c ∈ doubledSpecials, ∀ i, ¬((letters (token t))[i]? = some ⟨false, c⟩ ∧
        (letters (token t))[i + 1]? = some ⟨false, c⟩)) ∧
      ∀ u, token u = token t → u = t := by
  have hfits : ∀ i l, (letters (token t))[i]? = some l → (l.escaped = true ↔ NeedsEscape t i) := by
    have hsettled : Settled [] t := fun _ _ _ => Even.zero
    simpa [Fits] using fits_token hsettled
  refine ⟨unescape_token t, flatMap_text_letters _, hfits, ?_, ?_, ?_⟩
  · intro l hl hspecial
    obtain ⟨i, hi⟩ := List.getElem?_of_mem hl
    exact (hfits i l hi).2 ⟨l.char, getElem?_of_letters_token hi, .inl hspecial⟩
  · rintro c hc i ⟨hi, hnext⟩
    have hbare : ¬NeedsEscape t i := fun hneeds => Bool.false_ne_true ((hfits i _ hi).2 hneeds)
    have hrun : EndsOddRun t i := by
      by_contra hrun
      exact hbare ⟨c, getElem?_of_letters_token hi, .inr ⟨hc, hrun⟩⟩
    exact hrun.getElem?_succ_ne
      ((getElem?_of_letters_token hnext).trans (getElem?_of_letters_token hi).symm)
  · intro u hu
    rw [← unescape_token u, hu, unescape_token]

end LuceneQuery.Escape
