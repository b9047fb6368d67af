import LuceneQuery.Proofs.Clause.Modifier
import LuceneQuery.Proofs.Clause.NormalForm
import Mathlib.Combinatorics.Enumerative.DyckWord

/-!
# Bare parentheses

A reader who looks for groups goes through the text of a query character by character.
A backslash takes the character behind it, and a quote that is not taken opens or closes a
phrase.  A parenthesis is *bare* if it is not taken and stands outside of phrases.

A text is *skipped* if the reader finds no bare parenthesis in it and stands behind it as
in front of it.  The reader skips what is escaped, in a token and in a phrase
(`skips_token`, `skips_phrase`), and all that slots write but for the field.  So it skips
a leaf that is escaped if it skips the label of its field (`Slots.skips_leafText`).
-/

namespace LuceneQuery

/-- Where a reader of a query stands. -/
structure Scanner where
  /-- Whether it stands in a phrase. -/
  quoted : Bool
  /-- Whether it stands behind a backslash that takes the next character. -/
  escaped : Bool
  deriving DecidableEq

/-- The step of a parenthesis: up for an opening one, down for a closing one. -/
def parenthesis? (c : CodePoint) : Option DyckStep :=
  if c = .char '(' then some .U else if c = .char ')' then some .D else none

namespace Scanner

/-- Outside of phrases. -/
def outside : Scanner := ⟨false, false⟩

/-- In a phrase. -/
def inside : Scanner := ⟨true, false⟩

/-- Where a reader stands behind a character. -/
def next (r : Scanner) (c : CodePoint) : Scanner :=
  if r.escaped then { r with escaped := false }
  else if c = .char '\\' then { r with escaped := true }
  else if c = .char '"' then { r with quoted := !r.quoted }
  else r

/-- The step of a character, if it is a bare parenthesis. -/
def bare? (r : Scanner) (c : CodePoint) : Option DyckStep :=
  if r.quoted || r.escaped then none else parenthesis? c

/-- Where a reader stands behind a text. -/
def run (r : Scanner) (t : Text) : Scanner := t.foldl next r

/-- The steps of a text, character by character. -/
def scan (r : Scanner) : Text → List (Option DyckStep)
  | [] => []
  | c :: t => r.bare? c :: (r.next c).scan t

/-- The steps of the bare parentheses of a text. -/
def bareParentheses (t : Text) : List DyckStep := (outside.scan t).filterMap id

theorem run_cons (r : Scanner) (c : CodePoint) (t : Text) :
    r.run (c :: t) = (r.next c).run t := rfl

/-- The state behind two texts in a row is that behind the second, from the state behind the
first. -/
theorem run_append (r : Scanner) (t u : Text) : r.run (t ++ u) = (r.run t).run u :=
  List.foldl_append

/-- What is seen in two texts in a row is what is seen in one and then in the other. -/
theorem scan_append (r : Scanner) (t u : Text) :
    r.scan (t ++ u) = r.scan t ++ (r.run t).scan u := by
  induction t generalizing r with
  | nil => rfl
  | cons c t ih => rw [List.cons_append, scan, scan, ih, run_cons, List.cons_append]

/-- Whether a reader finds no bare parenthesis in a text and stands behind it where it
stood in front of it. -/
def Skips (r : Scanner) (t : Text) : Prop := r.run t = r ∧ ∀ m ∈ r.scan t, m = none

instance (r : Scanner) (t : Text) : Decidable (r.Skips t) :=
  inferInstanceAs (Decidable (_ ∧ _))

section

variable {r : Scanner} {t u : Text}

theorem skips_nil (r : Scanner) : r.Skips [] := ⟨rfl, by simp [scan]⟩

/-- Two texts that are skipped are skipped in a row. -/
theorem Skips.append (ht : r.Skips t) (hu : r.Skips u) : r.Skips (t ++ u) := by
  refine ⟨by rw [run_append, ht.1, hu.1], ?_⟩
  rw [scan_append, ht.1, List.forall_mem_append]
  exact ⟨ht.2, hu.2⟩

/-- The characters that a reader looks at. -/
def watched : List CodePoint := ['\\', '"', '(', ')']

/-- A character that is not watched changes no state. -/
theorem next_of_not_watched {c : CodePoint} (hr : r.escaped = false) (hc : c ∉ watched) :
    r.next c = r := by
  simp only [watched, List.mem_cons, List.not_mem_nil, or_false, not_or] at hc
  simp [next, hr, hc]

theorem bare?_of_not_watched {c : CodePoint} (hc : c ∉ watched) : r.bare? c = none := by
  simp only [watched, List.mem_cons, List.not_mem_nil, or_false, not_or] at hc
  simp [bare?, parenthesis?, hc]

/-- A text without watched characters is skipped. -/
theorem skips_of_not_watched (hr : r.escaped = false) (h : ∀ c ∈ t, c ∉ watched) :
    r.Skips t := by
  induction t with
  | nil => exact skips_nil r
  | cons c t ih =>
    obtain ⟨hc, ht⟩ := List.forall_mem_cons.1 h
    obtain ⟨hrun, hscan⟩ := ih ht
    rw [Skips, run_cons, scan, next_of_not_watched hr hc, List.forall_mem_cons]
    exact ⟨hrun, bare?_of_not_watched hc, hscan⟩

theorem skips_ofChars (hr : r.escaped = false) {s : List Char}
    (hs : ∀ c ∈ s, isNumeral c = true) : r.Skips (Text.ofChars s) := by
  refine skips_of_not_watched hr fun c hc hwatched => ?_
  obtain ⟨d, hd, rfl⟩ := List.mem_map.1 hc
  simp only [watched, List.mem_cons, List.not_mem_nil, or_false, CodePoint.char.injEq]
    at hwatched
  have hnumeral := hs d hd
  rcases hwatched with rfl | rfl | rfl | rfl <;> exact absurd hnumeral (by decide)

/-! ## What is escaped -/

/-- A reader takes a character behind a backslash for nothing but itself. -/
theorem skips_escaped (hr : r.escaped = false) (c : CodePoint) : r.Skips [.char '\\', c] := by
  -- The reader goes to the state behind a backslash and from there back to where it was.
  have hbackslash : r.next (.char '\\') = { r with escaped := true } := by simp [next, hr]
  have hback : ({ r with escaped := true } : Scanner).next c = r := by
    simp only [next, if_true]
    rw [← hr]
  constructor
  · rw [run_cons, hbackslash, run_cons, hback]
    rfl
  · simp [scan, hbackslash, bare?, parenthesis?]

/-- A character behind a backslash is skipped, whatever it is. -/
theorem Skips.escaped_cons (hr : r.escaped = false) (c : CodePoint) (ht : r.Skips t) :
    r.Skips (.char '\\' :: c :: t) :=
  (skips_escaped hr c).append ht

theorem Skips.cons_of_not_watched {c : CodePoint} (hr : r.escaped = false) (hc : c ∉ watched)
    (ht : r.Skips t) : r.Skips (c :: t) :=
  (skips_of_not_watched hr (List.forall_mem_singleton.2 hc)).append ht

/-- A character that needs no escape is not watched. -/
theorem not_watched_of_not_special {c : CodePoint}
    (hc : ¬Escape.tokenSpecials.contains c = true) : c ∉ watched := by
  intro hwatched
  simp only [watched, List.mem_cons, List.not_mem_nil, or_false] at hwatched
  rcases hwatched with rfl | rfl | rfl | rfl <;> exact hc (by decide)

/-- A token is skipped, with quotes around it or without. -/
theorem skips_token (hr : r.escaped = false) (t : Text) : r.Skips (Escape.token t) := by
  fun_induction Escape.token t with
  | case1 => exact skips_nil r
  | case2 s ih => exact (ih.escaped_cons hr _).escaped_cons hr _
  | case3 s ih => exact (ih.escaped_cons hr _).escaped_cons hr _
  | case4 c s _ _ _ ih => exact ih.escaped_cons hr c
  | case5 c s _ _ hspecial ih =>
    exact ih.cons_of_not_watched hr (not_watched_of_not_special hspecial)

/-- In a phrase, where no parenthesis is bare, a reader looks at nothing but quotes and
backslashes. -/
theorem inside_skips_singleton {c : CodePoint} (hc : ¬Escape.phraseSpecials.contains c = true) :
    inside.Skips [c] := by
  have hne : c ≠ .char '"' ∧ c ≠ .char '\\' := by simpa [Escape.phraseSpecials] using hc
  simp [Skips, run, next, scan, bare?, inside, hne]

/-- The inside of a phrase is skipped. -/
theorem skips_phrase (t : Text) : inside.Skips (Escape.phrase t) := by
  fun_induction Escape.phrase t with
  | case1 => exact skips_nil inside
  | case2 c s _ ih => exact ih.escaped_cons rfl c
  | case3 c s hspecial ih => exact (inside_skips_singleton hspecial).append ih

theorem outside_next_quote : outside.next (.char '"') = inside := by decide

/-- A reader goes from quote to quote over what it skips in a phrase. -/
theorem Skips.quoted (h : inside.Skips t) : outside.Skips (.char '"' :: (t ++ [.char '"'])) := by
  have hquote : inside.run [.char '"'] = outside := by decide
  constructor
  · rw [run_cons, outside_next_quote, run_append, h.1, hquote]
  · rw [scan, outside_next_quote, scan_append, h.1, List.forall_mem_cons,
      List.forall_mem_append]
    exact ⟨by decide, h.2, by decide⟩

end

/-! ## Leaves -/

/-- A distance is skipped. -/
theorem skips_distanceSuffix (n : Int) : outside.Skips (distanceSuffix n) := by
  by_cases hn : n = 0
  · rw [hn, distanceSuffix_zero]
    exact skips_nil _
  · rw [distanceSuffix_of_ne_zero hn]
    exact (skips_ofChars rfl fun _ => Number.isNumeral_of_mem_intText).cons_of_not_watched rfl
      (by decide)

theorem skips_boostSuffix {n : Number} (hn : n.toDouble.isFinite = true) :
    outside.Skips (boostSuffix n) := by
  rcases boostSuffix_cases n with h | h
  · rw [h]
    exact skips_nil _
  · rw [h]
    exact (skips_ofChars rfl (isNumeral_of_mem_weightText hn)).cons_of_not_watched rfl (by decide)

theorem skips_sign (op : Operator) : outside.Skips op.sign := by
  cases op <;> decide

theorem skips_boundText (v : Value) : outside.Skips (Leaf.boundText true v) := by
  unfold Leaf.boundText
  split
  · decide
  · dsimp only
    split
    · decide
    · exact skips_token rfl _

/-- The body of a leaf with escapes is skipped, brackets of ranges included. -/
theorem skips_body {l : Leaf} (h : l.isEscaped = true) : outside.Skips l.body := by
  cases l with
  | term text escape fuzziness =>
    obtain rfl : escape = true := h
    exact skips_token rfl text
  | phrase text escape slop =>
    obtain rfl : escape = true := h
    exact (skips_phrase text).quoted
  | range lower upper escape kind =>
    obtain rfl : escape = true := h
    have hopening : outside.Skips kind.opening := by cases kind <;> decide
    have hclosing : outside.Skips kind.closing := by cases kind <;> decide
    have hto : outside.Skips " TO " := by decide
    exact (((hopening.append (skips_boundText lower)).append hto).append
      (skips_boundText upper)).append hclosing

theorem skips_distance (l : Leaf) : outside.Skips l.distance := by
  cases l with
  | term text escape fuzziness => exact skips_distanceSuffix fuzziness
  | phrase text escape slop => exact skips_distanceSuffix slop
  | range lower upper escape kind => exact skips_nil _

end Scanner

namespace Slots

open Scanner

variable {s : Slots}

/-- All that stands before a clause is skipped if its field is. -/
theorem skips_before (h : outside.Skips (fieldLabel s.field)) : outside.Skips s.before :=
  (skips_sign s.operator).append h

theorem skips_after (h : s.WellFormed) : outside.Skips s.after := skips_boostSuffix h

/-- A reader skips a leaf that is escaped and the label of whose field it skips. -/
theorem skips_leafText {l : Leaf} (hs : s.WellFormed) (hl : l.isEscaped = true)
    (hfield : outside.Skips (fieldLabel s.field)) : outside.Skips (s.leafText l) :=
  (((skips_before hfield).append (skips_body hl)).append (skips_distance l)).append
    (skips_after hs)

end Slots

end LuceneQuery
