import LuceneQuery.Proofs.Clause.Escape
import LuceneQuery.Proofs.Clause.WellFormed
import LuceneQuery.Proofs.Number.Numeral
import LuceneQuery.Proofs.Text.Words

/-!
# What the checks establish

The constructors and the modifiers check what they are given, and this is what
a clause that passes them looks like: a term is a trimmed token, a bound is open
or becomes a token when it is trimmed, distances lie in their ranges, and a
weight is a finite number not below zero.

Two facts about texts follow.  The body of a range is three words, whatever is
escaped (`Leaf.words_body_range`), and a term brings no blank into its text
(`Slots.hasBlank_leafText_term`).
-/

namespace LuceneQuery

/-! ## Weights and distances -/

/-- Whether a number is finite and not below zero. -/
def Number.IsMagnitude (n : Number) : Prop :=
  ∃ negative coefficient exponent, n.exact = .finite negative coefficient exponent ∧
    (negative = true → coefficient = 0)

/-- A number that is finite as a double and not below zero has a magnitude for its value. -/
theorem Number.isMagnitude_of_isFinite {n : Number} (hfinite : n.toDouble.isFinite = true)
    (hnegative : n.isNegative = false) : n.IsMagnitude := by
  cases n with
  | int n =>
    refine ⟨_, _, _, rfl, fun h => ?_⟩
    exact absurd (h.symm.trans hnegative) (by decide)
  | double x =>
    cases x with
    | finite negative mantissa exponent canonical =>
      refine ⟨_, _, _, rfl, ?_⟩
      rintro rfl
      have hzero : mantissa = 0 := by simpa [isNegative, Double.isNegative] using hnegative
      rw [hzero, Nat.zero_mul, Nat.zero_mul]
    | infinite negative => cases hfinite
    | nan payload => cases hfinite
  | decimal d =>
    cases d with
    | finite negative coefficient exponent =>
      refine ⟨_, _, _, rfl, ?_⟩
      rintro rfl
      simpa [isNegative] using hnegative
    | infinite negative => cases hfinite
    | nan negative signaling payload => cases hfinite

/-- A weight that is let through is the number that was given. -/
theorem of_weightOf_eq_ok {v : Value} {n : Number} (h : weightOf v = .ok n) :
    v = .number n ∧ n.toDouble.isFinite = true ∧ n.IsMagnitude := by
  unfold weightOf at h
  split at h
  · next m =>
    unfold weightOfNumber at h
    split at h
    · cases h
    · split at h
      · cases h
      · next hfinite =>
        split at h
        · cases h
        · next hnegative =>
          cases h
          have hfinite : n.toDouble.isFinite = true := by simpa using hfinite
          exact ⟨rfl, hfinite, Number.isMagnitude_of_isFinite hfinite (by simpa using hnegative)⟩
  · cases h

theorem eq_int_of_integerArgument {argument : Argument} {v : Value} {n : Int}
    (h : integerArgument argument v = .ok n) : v = .int n := by
  unfold integerArgument at h
  split at h
  · cases h
    rfl
  · cases h

/-- The distance of a term that is taken is an integer up to the greatest one. -/
theorem of_fuzzinessOf_eq_ok {v : Value} {n : Int} (h : fuzzinessOf v = .ok n) :
    v = .int n ∧ 0 ≤ n ∧ n ≤ maxFuzziness := by
  obtain ⟨m, hm, h⟩ := exists_of_bind_eq_ok h
  split at h
  · next hrange =>
    cases h
    exact ⟨eq_int_of_integerArgument hm, hrange⟩
  · cases h

/-- The distance of a phrase that is taken is an integer that is not below zero. -/
theorem of_slopOf_eq_ok {v : Value} {n : Int} (h : slopOf v = .ok n) : v = .int n ∧ 0 ≤ n := by
  obtain ⟨m, hm, h⟩ := exists_of_bind_eq_ok h
  split at h
  · cases h
  · next hrange =>
    cases h
    exact ⟨eq_int_of_integerArgument hm, Int.not_lt.1 hrange⟩

/-! ## Leaves and slots -/

/-- Whether a bound is open or can be written and becomes a token when it is
trimmed. -/
def Value.IsOpenOrToken (v : Value) : Prop :=
  v = .null ∨ v.isWritable = true ∧
    (Text.trim v.text = [] ∨ Text.trim v.text ≠ [] ∧ Text.hasBlank (Text.trim v.text) = false)

/-- What the grammar has for a bound is written as an asterisk or as one word. -/
theorem Value.IsBound.isOpenOrToken {v : Value} (h : v.IsBound) : v.IsOpenOrToken := by
  by_cases hempty : Text.trim v.text = []
  · exact .inr ⟨h.isWritable, .inl hempty⟩
  · exact .inr ⟨h.isWritable, .inr ⟨hempty, h.hasBlank⟩⟩

theorem Value.IsOpenOrToken.isBound {v : Value} (h : v.IsOpenOrToken) : v.IsBound := by
  rcases h with rfl | ⟨hwritable, hempty | ⟨-, hblank⟩⟩
  · exact ⟨rfl, by decide⟩
  · exact ⟨hwritable, by rw [hempty]; rfl⟩
  · exact ⟨hwritable, hblank⟩

/-- Whether a leaf is one that the constructors and the modifiers let through. -/
def Leaf.Checked : Leaf → Prop
  | .term text _ fuzziness =>
    text ≠ [] ∧ Text.trim text = text ∧ Text.hasBlank text = false ∧ 0 ≤ fuzziness ∧ fuzziness ≤ 2
  | .phrase _ _ slop => 0 ≤ slop
  | .range lower upper _ kind =>
    lower.IsOpenOrToken ∧ upper.IsOpenOrToken ∧ (kind = .inclusive ∨ kind = .exclusive)

/-- Whether the weight is one that the modifier lets through. -/
def Slots.Checked (s : Slots) : Prop := s.weight.toDouble.isFinite = true ∧ s.weight.IsMagnitude

/-- A checked leaf is well-formed. -/
theorem Leaf.Checked.wellFormed : ∀ {l : Leaf}, l.Checked → l.WellFormed
  | .term .., h => ⟨h.1, h.2.2.1⟩
  | .phrase .., _ => trivial
  | .range .., h => ⟨h.1.isBound, h.2.1.isBound⟩

theorem Slots.Checked.wellFormed {s : Slots} (h : s.Checked) : s.WellFormed := h.1

/-- Slots with nothing but a field are checked, as a field is never refused. -/
theorem Slots.checked_of_field (field : Text) : Slots.Checked { field } :=
  ⟨rfl, Number.isMagnitude_of_isFinite rfl rfl⟩

/-- A term that is taken is checked. -/
theorem Leaf.checked_of_ofTerm {v : Value} {escape : Bool} {l : Leaf}
    (h : Leaf.ofTerm v escape = .ok l) : l.Checked := by
  obtain ⟨token, htoken, hl⟩ := exists_of_bind_eq_ok h
  obtain ⟨s, -, -, hne, hblank⟩ := exists_of_tokenOf_eq_ok htoken
  cases hl
  exact ⟨hne, Text.trim_of_not_hasBlank hblank, hblank, Int.le_refl 0, by decide⟩

/-- A phrase is always taken, and is checked. -/
theorem Leaf.checked_ofPhrase (text : Text) (escape : Bool) : (Leaf.ofPhrase text escape).Checked :=
  Int.le_refl 0

theorem RangeKind.eq_inclusive_or_exclusive : ∀ kind : RangeKind,
    kind = .inclusive ∨ kind = .exclusive
  | .inclusive => .inl rfl
  | .exclusive => .inr rfl

/-- A range that is taken is checked. -/
theorem Leaf.checked_of_ofRange {lower upper kind : Value} {escape : Bool} {l : Leaf}
    (h : Leaf.ofRange lower upper kind escape = .ok l) : l.Checked := by
  obtain ⟨low, hlow, h⟩ := exists_of_bind_eq_ok h
  obtain ⟨high, hhigh, h⟩ := exists_of_bind_eq_ok h
  obtain ⟨k, -, hl⟩ := exists_of_bind_eq_ok h
  cases hl
  exact ⟨(isBound_of_boundOf_eq_ok hlow).isOpenOrToken,
    (isBound_of_boundOf_eq_ok hhigh).isOpenOrToken, k.eq_inclusive_or_exclusive⟩

/-! ## Texts without blanks -/

/-- No character of a number is a blank. -/
theorem not_isBlank_of_isNumeral {c : Char} (h : isNumeral c = true) :
    Text.isBlank (.char c) = false := by
  unfold isNumeral at h
  rcases Bool.or_eq_true_iff.1 h with h | h
  · rcases Bool.or_eq_true_iff.1 h with h | h
    · obtain ⟨hlow, hhigh⟩ := Char.isDigit_iff_toNat.1 h
      have hzero : '0'.toNat = 48 := rfl
      have hnine : '9'.toNat = 57 := rfl
      simp only [Text.isBlank, CodePoint.number, Text.blankRanges, Text.inRanges]
      rw [if_neg (by omega), if_neg (by omega), if_pos (by omega), decide_eq_false (by omega)]
    · rw [beq_iff_eq.1 h]
      decide
  · rw [beq_iff_eq.1 h]
    decide

theorem not_hasBlank_ofChars {s : List Char} (hs : ∀ c ∈ s, isNumeral c = true) :
    Text.hasBlank (Text.ofChars s) = false := by
  rw [Text.hasBlank_eq_false_iff]
  intro c hc
  obtain ⟨d, hd, rfl⟩ := List.mem_map.1 hc
  exact not_isBlank_of_isNumeral (hs d hd)

/-- There is no blank in a distance. -/
theorem not_hasBlank_distanceSuffix (n : Int) : Text.hasBlank (distanceSuffix n) = false := by
  unfold distanceSuffix
  split
  · rfl
  · rw [Text.hasBlank_append, not_hasBlank_ofChars fun _ => Number.isNumeral_of_mem_intText]
    decide

theorem not_hasBlank_boostSuffix {n : Number} (hn : n.toDouble.isFinite = true) :
    Text.hasBlank (boostSuffix n) = false := by
  unfold boostSuffix
  split
  · rfl
  · rw [Text.hasBlank_append, not_hasBlank_ofChars (isNumeral_of_mem_weightText hn)]
    decide

theorem not_hasBlank_sign (op : Operator) : Text.hasBlank op.sign = false := by
  cases op <;> decide

/-- A field brings no blank but those in its name. -/
theorem hasBlank_fieldLabel (name : Text) :
    Text.hasBlank (fieldLabel name) = Text.hasBlank name := by
  cases name with
  | nil => rfl
  | cons c s =>
    have hcolon : Text.hasBlank (Text.ofString ":") = false := by decide
    rw [fieldLabel, if_neg (by simp), Text.hasBlank_append, hcolon, Bool.or_false]

/-- Escapes bring no blanks and take none away. -/
theorem Escape.hasBlank_token (t : Text) : Text.hasBlank (token t) = Text.hasBlank t := by
  have hbackslash : Text.isBlank (.char '\\') = false := by decide
  fun_induction token t with
  | case1 => rfl
  | case2 s ih => simp [hbackslash, ih]
  | case3 s ih => simp [hbackslash, ih]
  | case4 c s _ _ _ ih => simp [hbackslash, ih]
  | case5 c s _ _ _ ih => simp [ih]

theorem Escape.token_ne_nil {t : Text} (ht : t ≠ []) : token t ≠ [] := by
  fun_cases token t with
  | case1 => exact absurd rfl ht
  | case2 => exact List.cons_ne_nil _ _
  | case3 => exact List.cons_ne_nil _ _
  | case4 => exact List.cons_ne_nil _ _
  | case5 => exact List.cons_ne_nil _ _

namespace Leaf

/-- A bound always has a text. -/
theorem boundText_ne_nil (escape : Bool) (v : Value) : boundText escape v ≠ [] := by
  unfold boundText
  split
  · decide
  · dsimp only
    split
    · decide
    · next hopen =>
      have htoken : Text.trim v.text ≠ [] := fun hnil => hopen (.inl hnil)
      split
      · exact Escape.token_ne_nil htoken
      · exact htoken

theorem not_hasBlank_boundText (escape : Bool) {v : Value} (hv : v.IsOpenOrToken) :
    Text.hasBlank (boundText escape v) = false := by
  unfold boundText
  split
  · decide
  · dsimp only
    split
    · decide
    · split
      · rw [Escape.hasBlank_token]
        exact hv.isBound.hasBlank
      · exact hv.isBound.hasBlank

/-- The body of a range is three words: a bracket with the lower bound, `TO`, and
the upper bound with the bracket that matches. -/
theorem words_body_range {lower upper : Value} (hlower : lower.IsOpenOrToken)
    (hupper : upper.IsOpenOrToken) (escape : Bool) (kind : RangeKind) :
    Text.words (Leaf.range lower upper escape kind).body =
      [kind.opening ++ boundText escape lower, "TO", boundText escape upper ++ kind.closing] := by
  have hopening : Text.hasBlank kind.opening = false := by cases kind <;> decide
  have hclosing : Text.hasBlank kind.closing = false := by cases kind <;> decide
  have hspace : Text.isBlank (.char ' ') = true := by decide
  have hbody : (Leaf.range lower upper escape kind).body =
      (kind.opening ++ boundText escape lower) ++ .char ' ' ::
        (Text.ofString "TO" ++ .char ' ' :: (boundText escape upper ++ kind.closing)) := by
    have hto : Text.ofString " TO " =
        .char ' ' :: (Text.ofString "TO" ++ [.char ' ']) := by decide
    simp only [body, hto, List.append_assoc, List.cons_append, List.nil_append]
  rw [hbody, Text.words_append_cons hspace, Text.words_append_cons hspace,
    Text.words_of_not_hasBlank (by simp [boundText_ne_nil])
      (by rw [Text.hasBlank_append, hopening, not_hasBlank_boundText escape hlower]; rfl),
    Text.words_of_not_hasBlank (by decide) (by decide),
    Text.words_of_not_hasBlank (by simp [boundText_ne_nil])
      (by rw [Text.hasBlank_append, hclosing, not_hasBlank_boundText escape hupper]; rfl)]
  rfl

end Leaf

/-- The text of a term holds no blank but those of its field. -/
theorem Slots.hasBlank_leafText_term {s : Slots} (hs : s.Checked) {text : Text} {escape : Bool}
    {fuzziness : Int} (h : (Leaf.term text escape fuzziness).Checked) :
    Text.hasBlank (s.leafText (.term text escape fuzziness)) = Text.hasBlank s.field := by
  have hbody : Text.hasBlank (Leaf.term text escape fuzziness).body = false := by
    cases escape with
    | false => exact h.2.2.1
    | true => exact (Escape.hasBlank_token text).trans h.2.2.1
  rw [leafText, before, after, Leaf.distance, Text.hasBlank_append, Text.hasBlank_append,
    Text.hasBlank_append, Text.hasBlank_append, not_hasBlank_sign, hasBlank_fieldLabel, hbody,
    not_hasBlank_distanceSuffix, not_hasBlank_boostSuffix hs.1, Bool.false_or, Bool.or_false,
    Bool.or_false, Bool.or_false]

end LuceneQuery
