import LuceneQuery.Proofs.Clause.Escape
import LuceneQuery.Proofs.Number.Numeral

/-!
# Reading modifiers

A reader takes the modifiers of a clause one after the other, and stops in front
of what cannot belong to them:

* the operator ends at anything but a sign,
* the field ends at its colon, and what has no field has no colon behind any
  characters of a name (`Unlabelled`),
* the distance ends at a boost, a space or a closing parenthesis,
* the boost ends at a space or a closing parenthesis.
-/

namespace LuceneQuery

open Text (StopsAt)

section

variable {x x' : Text}

/-! ## The operator -/

/-- Whether a code point is the text of an operator. -/
def isSign (c : CodePoint) : Bool := c == .char '+' || c == .char '-'

theorem Operator.isSign_of_mem_sign : ∀ {op : Operator} {c : CodePoint}, c ∈ op.sign →
    isSign c = true := by
  intro op c hc
  cases op with
  | optional => cases hc
  | required => rw [List.mem_singleton.1 hc]; decide
  | prohibited => rw [List.mem_singleton.1 hc]; decide

/-- An operator is known by its sign. -/
theorem Operator.sign_injective : Function.Injective Operator.sign := by
  intro op op' h
  cases op <;> cases op' <;> first | rfl | exact absurd h (by decide)

/-- A sign can be read off the text of a clause. -/
theorem Operator.sign_append_inj {op op' : Operator} (hx : StopsAt (!isSign ·) x)
    (hx' : StopsAt (!isSign ·) x') (h : op.sign ++ x = op'.sign ++ x') : op = op' ∧ x = x' := by
  have hsign : ∀ (op : Operator), ∀ c ∈ op.sign, (!isSign c) = false := by
    intro op c hc
    rw [Operator.isSign_of_mem_sign hc]
    rfl
  obtain ⟨hop, hrest⟩ := Text.append_inj_of_stopsAt (hsign op) (hsign op') hx hx' h
  exact ⟨Operator.sign_injective hop, hrest⟩

/-! ## The field -/

/-- Whether a code point can stand in the name of a field: it is not blank and
has no meaning in a query. -/
def isNameChar (c : CodePoint) : Bool := !Text.isBlank c && !Escape.tokenSpecials.contains c

/-- Whether a text does not start with the label of a field. -/
def Unlabelled (s : Text) : Prop := StopsAt (· != .char ':') (s.dropWhile isNameChar)

theorem unlabelled_nil : Unlabelled [] := Text.stopsAt_nil

/-- A text that starts with no character of a name has no field in front. -/
theorem unlabelled_cons_of_not {c : CodePoint} (hc : isNameChar c = false) (hne : c ≠ .char ':')
    (s : Text) : Unlabelled (c :: s) := by
  rw [Unlabelled, List.dropWhile_cons_of_neg (by simp [hc]), Text.stopsAt_cons]
  simpa using hne

/-- A character of a name does not tell whether there is a field. -/
theorem unlabelled_cons_of_isNameChar {c : CodePoint} (hc : isNameChar c = true) {s : Text} :
    Unlabelled (c :: s) ↔ Unlabelled s := by
  rw [Unlabelled, List.dropWhile_cons_of_pos hc, Unlabelled]

theorem isNameChar_colon : isNameChar (.char ':') = false := by decide

theorem ne_of_isNameChar {c d : CodePoint} (hc : isNameChar c = true)
    (hd : isNameChar d = false) : c ≠ d :=
  ne_of_apply_ne isNameChar (by simp [hc, hd])

theorem not_isSign_of_isNameChar {c : CodePoint} (hc : isNameChar c = true) :
    isSign c = false := by
  simpa [isSign] using
    ⟨ne_of_isNameChar hc (by decide), ne_of_isNameChar hc (by decide)⟩

/-- An escaped token makes no label, whatever follows it, since a colon in it
stands behind a backslash. -/
theorem unlabelled_token_append {t : Text} (hx : Unlabelled x) :
    Unlabelled (Escape.token t ++ x) := by
  fun_induction Escape.token t with
  | case1 => exact hx
  | case2 s ih => exact unlabelled_cons_of_not (by decide) (by decide) _
  | case3 s ih => exact unlabelled_cons_of_not (by decide) (by decide) _
  | case4 c s _ _ _ ih => exact unlabelled_cons_of_not (by decide) (by decide) _
  | case5 c s _ _ hspecial ih =>
    rw [List.cons_append]
    by_cases hc : isNameChar c = true
    · exact (unlabelled_cons_of_isNameChar hc).2 ih
    · apply unlabelled_cons_of_not (Bool.eq_false_iff.2 hc)
      rintro rfl
      exact hspecial (by decide)

theorem fieldLabel_nil : fieldLabel [] = [] := rfl

theorem fieldLabel_of_ne_nil {f : Text} (hf : f ≠ []) : fieldLabel f = f ++ [.char ':'] := by
  cases f with
  | nil => exact absurd rfl hf
  | cons c f => rfl

/-- What starts with the label of a field is not unlabelled. -/
theorem not_unlabelled_fieldLabel_append {f : Text} (hf : f ≠ [])
    (hname : ∀ c ∈ f, isNameChar c = true) : ¬ Unlabelled (fieldLabel f ++ x) := by
  intro h
  rw [fieldLabel_of_ne_nil hf, List.append_assoc, Unlabelled,
    List.dropWhile_append_of_pos hname] at h
  exact absurd h (by simp [StopsAt, isNameChar_colon])

/-- A field can be read off the text of a clause, or that there is none. -/
theorem fieldLabel_append_inj {f f' : Text} (hf : ∀ c ∈ f, isNameChar c = true)
    (hf' : ∀ c ∈ f', isNameChar c = true) (hx : Unlabelled x) (hx' : Unlabelled x')
    (h : fieldLabel f ++ x = fieldLabel f' ++ x') : f = f' ∧ x = x' := by
  by_cases hnil : f = []
  · by_cases hnil' : f' = []
    · subst hnil hnil'
      exact ⟨rfl, h⟩
    · subst hnil
      rw [fieldLabel_nil, List.nil_append] at h
      exact absurd (h ▸ hx) (not_unlabelled_fieldLabel_append hnil' hf')
  · by_cases hnil' : f' = []
    · subst hnil'
      rw [fieldLabel_nil, List.nil_append] at h
      exact absurd (h ▸ hx') (not_unlabelled_fieldLabel_append hnil hf)
    · rw [fieldLabel_of_ne_nil hnil, fieldLabel_of_ne_nil hnil', List.append_assoc,
        List.append_assoc] at h
      have hname : ∀ {g : Text}, (∀ c ∈ g, isNameChar c = true) → ∀ c ∈ g,
          (!isNameChar c) = false := by
        intro g hg c hc
        rw [hg c hc]
        rfl
      obtain ⟨hff, hrest⟩ := Text.append_inj_of_stopsAt (hname hf) (hname hf')
        (by simp [isNameChar_colon]) (by simp [isNameChar_colon]) h
      exact ⟨hff, (List.cons_eq_cons.1 hrest).2⟩

/-! ## The distance and the boost -/

/-- Whether a code point stands behind a clause: between two clauses, or behind
the last one of a group. -/
def endsClause (c : CodePoint) : Bool := c == .char ' ' || c == .char ')'

/-- Whether a code point stands behind a distance: it starts a boost or ends the
clause. -/
def endsDistance (c : CodePoint) : Bool := c == .char '^' || endsClause c

theorem endsDistance_of_endsClause {c : CodePoint} (h : endsClause c = true) :
    endsDistance c = true := by
  rw [endsDistance, h, Bool.or_true]

theorem not_endsClause_of_isNameChar {c : CodePoint} (hc : isNameChar c = true) :
    endsClause c = false := by
  simpa [endsClause] using
    ⟨ne_of_isNameChar hc (by decide), ne_of_isNameChar hc (by decide)⟩

/-- What ends a distance ends a token before. -/
theorem endsToken_of_endsDistance {c : CodePoint} (h : endsDistance c = true) :
    Escape.endsToken c = true := by
  simp only [endsDistance, endsClause, Bool.or_eq_true, beq_iff_eq] at h
  rcases h with rfl | rfl | rfl <;> decide

/-- Suffixes and ends of clauses make no label. -/
theorem unlabelled_of_stopsAt (hx : StopsAt (fun c => c == .char '~' || endsDistance c) x) :
    Unlabelled x := by
  cases x with
  | nil => exact unlabelled_nil
  | cons c s =>
    have hc := Text.stopsAt_cons.1 hx
    simp only [endsDistance, endsClause, Bool.or_eq_true, beq_iff_eq] at hc
    rcases hc with rfl | rfl | rfl | rfl <;>
      exact unlabelled_cons_of_not (by decide) (by decide) s

theorem not_endsDistance_of_isNumeral {c : Char} (h : isNumeral c = true) :
    endsDistance (.char c) = false := by
  rw [Bool.eq_false_iff]
  intro hend
  simp only [endsDistance, endsClause, Bool.or_eq_true, beq_iff_eq, CodePoint.char.injEq] at hend
  rcases hend with rfl | rfl | rfl <;> exact absurd h (by decide)

theorem not_endsDistance_of_mem_ofChars {s : List Char} (hs : ∀ c ∈ s, isNumeral c = true) :
    ∀ c ∈ Text.ofChars s, endsDistance c = false := by
  intro c hc
  obtain ⟨d, hd, rfl⟩ := List.mem_map.1 hc
  exact not_endsDistance_of_isNumeral (hs d hd)

theorem distanceSuffix_zero : distanceSuffix 0 = [] := rfl

theorem distanceSuffix_of_ne_zero {n : Int} (hn : n ≠ 0) :
    distanceSuffix n = .char '~' :: Text.ofChars (Number.intText n) := by
  rw [distanceSuffix, if_neg hn]
  rfl

/-- A distance is known by its text. -/
theorem distanceSuffix_injective : Function.Injective distanceSuffix := by
  intro m n h
  by_cases hm : m = 0
  · by_cases hn : n = 0
    · rw [hm, hn]
    · rw [hm, distanceSuffix_zero, distanceSuffix_of_ne_zero hn] at h
      cases h
  · by_cases hn : n = 0
    · rw [hn, distanceSuffix_zero, distanceSuffix_of_ne_zero hm] at h
      cases h
    · rw [distanceSuffix_of_ne_zero hm, distanceSuffix_of_ne_zero hn] at h
      have hchars := (List.cons_eq_cons.1 h).2
      exact Number.intText_injective
        ((List.map_inj_right fun _ _ => CodePoint.char.inj).1 hchars)

/-- No character in a distance ends it. -/
theorem not_endsDistance_of_mem_distanceSuffix {n : Int} :
    ∀ c ∈ distanceSuffix n, endsDistance c = false := by
  intro c hc
  by_cases hn : n = 0
  · rw [hn, distanceSuffix_zero] at hc
    cases hc
  · rw [distanceSuffix_of_ne_zero hn] at hc
    rcases List.mem_cons.1 hc with rfl | hc
    · decide
    · exact not_endsDistance_of_mem_ofChars (fun _ => Number.isNumeral_of_mem_intText) c hc

theorem stopsAt_distanceSuffix (n : Int) : StopsAt (· == .char '~') (distanceSuffix n) := by
  by_cases hn : n = 0
  · rw [hn, distanceSuffix_zero]
    exact Text.stopsAt_nil
  · rw [distanceSuffix_of_ne_zero hn, Text.stopsAt_cons]
    decide

/-- A distance can be read off the text behind a body. -/
theorem distanceSuffix_append_inj {m n : Int} (hx : StopsAt endsDistance x)
    (hx' : StopsAt endsDistance x') (h : distanceSuffix m ++ x = distanceSuffix n ++ x') :
    m = n ∧ x = x' := by
  obtain ⟨hmn, hrest⟩ := Text.append_inj_of_stopsAt not_endsDistance_of_mem_distanceSuffix
    not_endsDistance_of_mem_distanceSuffix hx hx' h
  exact ⟨distanceSuffix_injective hmn, hrest⟩

/-- A weight is not written at all, or behind a caret. -/
theorem boostSuffix_cases (n : Number) :
    boostSuffix n = [] ∨ boostSuffix n = .char '^' :: Text.ofChars (weightText n) := by
  unfold boostSuffix
  split
  · exact Or.inl rfl
  · exact Or.inr rfl

theorem stopsAt_boostSuffix (n : Number) : StopsAt (· == .char '^') (boostSuffix n) := by
  rcases boostSuffix_cases n with h | h
  · rw [h]
    exact Text.stopsAt_nil
  · rw [h, Text.stopsAt_cons]
    decide

/-- The boost of a finite weight ends at the end of its clause. -/
theorem not_endsClause_of_mem_boostSuffix {n : Number} (hn : n.toDouble.isFinite = true) :
    ∀ c ∈ boostSuffix n, endsClause c = false := by
  intro c hc
  rcases boostSuffix_cases n with h | h
  · rw [h] at hc
    cases hc
  · rw [h] at hc
    rcases List.mem_cons.1 hc with rfl | hc
    · decide
    · have hend := not_endsDistance_of_mem_ofChars (isNumeral_of_mem_weightText hn) c hc
      exact (Bool.or_eq_false_iff.1 hend).2

end

end LuceneQuery
