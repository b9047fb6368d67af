import LuceneQuery.Proofs.Number.Numeral
import LuceneQuery.Proofs.Number.Value

/-!
# Reading the text of a number

The text of a number is the text of a decimal, whatever the kind of the number,
and is read as one.  What is read has the value that the number was written with
(`Number.textValue?_eq`).  A decimal is read back as it is
(`Decimal.ofText?_text`).

A reader takes digits as long as there are any, so each text is first put as
digits, a point with digits behind it, and an exponent, each of which may be
missing (`readMagnitude?_whole`, `readMagnitude?_point`).
-/

namespace LuceneQuery

namespace Decimal

/-- Whether all characters of a text are digits. -/
def AreDigits (ds : List Char) : Prop := ∀ c ∈ ds, c.isDigit = true

theorem areDigits_digits (n : Nat) : AreDigits (digits n) := fun _ hc =>
  Nat.isDigit_of_mem_toDigits (by decide) (by decide) hc

theorem areDigits_zeros (n : Nat) : AreDigits (List.replicate n '0') := by
  intro c hc
  rw [(List.mem_replicate.1 hc).2]
  decide

theorem AreDigits.append {ds ds' : List Char} (h : AreDigits ds) (h' : AreDigits ds') :
    AreDigits (ds ++ ds') := by
  intro c hc
  rcases List.mem_append.1 hc with hc | hc
  · exact h c hc
  · exact h' c hc

/-! ## The value of digits -/

/-- The digits of a number are read as it. -/
theorem valueOf_digits (n : Nat) : valueOf (digits n) = n := Nat.ofDigitChars_ten_toDigits

/-- Digits in front count by the number of digits behind them. -/
theorem valueOf_append (ds ds' : List Char) :
    valueOf (ds ++ ds') = valueOf ds * 10 ^ ds'.length + valueOf ds' := by
  rw [valueOf, Nat.ofDigitChars_append, Nat.ofDigitChars_eq_ofDigitChars_zero, Nat.mul_comm]
  rfl

theorem valueOf_zeros (n : Nat) : valueOf (List.replicate n '0') = 0 := by
  rw [valueOf, Nat.ofDigitChars_replicate_zero, Nat.mul_zero]

/-- Zeros behind digits multiply by powers of ten. -/
theorem valueOf_append_zeros (ds : List Char) (n : Nat) :
    valueOf (ds ++ List.replicate n '0') = valueOf ds * tenTo n := by
  rw [valueOf_append, valueOf_zeros, List.length_replicate, Nat.add_zero]
  rfl

/-- Zeros in front of digits do not count. -/
theorem valueOf_zeros_append (n : Nat) (ds : List Char) :
    valueOf (List.replicate n '0' ++ ds) = valueOf ds := by
  rw [valueOf_append, valueOf_zeros, Nat.zero_mul, Nat.zero_add]

/-! ## Digits, a point and an exponent -/

/-- Whether a text starts with none of the characters of a kind. -/
def NoHead (p : Char → Bool) (s : List Char) : Prop := ∀ c ∈ s.head?, p c = false

theorem noHead_nil (p : Char → Bool) : NoHead p [] := fun _ h => nomatch h

theorem NoHead.of_or {p q : Char → Bool} {s : List Char} (h : NoHead (fun c => p c || q c) s) :
    NoHead p s := fun c hc => (Bool.or_eq_false_iff.1 (h c hc)).1

/-- The digits at the start of a text are found, and what follows them is left. -/
theorem spanDigits_append {ds rest : List Char} (hds : AreDigits ds)
    (hrest : NoHead Char.isDigit rest) : spanDigits (ds ++ rest) = (ds, rest) := by
  have hhead : rest.takeWhile Char.isDigit = [] ∧ rest.dropWhile Char.isDigit = rest := by
    cases rest with
    | nil => exact ⟨rfl, rfl⟩
    | cons c s =>
      have hc : ¬ c.isDigit = true := by simp [hrest c rfl]
      exact ⟨List.takeWhile_cons_of_neg hc, List.dropWhile_cons_of_neg hc⟩
  rw [spanDigits, List.takeWhile_append_of_pos hds, List.dropWhile_append_of_pos hds, hhead.1,
    hhead.2, List.append_nil]

/-- Digits without a point are read as a whole number with an exponent. -/
theorem readMagnitude?_whole {ds rest : List Char} (hds : AreDigits ds) (hne : ds ≠ [])
    (hrest : NoHead (fun c => c.isDigit || c == '.') rest) :
    readMagnitude? (ds ++ rest) = (readExponent? rest).map fun e => (valueOf ds, e) := by
  simp only [readMagnitude?, spanDigits_append hds hrest.of_or]
  cases rest with
  | nil => simp [hne]
  | cons c s =>
    have hpoint : c ≠ '.' := by simpa using (Bool.or_eq_false_iff.1 (hrest c rfl)).2
    simp [hne, hpoint]

/-- Digits behind a point lower the exponent. -/
theorem readMagnitude?_point {whole fraction rest : List Char} (hwhole : AreDigits whole)
    (hfraction : AreDigits fraction) (hne : whole ≠ []) (hrest : NoHead Char.isDigit rest) :
    readMagnitude? (whole ++ '.' :: (fraction ++ rest)) =
      (readExponent? rest).map fun e : Int =>
        (valueOf (whole ++ fraction), e - fraction.length) := by
  have hpoint : NoHead Char.isDigit ('.' :: (fraction ++ rest)) := by
    intro c hc
    obtain rfl : '.' = c := Option.some.inj hc
    decide
  simp only [readMagnitude?, spanDigits_append hwhole hpoint, spanDigits_append hfraction hrest]
  simp [hne]

/-- An exponent is read with its sign. -/
theorem readExponent?_cons {c : Char} (hc : c = 'e' ∨ c = 'E') {e : Int} {ds : List Char}
    (hds : AreDigits ds) (hne : ds ≠ []) (hvalue : valueOf ds = e.natAbs) :
    readExponent? (c :: (if e < 0 then '-' else '+') :: ds) = some e := by
  have hall : ds.all Char.isDigit = true := List.all_eq_true.2 hds
  by_cases he : e < 0
  · simp only [readExponent?, hc, if_true, he, readSign, hne, hall, ne_eq, not_false_eq_true,
      and_self, hvalue, Option.some.injEq]
    omega
  · simp only [readExponent?, hc, if_true, he, if_false, readSign, hne, hall, ne_eq,
      not_false_eq_true, and_self, hvalue, Option.some.injEq, Bool.false_eq_true]
    omega

theorem digits_ne_nil (n : Nat) : digits n ≠ [] := List.ne_nil_of_length_pos (length_digits_pos n)

theorem readExponent?_exponentText (e : Int) : readExponent? (exponentText e) = some e :=
  readExponent?_cons (.inr rfl) (areDigits_digits _) (digits_ne_nil _) (valueOf_digits _)

theorem noHead_exponentText (e : Int) :
    NoHead (fun c => c.isDigit || c == '.') (exponentText e) := by
  intro c hc
  obtain rfl : 'E' = c := Option.some.inj hc
  decide

/-! ## Digits with a point -/

/-- Digits with a point have digits before it, as many behind it as places were
asked for, and the value that they had. -/
theorem withPoint_spec {ds : List Char} (hds : AreDigits ds) (places : Nat) :
    ∃ whole fraction, withPoint ds places = whole ++ '.' :: fraction ∧ whole ≠ [] ∧
      fraction.length = places ∧ AreDigits whole ∧ AreDigits fraction ∧
      whole ++ fraction = List.replicate (places + 1 - ds.length) '0' ++ ds := by
  let filled := List.replicate (places + 1 - ds.length) '0' ++ ds
  have hfilled : AreDigits filled := (areDigits_zeros _).append hds
  have hlength : places < filled.length := by
    simp only [filled, List.length_append, List.length_replicate]
    omega
  refine ⟨filled.take (filled.length - places), filled.drop (filled.length - places), rfl, ?_, ?_,
    fun c hc => hfilled c (List.mem_of_mem_take hc),
    fun c hc => hfilled c (List.mem_of_mem_drop hc),
    List.take_append_drop _ _⟩
  · intro hnil
    have hzero := congrArg List.length hnil
    rw [List.length_take, List.length_nil] at hzero
    omega
  · rw [List.length_drop]
    omega

/-- A text that starts with a digit. -/
def StartsDigit (s : List Char) : Prop := ∃ c r, s = c :: r ∧ c.isDigit = true

theorem startsDigit_append {ds : List Char} (hds : AreDigits ds) (hne : ds ≠ []) (s : List Char) :
    StartsDigit (ds ++ s) := by
  cases ds with
  | nil => exact absurd rfl hne
  | cons c r => exact ⟨c, r ++ s, rfl, hds c List.mem_cons_self⟩

/-- A number with a point starts with a digit. -/
theorem startsDigit_withPoint {ds : List Char} (hds : AreDigits ds) (places : Nat)
    (rest : List Char) : StartsDigit (withPoint ds places ++ rest) := by
  obtain ⟨whole, fraction, htext, hne, -, hwhole, -⟩ := withPoint_spec hds places
  rw [htext, List.append_assoc]
  exact startsDigit_append hwhole hne _

/-- A point among the digits of a number moves its exponent. -/
theorem readMagnitude?_withPoint (c places : Nat) {rest : List Char}
    (hrest : NoHead Char.isDigit rest) :
    readMagnitude? (withPoint (digits c) places ++ rest) =
      (readExponent? rest).map fun e : Int => (c, e - places) := by
  obtain ⟨whole, fraction, htext, hne, hlength, hwhole, hfraction, hfilled⟩ :=
    withPoint_spec (areDigits_digits c) places
  rw [htext, List.append_assoc, List.cons_append,
    readMagnitude?_point hwhole hfraction hne hrest, hfilled, valueOf_zeros_append, valueOf_digits,
    hlength]

/-- Digits with a point are read as they stand, with the places behind it. -/
theorem readMagnitude?_pointed (c : Nat) {e : Int} (he : e ≤ 0) :
    readMagnitude? (withPoint (digits c) (-e).toNat) = some (c, e) := by
  have h := readMagnitude?_withPoint c (-e).toNat (noHead_nil _)
  rw [List.append_nil] at h
  simp only [h, readExponent?, Option.map_some, Option.some.injEq, Prod.mk.injEq, true_and]
  omega

/-- Digits with one of them before the point are read with the exponent of that
one. -/
theorem readMagnitude?_scientific (c : Nat) {e : Int} {rest : List Char}
    (hrest : NoHead (fun c => c.isDigit || c == '.') rest)
    (he : readExponent? rest = some (e + (digits c).length - 1)) :
    readMagnitude? ((if (digits c).length = 1 then digits c
      else withPoint (digits c) ((digits c).length - 1)) ++ rest) = some (c, e) := by
  have hlength := length_digits_pos c
  split
  · next hone =>
    rw [readMagnitude?_whole (areDigits_digits c) (digits_ne_nil c) hrest, he, hone, valueOf_digits]
    simp
  · rw [readMagnitude?_withPoint c _ hrest.of_or, he]
    simp only [Option.map_some, Option.some.injEq, Prod.mk.injEq, true_and]
    omega

/-! ## Signs -/

/-- A sign is read in front of digits. -/
theorem readSign_append {s : List Char} (hs : StartsDigit s) (negative : Bool) :
    readSign (sign negative ++ s) = (negative, s) := by
  cases negative with
  | true => rfl
  | false =>
    obtain ⟨c, r, rfl, hc⟩ := hs
    have hminus : c ≠ '-' := by
      rintro rfl
      exact absurd hc (by decide)
    have hplus : c ≠ '+' := by
      rintro rfl
      exact absurd hc (by decide)
    simp [sign, readSign, hminus, hplus]

/-- A text that starts with a digit is read behind a sign as it is without one. -/
theorem ofText?_sign_append {s : List Char} (hs : StartsDigit s) {c : Nat} {e : Int}
    (h : readMagnitude? s = some (c, e)) (negative : Bool) :
    ofText? (sign negative ++ s) = some (.finite negative c e) := by
  simp only [ofText?, readSign_append hs, readUnsigned?, h]

/-! ## The text of a decimal -/

theorem readMagnitude?_digits (c : Nat) : readMagnitude? (digits c) = some (c, 0) := by
  have h := readMagnitude?_whole (areDigits_digits c) (digits_ne_nil c) (noHead_nil _)
  rwa [List.append_nil, valueOf_digits] at h

/-- The text of a decimal without a sign is read as its digits and its exponent. -/
theorem readMagnitude?_magnitudeText (c : Nat) (e : Int) :
    readMagnitude? (magnitudeText c e) = some (c, e) := by
  simp only [magnitudeText]
  split
  · next he =>
    rw [he]
    exact readMagnitude?_digits c
  · split
    · next he => exact readMagnitude?_pointed c he.1.le
    · exact readMagnitude?_scientific c (noHead_exponentText _) (readExponent?_exponentText _)

theorem startsDigit_magnitudeText (c : Nat) (e : Int) : StartsDigit (magnitudeText c e) := by
  have hdigits := startsDigit_append (areDigits_digits c) (digits_ne_nil c)
  have hpoint := startsDigit_withPoint (areDigits_digits c)
  simp only [magnitudeText]
  split
  · simpa using hdigits []
  · split
    · simpa using hpoint (-e).toNat []
    · split
      · exact hdigits _
      · exact hpoint _ _

/-- A finite decimal is read back from its text. -/
theorem ofText?_text (negative : Bool) (c : Nat) (e : Int) :
    ofText? (text (.finite negative c e)) = some (.finite negative c e) :=
  ofText?_sign_append (startsDigit_magnitudeText c e) (readMagnitude?_magnitudeText c e) negative

end Decimal

/-! ## The text of a double -/

namespace Double

open Decimal

theorem readExponent?_exponentText (e : Int) : readExponent? (exponentText e) = some e := by
  have hdigits := areDigits_digits e.natAbs
  refine readExponent?_cons (.inl rfl) ((areDigits_zeros _).append hdigits) ?_ ?_
  · simp [digits_ne_nil]
  · rw [valueOf_zeros_append, valueOf_digits]

theorem noHead_exponentText (e : Int) :
    NoHead (fun c => c.isDigit || c == '.') (exponentText e) := by
  intro c hc
  obtain rfl : 'e' = c := Option.some.inj hc
  decide

/-- The text of a double is read as a decimal of the value that it lays out. -/
theorem readMagnitude?_layout (c : Nat) (e : Int) :
    ∃ d f, readMagnitude? (layout c e) = some (d, f) ∧ magnitude d f = magnitude c e := by
  simp only [layout]
  split
  · split
    · next he =>
      -- A whole number is written with a zero behind the point.
      refine ⟨c * tenTo e.toNat * tenTo 1, -1, ?_, ?_⟩
      · have h := readMagnitude?_point ((areDigits_digits c).append (areDigits_zeros e.toNat))
          (areDigits_zeros 1) (by simp [digits_ne_nil]) (noHead_nil _)
        rw [valueOf_append_zeros, valueOf_append_zeros, valueOf_digits] at h
        exact h
      · rw [magnitude_mul_tenTo, magnitude_mul_tenTo]
        congr 1
        omega
    · next he => exact ⟨c, e, readMagnitude?_pointed c (not_le.1 he).le, rfl⟩
  · exact ⟨c, e, readMagnitude?_scientific c (noHead_exponentText _)
      (readExponent?_exponentText _), rfl⟩

/-- The text of a double without a sign starts with a digit. -/
theorem startsDigit_layout (c : Nat) (e : Int) : StartsDigit (layout c e) := by
  have hdigits := startsDigit_append (areDigits_digits c) (digits_ne_nil c)
  have hpoint := startsDigit_withPoint (areDigits_digits c)
  simp only [layout]
  split
  · split
    · rw [List.append_assoc]
      exact hdigits _
    · simpa using hpoint (-e).toNat []
  · split
    · exact hdigits _
    · exact hpoint _ _

end Double

/-! ## The text of a number -/

namespace Number

/-- The value that the text of a number is read as. -/
def textValue? (n : Number) : Option ℚ := (Decimal.ofText? n.text).bind Decimal.value?

/-- The text of a finite number has the value that the number is written with. -/
theorem textValue?_eq {n : Number} {negative : Bool} {c : Nat} {e : Int}
    (h : n.written = .finite negative c e) :
    n.textValue? = some (signed negative (Decimal.magnitude c e)) := by
  cases n with
  | int n =>
    have hdigits := Decimal.startsDigit_append (Decimal.areDigits_digits n.natAbs)
      (Decimal.digits_ne_nil _) []
    rw [List.append_nil] at hdigits
    rw [textValue?, text, intText,
      Decimal.ofText?_sign_append hdigits (Decimal.readMagnitude?_digits _)]
    cases h
    rfl
  | double x =>
    cases x with
    | finite s mantissa exponent canonical =>
      cases h
      obtain ⟨d, f, hread, hvalue⟩ := Double.readMagnitude?_layout
        (Double.shortestDigits mantissa exponent canonical).1
        (Double.shortestDigits mantissa exponent canonical).2
      rw [textValue?, text, Double.text,
        Decimal.ofText?_sign_append (Double.startsDigit_layout _ _) hread, Option.bind_some,
        Decimal.value?, hvalue]
    | infinite s => cases h
    | nan payload => cases h
  | decimal d =>
    cases h
    rw [textValue?, text, Decimal.ofText?_text]
    rfl

end Number

end LuceneQuery
