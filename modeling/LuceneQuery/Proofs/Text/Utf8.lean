import LuceneQuery.Text.Utf8
import Mathlib.Data.List.TakeWhile

/-!
# Reading what UTF-8 writes

The octets of a character are read as this character and nothing else
(`decodeFrom_utf8EncodeChar`): its lead octet owes as many octets as follow, and each of
these is in the bounds of the pending character and adds six bits to it.  So a text that
has octets is read from them (`exists_decode_of_encode`).
-/

namespace LuceneQuery.Text.Utf8

variable {position : Nat} {done : List Char} {rest : List UInt8} {p : Pending} {n : Nat}

/-! ## Octets of one character -/

theorem toNat_octet (h : n < 0x100) : (UInt8.ofNat n).toNat = n := UInt8.toNat_ofNat_of_lt' h

/-- A lead octet begins a character. -/
theorem decodeFrom_lead {b : UInt8} (hb : 0x80 ≤ b.toNat)
    (hlead : Pending.ofLead? position b = some p) :
    decodeFrom position done none (b :: rest) = decodeFrom (position + 1) done (some p) rest := by
  rw [decodeFrom, if_neg (by omega), hlead]

theorem ofLead?_two (hlow : 2 ≤ n) (hhigh : n < 32) :
    Pending.ofLead? position (UInt8.ofNat (n + 192)) =
      some ⟨position, UInt8.ofNat (n + 192), 1, 0x80, 0xBF, n⟩ := by
  rw [Pending.ofLead?, toNat_octet (by omega)]
  simp only [Nat.add_sub_cancel]
  rw [if_neg (by omega), if_pos (by omega)]

/-- An octet of this shape leads three, of which the second must not make the number too small
or that of a half. -/
theorem ofLead?_three (h : n < 16) :
    Pending.ofLead? position (UInt8.ofNat (n + 224)) =
      some ⟨position, UInt8.ofNat (n + 224), 2, if n = 0 then 0xA0 else 0x80,
        if n = 13 then 0x9F else 0xBF, n⟩ := by
  rw [Pending.ofLead?, toNat_octet (by omega)]
  simp only [Nat.add_sub_cancel, Nat.add_eq_right, Nat.reduceEqDiff]
  rw [if_neg (by omega), if_neg (by omega), if_pos (by omega)]

/-- An octet of this shape leads four, of which the second must not make the number too small
or too large. -/
theorem ofLead?_four (h : n < 5) :
    Pending.ofLead? position (UInt8.ofNat (n + 240)) =
      some ⟨position, UInt8.ofNat (n + 240), 3, if n = 0 then 0x90 else 0x80,
        if n = 4 then 0x8F else 0xBF, n⟩ := by
  rw [Pending.ofLead?, toNat_octet (by omega)]
  simp only [Nat.add_sub_cancel, Nat.add_eq_right, Nat.reduceEqDiff]
  rw [if_neg (by omega), if_neg (by omega), if_neg (by omega), if_pos (by omega)]

/-- An octet that a pending character owes, and that is not the last one. -/
theorem decodeFrom_more (hn : n < 64) (hlow : p.low ≤ n + 128) (hhigh : n + 128 ≤ p.high)
    (howed : 1 < p.owed) :
    decodeFrom position done (some p) (UInt8.ofNat (n + 128) :: rest) =
      decodeFrom (position + 1) done
        (some { p with owed := p.owed - 1, low := 0x80, high := 0xBF, code := p.code * 64 + n })
        rest := by
  rw [decodeFrom, toNat_octet (by omega), if_pos ⟨hlow, hhigh⟩]
  simp only [Nat.add_sub_cancel]
  rw [if_neg (by omega)]

/-- The last octet of a pending character. -/
theorem decodeFrom_last (hn : n < 64) (hlow : p.low ≤ n + 128) (hhigh : n + 128 ≤ p.high)
    (howed : p.owed ≤ 1) :
    decodeFrom position done (some p) (UInt8.ofNat (n + 128) :: rest) =
      decodeFrom (position + 1) (Char.ofNat (p.code * 64 + n) :: done) none rest := by
  rw [decodeFrom, toNat_octet (by omega), if_pos ⟨hlow, hhigh⟩]
  simp only [Nat.add_sub_cancel]
  rw [if_pos howed]

/-- The octets of a character are read as this character. -/
theorem decodeFrom_utf8EncodeChar (c : Char) :
    decodeFrom position done none (String.utf8EncodeChar c ++ rest) =
      decodeFrom (position + (String.utf8EncodeChar c).length) (c :: done) none rest := by
  have hchar {n : Nat} (h : n = c.val.toNat) : Char.ofNat n = c := h ▸ Char.ofNat_toNat c
  have hvalid : c.val.toNat < 0xD800 ∨ 0xDFFF < c.val.toNat ∧ c.val.toNat < 0x110000 := c.valid
  unfold String.utf8EncodeChar
  generalize c.val.toNat = v at hchar hvalid
  dsimp only
  split
  · rw [List.singleton_append, decodeFrom, toNat_octet (by omega), if_pos (by omega), hchar rfl]
    rfl
  split
  · rw [List.cons_append, List.singleton_append,
      decodeFrom_lead (by rw [toNat_octet] <;> omega) (ofLead?_two (by omega) (by omega)),
      decodeFrom_last (by omega) (by simp) (by simp; omega) (by simp), hchar (by simp; omega)]
    rfl
  split
  · rw [List.cons_append, List.cons_append, List.singleton_append,
      decodeFrom_lead (by rw [toNat_octet] <;> omega) (ofLead?_three (by omega)),
      decodeFrom_more (by omega) (by dsimp only; split <;> omega) (by dsimp only; split <;> omega)
        (by simp),
      decodeFrom_last (by omega) (by simp) (by simp; omega) (by simp), hchar (by simp; omega)]
    rfl
  · rw [List.cons_append, List.cons_append, List.cons_append, List.singleton_append,
      decodeFrom_lead (by rw [toNat_octet] <;> omega) (ofLead?_four (by omega)),
      decodeFrom_more (by omega) (by dsimp only; split <;> omega) (by dsimp only; split <;> omega)
        (by simp),
      decodeFrom_more (by omega) (by simp) (by simp; omega) (by simp),
      decodeFrom_last (by omega) (by simp) (by simp; omega) (by simp), hchar (by simp; omega)]
    rfl

/-! ## Octets of a text -/

theorem octets_append (s t : Text) : octets (s ++ t) = octets s ++ octets t :=
  List.flatMap_append

theorem octets_ofChars (s : List Char) : octets (ofChars s) = s.flatMap String.utf8EncodeChar := by
  simp [octets, ofChars, octetsOf, List.flatMap_map]

/-- The octets of characters are read as these characters, behind whatever has been read
before. -/
theorem decodeFrom_octets (s : List Char) :
    decodeFrom position done none (octets (ofChars s)) = .ok (done.reverse ++ s) := by
  rw [octets_ofChars]
  induction s generalizing position done with
  | nil => simp [decodeFrom]
  | cons c s ih => simp [decodeFrom_utf8EncodeChar, ih]

/-- Characters are read from their octets. -/
theorem decode_octets (s : List Char) : decode (octets (ofChars s)) = .ok s :=
  decodeFrom_octets s

theorem exists_chars_of_gap? {s : Text} (h : gap? s = none) : ∃ chars, s = ofChars chars := by
  have hhalf : ∀ c ∈ s, c.isHalf = false := by
    unfold gap? gapAt? at h
    split at h
    · next hdrop => simpa [List.dropWhile_eq_nil_iff] using hdrop
    · cases h
  clear h
  induction s with
  | nil => exact ⟨[], rfl⟩
  | cons c s ih =>
    obtain ⟨chars, rfl⟩ := ih fun c' hc' => hhalf c' (List.mem_cons_of_mem c hc')
    cases c with
    | char c => exact ⟨c :: chars, rfl⟩
    | half n => cases hhalf _ List.mem_cons_self

/-- A text that has octets is read from them. -/
theorem exists_decode_of_encode {s : Text} {written : List UInt8} (h : encode s = .ok written) :
    ∃ chars, decode written = .ok chars ∧ ofChars chars = s := by
  unfold encode at h
  split at h
  · cases h
  · next hgap =>
    obtain ⟨chars, rfl⟩ := exists_chars_of_gap? hgap
    cases h
    exact ⟨chars, decode_octets chars, rfl⟩

end LuceneQuery.Text.Utf8
