import LuceneQuery.Config.Typed
import LuceneQuery.Proofs.Number.Numeral

/-!
# Keys of mappings

A name is a text, and as a key it equals no other scalar.  The check for unknown
keys compares texts of keys, but a key that is no text does not look like a name
either: its text starts with a digit, a sign or one of a few letters, or with a
letter and a quote (`Scalar.exists_of_ne_str`), and no name that a clause knows does.
So a mapping passes the check if and only if its keys are the known names
(`checkNames_eq_ok_iff`).

`Value.Within` says that a value is a part of another one, down to any depth.
An integer among the parts may have too many digits to be written
(`Value.HasLong`) or no double near to it (`Value.HasLarge`).
-/

namespace LuceneQuery

/-! ## Names as keys -/

/-- As a key, a name equals nothing but itself. -/
theorem Scalar.sameKey_str_iff {k : Scalar} {name : Text} :
    k.sameKey (.str name) = true ↔ k = .str name := by
  cases k <;> simp [sameKey, asNumber?]

namespace Entries

variable {entries : Entries} {name : Text} {v : Value}

/-- What is found under a name is in an entry of that name. -/
theorem mem_of_get?_eq_some (h : entries.get? name = some v) : (.str name, v) ∈ entries := by
  induction entries with
  | nil => cases h
  | cons entry entries ih =>
    obtain ⟨k, w⟩ := entry
    simp only [get?, find?] at h
    split at h
    · next hk =>
      cases h
      rw [Scalar.sameKey_str_iff.1 hk]
      exact List.mem_cons_self
    · exact List.mem_cons_of_mem _ (ih h)

theorem isSome_get?_iff : (entries.get? name).isSome = true ↔ .str name ∈ entries.keys := by
  induction entries with
  | nil => simp [get?, find?, keys]
  | cons entry entries ih =>
    obtain ⟨k, w⟩ := entry
    simp only [get?, keys] at ih
    simp only [get?, find?, keys, List.map_cons, List.mem_cons]
    split
    · next hk => simp [Scalar.sameKey_str_iff.1 hk]
    · next hk =>
      have hne : .str name ≠ k := fun heq => hk (Scalar.sameKey_str_iff.2 heq.symm)
      simp [ih, hne]

theorem get?_of_present? (h : entries.present? name = some v) : entries.get? name = some v := by
  unfold present? at h
  split at h
  · cases h
  · exact h

end Entries

/-! ## Parts of values -/

/-- Whether a value is another one or a part of it.  The keys of a mapping are
parts of it too. -/
inductive Value.Within (v : Value) : Value → Prop where
  | refl : Within v v
  | item {items : List Value} {w : Value} (hw : w ∈ items) (h : Within v w) :
      Within v (.list items)
  | key {entries : Entries} {k : Scalar} (hk : k ∈ entries.keys) (h : Within v (.scalar k)) :
      Within v (.map entries)
  | entry {entries : Entries} {k : Scalar} {w : Value} (hw : (k, w) ∈ entries)
      (h : Within v w) : Within v (.map entries)

theorem Value.Within.trans {u v w : Value} (huv : u.Within v) (hvw : v.Within w) :
    u.Within w := by
  induction hvw with
  | refl => exact huv
  | item hw _ ih => exact .item hw ih
  | key hk _ ih => exact .key hk ih
  | entry hw _ ih => exact .entry hw ih

theorem Value.Within.of_get? {entries : Entries} {name : Text} {v w : Value}
    (hw : entries.get? name = some w) (h : v.Within w) : v.Within (.map entries) :=
  .entry (Entries.mem_of_get?_eq_some hw) h

theorem Value.Within.of_present? {entries : Entries} {name : Text} {v w : Value}
    (hw : entries.present? name = some w) (h : v.Within w) : v.Within (.map entries) :=
  .of_get? (Entries.get?_of_present? hw) h

/-- Whether a value holds an integer that has too many digits to be written. -/
def Value.HasLong (v : Value) : Prop :=
  ∃ n : Int, (Value.int n).Within v ∧ (Number.int n).isWritable = false

/-- Whether a value holds an integer that no finite double is near to. -/
def Value.HasLarge (v : Value) : Prop :=
  ∃ n : Int, (Value.int n).Within v ∧ (Double.ofInt n).isFinite = false

/-- A number with too many digits in a part is in the whole. -/
theorem Value.HasLong.mono {u v : Value} (h : u.HasLong) (huv : u.Within v) : v.HasLong := by
  obtain ⟨n, hn, hlong⟩ := h
  exact ⟨n, hn.trans huv, hlong⟩

theorem Value.HasLarge.mono {u v : Value} (h : u.HasLarge) (huv : u.Within v) : v.HasLarge := by
  obtain ⟨n, hn, hlarge⟩ := h
  exact ⟨n, hn.trans huv, hlarge⟩

/-- A scalar that cannot be written has too many digits. -/
theorem Scalar.hasLong_of_not_isWritable {s : Scalar} (h : s.isWritable = false) :
    (Value.scalar s).HasLong := by
  cases s with
  | number n =>
    cases n with
    | int n => exact ⟨n, .refl, h⟩
    | _ => cases h
  | _ => cases h

theorem Value.sizeOf_item_lt {entries : Entries} {k : Scalar} {items : List Value} {v : Value}
    (hmem : (k, .list items) ∈ entries) (hv : v ∈ items) :
    sizeOf v < sizeOf (Value.map entries) := by
  have hentry := List.sizeOf_lt_of_mem hmem
  have hitem := List.sizeOf_lt_of_mem hv
  simp only [Prod.mk.sizeOf_spec, list.sizeOf_spec] at hentry
  simp only [map.sizeOf_spec]
  omega

/-- A property of all values, shown of a mapping from the items of the lists in
its entries. -/
theorem Value.groupInduction {p : Value → Prop} (scalar : ∀ s, p (.scalar s))
    (list : ∀ items, p (.list items)) (pair : ∀ a b, p (.pair a b))
    (set : ∀ members, p (.set members))
    (map : ∀ entries : Entries,
      (∀ k items, (k, .list items) ∈ entries → ∀ v ∈ items, p v) → p (.map entries)) : ∀ v, p v
  | .scalar s => scalar s
  | .list items => list items
  | .pair a b => pair a b
  | .set members => set members
  | .map entries => map entries fun _ _ _ v _ => Value.groupInduction scalar list pair set map v
termination_by v => sizeOf v
decreasing_by exact Value.sizeOf_item_lt (by assumption) (by assumption)

/-! ## The texts of keys -/

/-- The characters that the text of a scalar can start with unless the scalar is
a text or octets. -/
def startsScalar (c : Char) : Bool := isNumeral c || "NTFIins".toList.contains c

theorem startsScalar_of_isNumeral {c : Char} (h : isNumeral c = true) : startsScalar c = true := by
  rw [startsScalar, h, Bool.true_or]

/-- Whether a text starts like that of a scalar. -/
def StartsScalar (s : List Char) : Prop := ∃ c ∈ s.head?, startsScalar c = true

theorem startsScalar_cons {c : Char} {s : List Char} (h : startsScalar c = true) :
    StartsScalar (c :: s) :=
  ⟨c, rfl, h⟩

/-- More text behind a scalar does not change how it starts. -/
theorem StartsScalar.append {s : List Char} (h : StartsScalar s) (r : List Char) :
    StartsScalar (s ++ r) := by
  cases s with
  | nil =>
    obtain ⟨c, hc, -⟩ := h
    cases hc
  | cons c s => exact h

/-- A text of characters of numbers starts as a number does. -/
theorem startsScalar_of_numerals {s : List Char} (hs : s ≠ [])
    (hnum : ∀ c ∈ s, isNumeral c = true) : StartsScalar s := by
  cases s with
  | nil => exact absurd rfl hs
  | cons c s => exact startsScalar_cons (startsScalar_of_isNumeral (hnum c List.mem_cons_self))

/-- A sign is a start of a number. -/
theorem startsScalar_sign_append {negative : Bool} {s : List Char} (h : StartsScalar s) :
    StartsScalar (Decimal.sign negative ++ s) := by
  cases negative with
  | false => exact h
  | true => exact startsScalar_cons (by decide)

theorem startsScalar_digits (n : Nat) : StartsScalar (Decimal.digits n) :=
  startsScalar_of_numerals Nat.toDigits_ne_nil fun _ => Decimal.isNumeral_of_mem_digits

/-- Digits with a point among them start as a number does. -/
theorem startsScalar_withPoint (n places : Nat) :
    StartsScalar (Decimal.withPoint (Decimal.digits n) places) := by
  refine startsScalar_of_numerals ?_
    (Decimal.isNumeral_of_mem_withPoint fun _ => Decimal.isNumeral_of_mem_digits)
  simp [Decimal.withPoint]

theorem startsScalar_padded (width n : Nat) : StartsScalar (padded width n) := by
  refine startsScalar_of_numerals ?_ ?_
  · simp [padded, Decimal.digits, Nat.toDigits_ne_nil]
  · intro c hc
    rcases List.mem_append.1 hc with hc | hc
    · exact Decimal.isNumeral_of_mem_zeros hc
    · exact Decimal.isNumeral_of_mem_digits hc

theorem Double.startsScalar_layout (digits : Nat) (exponent : Int) :
    StartsScalar (layout digits exponent) := by
  unfold layout
  dsimp only
  split
  · split
    · exact ((startsScalar_digits digits).append _).append _
    · exact startsScalar_withPoint _ _
  · apply StartsScalar.append
    split
    · exact startsScalar_digits digits
    · exact startsScalar_withPoint _ _

theorem Double.startsScalar_text (x : Double) : StartsScalar x.text := by
  cases x with
  | finite negative mantissa exponent canonical =>
    exact startsScalar_sign_append (startsScalar_layout _ _)
  | infinite negative => exact startsScalar_sign_append (startsScalar_cons (by decide))
  | nan payload => exact startsScalar_cons (by decide)

theorem Decimal.startsScalar_magnitudeText (coefficient : Nat) (exponent : Int) :
    StartsScalar (magnitudeText coefficient exponent) := by
  unfold magnitudeText
  dsimp only
  split
  · exact startsScalar_digits coefficient
  · split
    · exact startsScalar_withPoint _ _
    · apply StartsScalar.append
      split
      · exact startsScalar_digits coefficient
      · exact startsScalar_withPoint _ _

theorem Decimal.startsScalar_text (d : Decimal) : StartsScalar d.text := by
  cases d with
  | finite negative coefficient exponent =>
    exact startsScalar_sign_append (startsScalar_magnitudeText _ _)
  | infinite negative => exact startsScalar_sign_append (startsScalar_cons (by decide))
  | nan negative signaling payload =>
    rw [text, List.append_assoc]
    refine startsScalar_sign_append (StartsScalar.append ?_ _)
    cases signaling
    · exact startsScalar_cons (by decide)
    · exact startsScalar_cons (by decide)

theorem Number.startsScalar_text (n : Number) : StartsScalar n.text := by
  cases n with
  | int n => exact startsScalar_sign_append (startsScalar_digits _)
  | double x => exact x.startsScalar_text
  | decimal d => exact d.startsScalar_text

theorem Date.startsScalar_text (d : Date) : StartsScalar d.text := by
  rw [text, List.append_assoc]
  exact (startsScalar_padded 4 d.year).append _

theorem Timestamp.startsScalar_text (t : Timestamp) : StartsScalar t.text := by
  simp only [text, List.append_assoc]
  exact t.date.startsScalar_text.append _

/-- Whether a text starts like that of octets: a letter and a quote. -/
def StartsOctets (s : List Char) : Prop := ∃ q r, s = 'b' :: q :: r ∧ (q = '\'' ∨ q = '"')

/-- The text of octets never starts like a name. -/
theorem startsOctets_quotedOctets (octets : List UInt8) :
    StartsOctets (Text.quotedOctets octets) := by
  refine ⟨_, _, rfl, ?_⟩
  unfold Text.quoteFor
  split
  · exact .inr rfl
  · exact .inl rfl

/-- The text of a scalar that is no text. -/
theorem Scalar.exists_of_ne_str {k : Scalar} (hk : ∀ s, k ≠ .str s) :
    ∃ s, k.text = .ofChars s ∧ (StartsScalar s ∨ StartsOctets s) := by
  cases k with
  | null => exact ⟨_, rfl, .inl (startsScalar_cons (by decide))⟩
  | bool b => cases b <;> exact ⟨_, rfl, .inl (startsScalar_cons (by decide))⟩
  | number n => exact ⟨_, rfl, .inl n.startsScalar_text⟩
  | str s => exact absurd rfl (hk s)
  | bytes octets => exact ⟨_, rfl, .inr (startsOctets_quotedOctets octets)⟩
  | date d => exact ⟨_, rfl, .inl d.startsScalar_text⟩
  | timestamp t => exact ⟨_, rfl, .inl t.startsScalar_text⟩

/-- Whether a text cannot be that of a scalar of another kind: it starts like none, and a
letter is all that octets share with it. -/
def Text.isName : Text → Bool
  | .char c :: s => !startsScalar c && s.head? != some (.char '\'') && s.head? != some (.char '"')
  | _ => false

/-- Only the name itself has the text of a name. -/
theorem Scalar.text_eq_name_iff {k : Scalar} {name : Text} (hname : name.isName = true) :
    k.text = name ↔ k = .str name := by
  have hother : (∀ s, k ≠ .str s) → k.text ≠ name := by
    rintro hk rfl
    obtain ⟨s, hs, ⟨c, hc, hstarts⟩ | ⟨q, r, rfl, hq⟩⟩ := exists_of_ne_str hk
    · rw [hs] at hname
      cases s with
      | nil => cases hc
      | cons d s =>
        cases hc
        simp [Text.isName, Text.ofChars, hstarts] at hname
    · rw [hs] at hname
      rcases hq with rfl | rfl <;> simp [Text.isName, Text.ofChars] at hname
  cases k with
  | str s => exact ⟨congrArg str, fun h => Scalar.str.inj h⟩
  | _ =>
    refine ⟨fun h => absurd h (hother ?_), fun h => by cases h⟩
    intro s hs
    cases hs

namespace Config

/-! ## Unknown keys -/

theorem mem_insertName {x name : Text} {names : List Text} :
    x ∈ insertName name names ↔ x = name ∨ x ∈ names := by
  induction names with
  | nil => simp [insertName]
  | cons y names ih =>
    unfold insertName
    split
    · next h => simp [h]
    · split
      · simp
      · rw [List.mem_cons, ih, List.mem_cons, or_left_comm]

/-- Sorting keeps all names and brings no others. -/
theorem mem_sortedNames {x : Text} {names : List Text} : x ∈ sortedNames names ↔ x ∈ names := by
  induction names with
  | nil => rfl
  | cons y names ih =>
    rw [sortedNames, List.foldr_cons, mem_insertName, List.mem_cons]
    exact or_congr_right ih

/-- No name is unknown if the texts of all keys are allowed. -/
theorem unknownNames_eq_nil_iff {allowed : List Text} {entries : Entries} :
    unknownNames allowed entries = [] ↔ ∀ k ∈ entries.keys, k.text ∈ allowed := by
  simp [List.eq_nil_iff_forall_not_mem, unknownNames, mem_sortedNames]

/-- A mapping passes the check if its keys are known names. -/
theorem checkNames_eq_ok_iff {key : KeyPath} {kind : Option Text} {allowed : List Text}
    {entries : Entries} (hallowed : ∀ name ∈ allowed, Text.isName name = true) :
    checkNames key kind allowed entries = .ok () ↔
      ∀ k ∈ entries.keys, ∃ name ∈ allowed, k = .str name := by
  have htext : ∀ {k : Scalar}, k.text ∈ allowed → k = .str k.text := fun h =>
    (Scalar.text_eq_name_iff (hallowed _ h)).1 rfl
  unfold checkNames
  constructor
  · intro h k hk
    split at h
    · split at h
      · next hnil =>
        have hmem := unknownNames_eq_nil_iff.1 hnil k hk
        exact ⟨k.text, hmem, htext hmem⟩
      · cases h
    · cases h
  · intro h
    have hwritable : entries.keys.all Scalar.isWritable = true := by
      rw [List.all_eq_true]
      intro k hk
      obtain ⟨name, -, rfl⟩ := h k hk
      rfl
    have hnil : unknownNames allowed entries = [] := by
      rw [unknownNames_eq_nil_iff]
      intro k hk
      obtain ⟨name, hmem, rfl⟩ := h k hk
      exact hmem
    rw [if_pos hwritable, hnil]

end Config

end LuceneQuery
