import LuceneQuery.Value.Mapping

/-!
# Looking up keys

*One key.*  Being one key is symmetric and transitive (`Scalar.sameKey_symm`,
`Scalar.sameKey_trans`), so a mapping gives the same answer for all scalars that
are one key (`Entries.find?_congr`).  Only a decimal that is not a number is not one
key with itself (`Scalar.sameKey_self`).

*Writing.*  A written key is found with its new value and no other key is touched
(`Entries.find?_insert`).

*Well-keyed mappings.*  No two keys of a mapping are one key, and each is one with
itself.  Such a mapping is fixed by its keys in their order and by what is found
under them (`Entries.WellKeyed.ext`).  A value is well-keyed if all mappings in it
are.
-/

namespace LuceneQuery

/-! ## One key -/

namespace Decimal

variable {a b c : Decimal}

theorem sameValue_symm (h : a.sameValue b = true) : b.sameValue a = true := by
  cases a with
  | finite s m e =>
    cases b with
    | finite t n f =>
      simp only [sameValue, Bool.and_eq_true, Bool.or_eq_true, beq_iff_eq] at h ⊢
      obtain ⟨hreduced, hsign⟩ := h
      rw [hreduced] at hsign
      exact ⟨hreduced.symm, hsign.imp_left Eq.symm⟩
    | _ => cases h
  | infinite s =>
    cases b with
    | infinite t =>
      simp only [sameValue, beq_iff_eq] at h ⊢
      exact h.symm
    | _ => cases h
  | nan => cases h

theorem sameValue_trans (hab : a.sameValue b = true) (hbc : b.sameValue c = true) :
    a.sameValue c = true := by
  cases b with
  | finite t n f =>
    cases a with
    | finite s m e =>
      cases c with
      | finite u k g =>
        simp only [sameValue, Bool.and_eq_true, Bool.or_eq_true, beq_iff_eq] at hab hbc ⊢
        obtain ⟨hreduced, hsign⟩ := hab
        obtain ⟨hreduced', hsign'⟩ := hbc
        rw [← hreduced] at hsign'
        refine ⟨hreduced.trans hreduced', ?_⟩
        rcases hsign with rfl | hzero
        · exact hsign'
        · exact .inr hzero
      | _ => cases hbc
    | _ => cases hab
  | infinite t =>
    cases a with
    | infinite s =>
      cases c with
      | infinite u =>
        simp only [sameValue, beq_iff_eq] at hab hbc ⊢
        exact hab.trans hbc
      | _ => cases hbc
    | _ => cases hab
  | nan => cases hbc

end Decimal

namespace Number

variable {a b c : Number}

/-- Two numbers are one key if they are one double that is not a number or have one
value. -/
theorem sameKey_iff :
    a.sameKey b = true ↔
      (∃ p, a = .double (.nan p) ∧ b = .double (.nan p)) ∨ a.exact.sameValue b.exact = true := by
  unfold sameKey
  split
  · next p q =>
    constructor
    · intro h
      obtain rfl := beq_iff_eq.1 h
      exact .inl ⟨p, rfl, rfl⟩
    · rintro (⟨r, ⟨⟩, ⟨⟩⟩ | hvalue)
      · exact beq_self_eq_true p
      · cases hvalue
  · next h =>
    constructor
    · exact .inr
    · rintro (⟨p, rfl, rfl⟩ | hvalue)
      · exact absurd rfl (h p p rfl)
      · exact hvalue

theorem sameKey_symm (h : a.sameKey b = true) : b.sameKey a = true := by
  rw [sameKey_iff] at h ⊢
  rcases h with ⟨p, rfl, rfl⟩ | hvalue
  · exact .inl ⟨p, rfl, rfl⟩
  · exact .inr (Decimal.sameValue_symm hvalue)

theorem sameKey_trans (hab : a.sameKey b = true) (hbc : b.sameKey c = true) :
    a.sameKey c = true := by
  rw [sameKey_iff] at hab hbc ⊢
  rcases hab with ⟨p, rfl, rfl⟩ | hvalue
  · exact hbc
  · rcases hbc with ⟨q, rfl, rfl⟩ | hvalue'
    · exact .inr hvalue
    · exact .inr (Decimal.sameValue_trans hvalue hvalue')

theorem sameKey_self (h : ∀ d, a ≠ .decimal d) : a.sameKey a = true := by
  rw [sameKey_iff]
  cases a with
  | int n => exact .inr (by simp [exact, Decimal.sameValue])
  | double x =>
    cases x with
    | finite s m e canonical => exact .inr (by simp [exact, Decimal.sameValue])
    | infinite s => exact .inr (by simp [exact, Decimal.sameValue])
    | nan p => exact .inl ⟨p, rfl, rfl⟩
  | decimal d => exact absurd rfl (h d)

end Number

namespace Timestamp

variable {a b c : Timestamp}

theorem sameKey_self : a.sameKey a = true := by
  unfold sameKey
  cases a.offset <;> simp

theorem sameKey_symm (h : a.sameKey b = true) : b.sameKey a = true := by
  unfold sameKey at h ⊢
  split at h <;> simp_all

theorem sameKey_trans (hab : a.sameKey b = true) (hbc : b.sameKey c = true) :
    a.sameKey c = true := by
  unfold sameKey at hab hbc ⊢
  split at hab <;> split at hbc <;> simp_all

end Timestamp

namespace Scalar

variable {a b c : Scalar}

/-- The ways in which two scalars are one key. -/
inductive OneKey : Scalar → Scalar → Prop where
  /-- They count as numbers that are one key. -/
  | number {a b : Scalar} {m n : Number} (ha : a.asNumber? = some m) (hb : b.asNumber? = some n)
      (h : m.sameKey n = true) : OneKey a b
  /-- They are times that are one key. -/
  | timestamp {s t : Timestamp} (h : s.sameKey t = true) : OneKey (.timestamp s) (.timestamp t)
  /-- They are one scalar that is no number. -/
  | refl {a : Scalar} (h : a.asNumber? = none) : OneKey a a

theorem sameKey_iff : a.sameKey b = true ↔ OneKey a b := by
  unfold sameKey
  constructor
  · intro h
    split at h
    · next m n ha hb => exact .number ha hb h
    · next ha hb =>
      split at h
      · exact .timestamp h
      · obtain rfl := beq_iff_eq.1 h
        exact .refl ha
    · cases h
  · rintro (⟨ha, hb, h⟩ | h | h)
    · simpa [ha, hb] using h
    · simpa [asNumber?] using h
    · rw [h]
      dsimp only
      split
      · exact Timestamp.sameKey_self
      · exact beq_self_eq_true a

theorem sameKey_symm (h : a.sameKey b = true) : b.sameKey a = true := by
  rw [sameKey_iff] at h ⊢
  cases h with
  | number ha hb h => exact .number hb ha (Number.sameKey_symm h)
  | timestamp h => exact .timestamp (Timestamp.sameKey_symm h)
  | refl h => exact .refl h

theorem sameKey_trans (hab : a.sameKey b = true) (hbc : b.sameKey c = true) :
    a.sameKey c = true := by
  rw [sameKey_iff] at hab hbc ⊢
  cases hab with
  | number ha hb h =>
    cases hbc with
    | number hb' hc h' =>
      obtain rfl := Option.some.inj (hb.symm.trans hb')
      exact .number ha hc (Number.sameKey_trans h h')
    | timestamp => cases hb
    | refl h' => cases hb.symm.trans h'
  | timestamp h =>
    cases hbc with
    | number hb => cases hb
    | timestamp h' => exact .timestamp (Timestamp.sameKey_trans h h')
    | refl => exact .timestamp h
  | refl => exact hbc

theorem sameKey_self (h : ∀ d, a ≠ .number (.decimal d)) : a.sameKey a = true := by
  rw [sameKey_iff]
  cases hn : a.asNumber? with
  | none => exact .refl hn
  | some n =>
    refine .number hn hn (Number.sameKey_self ?_)
    rintro d rfl
    cases a with
    | number n =>
      cases hn
      exact h d rfl
    | _ => cases hn

theorem sameKey_self_str (s : Text) : (Scalar.str s).sameKey (.str s) = true :=
  sameKey_self fun _ heq => nomatch heq

end Scalar

/-! ## Writing -/

namespace Entries

variable {entries : Entries} {k l : Scalar} {v : Value}

theorem find?_cons (j : Scalar) (w : Value) (rest : Entries) :
    find? k ((j, w) :: rest) = if j.sameKey k = true then some w else rest.find? k := rfl

/-- Two scalars that are one key find the same value. -/
theorem find?_congr (h : k.sameKey l = true) : entries.find? k = entries.find? l := by
  induction entries with
  | nil => rfl
  | cons entry entries ih =>
    obtain ⟨j, w⟩ := entry
    have hiff : j.sameKey k = true ↔ j.sameKey l = true :=
      ⟨fun hj => Scalar.sameKey_trans hj h,
        fun hj => Scalar.sameKey_trans hj (Scalar.sameKey_symm h)⟩
    simp only [find?_cons, hiff, ih]

/-- An entry that is written is found under its key, and the others stay. -/
theorem find?_insert :
    (entries.insert k v).find? l = if k.sameKey l = true then some v else entries.find? l := by
  induction entries with
  | nil => rfl
  | cons entry entries ih =>
    obtain ⟨j, w⟩ := entry
    unfold insert
    split
    · next hjk =>
      -- The old form of the key stays, so what it finds must be what the new form finds.
      have hiff : j.sameKey l = true ↔ k.sameKey l = true :=
        ⟨Scalar.sameKey_trans (Scalar.sameKey_symm hjk), Scalar.sameKey_trans hjk⟩
      simp only [find?_cons, hiff]
      split <;> rfl
    · next hjk =>
      simp only [find?_cons, ih]
      split
      · next hjl =>
        rw [if_neg fun hkl => hjk (Scalar.sameKey_trans hjl (Scalar.sameKey_symm hkl))]
      · rfl

/-- A value is found under the keys that are there. -/
theorem isSome_find?_iff :
    (entries.find? k).isSome = true ↔ ∃ j ∈ entries.keys, j.sameKey k = true := by
  induction entries with
  | nil => simp [find?, keys]
  | cons entry entries ih =>
    obtain ⟨j, w⟩ := entry
    rw [find?_cons]
    split
    · next hjk => simp [keys, hjk]
    · next hjk =>
      rw [ih]
      simp [keys, hjk]

/-- None is found under the keys that are not. -/
theorem find?_eq_none_iff : entries.find? k = none ↔ ∀ j ∈ entries.keys, j.sameKey k = false := by
  rw [← Option.not_isSome_iff_eq_none, isSome_find?_iff]
  simp

/-- A value that is found is that of an entry. -/
theorem exists_mem_of_find?_eq_some (h : entries.find? k = some v) : ∃ j, (j, v) ∈ entries := by
  induction entries with
  | nil => cases h
  | cons entry entries ih =>
    obtain ⟨j, w⟩ := entry
    rw [find?_cons] at h
    split at h
    · cases h
      exact ⟨j, List.mem_cons_self⟩
    · obtain ⟨i, hi⟩ := ih h
      exact ⟨i, List.mem_cons_of_mem _ hi⟩

/-- A key that is there keeps its place and its form, and another one comes last. -/
theorem keys_insert :
    (entries.insert k v).keys =
      if (entries.find? k).isSome = true then entries.keys else entries.keys ++ [k] := by
  induction entries with
  | nil => rfl
  | cons entry entries ih =>
    obtain ⟨j, w⟩ := entry
    unfold insert
    rw [find?_cons]
    split
    · simp [keys]
    · simp only [keys, List.map_cons] at ih ⊢
      rw [ih]
      split <;> rfl

/-- An entry that is written brings no value but its own. -/
theorem mem_insert {entry : Scalar × Value} (h : entry ∈ entries.insert k v) :
    entry.2 = v ∨ entry ∈ entries := by
  induction entries with
  | nil => simp_all [insert]
  | cons e entries ih =>
    obtain ⟨j, w⟩ := e
    unfold insert at h
    split at h
    · rcases List.mem_cons.1 h with rfl | h
      · exact .inl rfl
      · exact .inr (List.mem_cons_of_mem _ h)
    · rcases List.mem_cons.1 h with rfl | h
      · exact .inr List.mem_cons_self
      · exact (ih h).imp_right (List.mem_cons_of_mem _)

/-! ## Well-keyed mappings -/

/-- Whether a mapping holds each of its keys once. -/
structure WellKeyed (entries : Entries) : Prop where
  apart : entries.keys.Pairwise fun j k => j.sameKey k = false
  itself : ∀ k ∈ entries.keys, k.sameKey k = true

instance (entries : Entries) : Decidable entries.WellKeyed :=
  decidable_of_iff
    (entries.keys.Pairwise (fun j k => j.sameKey k = false) ∧
      ∀ k ∈ entries.keys, k.sameKey k = true)
    ⟨fun h => ⟨h.1, h.2⟩, fun h => ⟨h.apart, h.itself⟩⟩

theorem wellKeyed_nil : WellKeyed [] := ⟨.nil, List.forall_mem_nil _⟩

/-- A well-keyed mapping has its first key once, and is well-keyed behind it. -/
theorem wellKeyed_cons_iff {rest : Entries} :
    WellKeyed ((k, v) :: rest) ↔
      (∀ j ∈ rest.keys, k.sameKey j = false) ∧ k.sameKey k = true ∧ rest.WellKeyed := by
  constructor
  · rintro ⟨hapart, hitself⟩
    obtain ⟨hk, hrest⟩ := List.pairwise_cons.1 hapart
    refine ⟨hk, hitself k List.mem_cons_self, hrest, ?_⟩
    exact fun j hj => hitself j (List.mem_cons_of_mem _ hj)
  · rintro ⟨hk, hself, hrest⟩
    refine ⟨List.pairwise_cons.2 ⟨hk, hrest.apart⟩, ?_⟩
    intro j hj
    rcases List.mem_cons.1 hj with rfl | hj
    · exact hself
    · exact hrest.itself j hj

theorem WellKeyed.insert (h : entries.WellKeyed) (hk : k.sameKey k = true) :
    (entries.insert k v).WellKeyed := by
  have hkeys : (entries.insert k v).keys = _ := keys_insert
  split at hkeys
  · exact ⟨hkeys ▸ h.apart, hkeys ▸ h.itself⟩
  · next hnone =>
    have hapart := find?_eq_none_iff.1 (Option.not_isSome_iff_eq_none.1 hnone)
    constructor
    · rw [hkeys, List.pairwise_append]
      refine ⟨h.apart, List.pairwise_singleton _ _, ?_⟩
      intro j hj i hi
      rw [List.mem_singleton.1 hi]
      exact hapart j hj
    · intro j hj
      rw [hkeys, List.mem_append, List.mem_singleton] at hj
      rcases hj with hj | rfl
      · exact h.itself j hj
      · exact hk

/-- In a well-keyed mapping each key finds a value. -/
theorem WellKeyed.isSome_find? (h : entries.WellKeyed) (hk : k ∈ entries.keys) :
    (entries.find? k).isSome = true :=
  isSome_find?_iff.2 ⟨k, hk, h.itself k hk⟩

/-- Two mappings with the same keys in the same order are one if the same values are
found in them. -/
theorem WellKeyed.ext {entries entries' : Entries} (h : entries.WellKeyed)
    (hkeys : entries'.keys = entries.keys)
    (hfind : ∀ k ∈ entries.keys, entries'.find? k = entries.find? k) : entries' = entries := by
  induction entries generalizing entries' with
  | nil => exact List.map_eq_nil_iff.1 hkeys
  | cons entry entries ih =>
    obtain ⟨k, v⟩ := entry
    obtain ⟨hk, hself, hrest⟩ := wellKeyed_cons_iff.1 h
    cases entries' with
    | nil => cases hkeys
    | cons entry' entries' =>
      obtain ⟨k', v'⟩ := entry'
      simp only [keys, List.map_cons, List.cons.injEq] at hkeys
      obtain ⟨rfl, hkeys⟩ := hkeys
      have hvalue := hfind k' List.mem_cons_self
      rw [find?_cons, find?_cons, if_pos hself, if_pos hself] at hvalue
      have hentries : entries' = entries := by
        refine ih hrest hkeys ?_
        intro j hj
        have hj' := hfind j (List.mem_cons_of_mem _ hj)
        rw [find?_cons, find?_cons, hk j hj] at hj'
        exact hj'
      rw [Option.some.inj hvalue, hentries]

end Entries

/-- Whether all mappings in a value are well-keyed. -/
inductive Value.WellKeyed : Value → Prop where
  | scalar (s : Scalar) : WellKeyed (.scalar s)
  | list {items : List Value} (h : ∀ v ∈ items, WellKeyed v) : WellKeyed (.list items)
  | pair {a b : Value} (ha : WellKeyed a) (hb : WellKeyed b) : WellKeyed (.pair a b)
  | set (members : List Scalar) : WellKeyed (.set members)
  | map {entries : Entries} (hkeys : entries.WellKeyed) (h : ∀ e ∈ entries, WellKeyed e.2) :
      WellKeyed (.map entries)

theorem Value.wellKeyed_map_nil : (Value.map []).WellKeyed :=
  .map Entries.wellKeyed_nil (List.forall_mem_nil _)

theorem Value.WellKeyed.singleton {k : Scalar} {v : Value} (hk : k.sameKey k = true)
    (hv : v.WellKeyed) : (Value.map [(k, v)]).WellKeyed := by
  refine .map (Entries.wellKeyed_cons_iff.2 ?_) ?_
  · exact ⟨List.forall_mem_nil _, hk, Entries.wellKeyed_nil⟩
  · simpa only [List.forall_mem_singleton] using hv

/-- The entries of a well-keyed mapping are well-keyed. -/
theorem Value.WellKeyed.entries {entries : Entries} (h : (Value.map entries).WellKeyed) :
    entries.WellKeyed := by
  cases h with
  | map hkeys _ => exact hkeys

/-- The items of a well-keyed list are well-keyed. -/
theorem Value.WellKeyed.of_mem {items : List Value} {v : Value} (h : (Value.list items).WellKeyed)
    (hv : v ∈ items) : v.WellKeyed := by
  cases h with
  | list hitems => exact hitems v hv

theorem Value.wellKeyed_list_iff {items : List Value} :
    (Value.list items).WellKeyed ↔ ∀ v ∈ items, v.WellKeyed :=
  ⟨fun h _ hv => h.of_mem hv, .list⟩

/-- A mapping is well-keyed if its entries and their values are. -/
theorem Value.wellKeyed_map_iff {entries : Entries} :
    (Value.map entries).WellKeyed ↔ entries.WellKeyed ∧ ∀ e ∈ entries, e.2.WellKeyed := by
  constructor
  · intro h
    cases h with
    | map hkeys hvalues => exact ⟨hkeys, hvalues⟩
  · rintro ⟨hkeys, hvalues⟩
    exact .map hkeys hvalues

/-- What is found in a well-keyed mapping is well-keyed. -/
theorem Value.WellKeyed.of_find? {entries : Entries} {k : Scalar} {v : Value}
    (h : (Value.map entries).WellKeyed) (hv : entries.find? k = some v) : v.WellKeyed := by
  obtain ⟨j, hj⟩ := Entries.exists_mem_of_find?_eq_some hv
  cases h with
  | map _ hvalues => exact hvalues _ hj

end LuceneQuery
