import LuceneQuery.Proofs.Value.Lookup
import LuceneQuery.Proofs.Value.Mapping

/-!
# Entries that are null

Where an entry may be left out, null says that it is.  The *sparse* form of a mapping
has no such entry.  It answers each question that does not tell null from nothing as the
mapping itself does (`present?_sparse`), and under a key that may not be left out it
holds what the mapping holds (`get?_sparse`).  The check for unknown keys sees no
difference as long as the keys that may be left out are known (`checkNames_sparse`).
-/

namespace LuceneQuery

namespace Entries

/-- The entries without those that are null under a key that may be left out. -/
def sparse (optional : Scalar → Bool) (entries : Entries) : Entries :=
  entries.filter fun e => !(optional e.1 && e.2.isNull)

/-- The entries with each value changed as its key says. -/
def mapValues (f : Scalar → Value → Value) (entries : Entries) : Entries :=
  entries.map fun e => (e.1, f e.1 e.2)

variable {entries rest : Entries} {optional : Scalar → Bool} {f : Scalar → Value → Value}
  {k : Scalar} {v : Value} {name : Text}

/-! ## Looking up -/

theorem get?_cons :
    get? ((k, v) :: rest) name = if k = .str name then some v else get? rest name := by
  simp [get?, find?, Scalar.sameKey_str_iff]

theorem get?_cons_self : get? ((.str name, v) :: rest) name = some v := by
  simp [get?_cons]

theorem get?_cons_of_ne (hk : k ≠ .str name) : get? ((k, v) :: rest) name = rest.get? name := by
  simp [get?_cons, hk]

theorem get?_eq_none (h : .str name ∉ entries.keys) : entries.get? name = none := by
  simpa using mt isSome_get?_iff.1 h

/-- What is present is found and not null. -/
theorem present?_eq_filter :
    entries.present? name = (entries.get? name).filter fun v => !v.isNull := by
  simp only [present?]
  generalize entries.get? name = found
  cases found with
  | none => rfl
  | some v => cases v with
    | scalar s => cases s <;> rfl
    | _ => rfl

/-- What is present under a name depends on nothing but the entry of this name. -/
theorem present?_congr {entries' : Entries} (h : entries'.get? name = entries.get? name) :
    entries'.present? name = entries.present? name := by
  simp only [present?, h]

/-! ## Changed values -/

@[simp] theorem keys_mapValues : (entries.mapValues f).keys = entries.keys := by
  simp [keys, mapValues]

/-- The values of a mapping are changed under their keys. -/
theorem get?_mapValues :
    (entries.mapValues f).get? name = (entries.get? name).map (f (.str name)) := by
  induction entries with
  | nil => rfl
  | cons e rest ih =>
    obtain ⟨k, v⟩ := e
    by_cases hk : k = .str name
    · simp [mapValues, get?_cons, hk]
    · simpa [mapValues, get?_cons, hk] using ih

/-- Changes that keep null and make nothing null keep what is present. -/
theorem present?_mapValues (hf : ∀ k v, (f k v).isNull = v.isNull) :
    (entries.mapValues f).present? name = (entries.present? name).map (f (.str name)) := by
  simp only [present?_eq_filter, get?_mapValues]
  cases entries.get? name with
  | none => rfl
  | some v => cases hv : v.isNull <;> simp [Option.filter_some, hf, hv]

theorem WellKeyed.mapValues (h : entries.WellKeyed) : (entries.mapValues f).WellKeyed :=
  ⟨by simpa using h.apart, by simpa using h.itself⟩

/-! ## The sparse form -/

/-- An entry is left out if its key is optional and its value is null. -/
theorem sparse_cons :
    sparse optional ((k, v) :: rest) =
      if optional k = true ∧ v.isNull = true then rest.sparse optional
      else (k, v) :: rest.sparse optional := by
  cases hk : optional k <;> cases hv : v.isNull <;> simp [sparse, hk, hv]

/-- A key that may not be left out is found with the same value. -/
theorem get?_sparse (hname : optional (.str name) = false) :
    (entries.sparse optional).get? name = entries.get? name := by
  induction entries with
  | nil => rfl
  | cons e rest ih =>
    obtain ⟨k, v⟩ := e
    rw [sparse_cons]
    split
    · next hleft =>
      have hk : k ≠ .str name := by
        rintro rfl
        simp [hname] at hleft
      rw [ih, get?_cons_of_ne hk]
    · simp only [get?_cons, ih]

theorem keys_sparse_subset : (entries.sparse optional).keys ⊆ entries.keys := by
  intro k hk
  obtain ⟨e, he, rfl⟩ := List.mem_map.1 hk
  exact List.mem_map_of_mem (List.mem_filter.1 he).1

/-- What is left out was not present before. -/
theorem present?_sparse (h : entries.WellKeyed) :
    (entries.sparse optional).present? name = entries.present? name := by
  induction entries with
  | nil => rfl
  | cons e rest ih =>
    obtain ⟨k, v⟩ := e
    obtain ⟨hapart, -, hrest⟩ := wellKeyed_cons_iff.1 h
    by_cases hk : k = .str name
    · subst hk
      -- The name does not come again, so nothing else shows where its null is left out.
      have hnone : (sparse optional rest).get? name = none := by
        refine get?_eq_none fun hmem => ?_
        simpa [Scalar.sameKey_self_str] using hapart _ (keys_sparse_subset hmem)
      rw [sparse_cons]
      split
      · next hleft => simp [present?_eq_filter, get?_cons_self, hnone, Option.filter_some, hleft]
      · exact present?_congr (get?_cons_self.trans get?_cons_self.symm)
    · have hcons : present? ((k, v) :: rest) name = present? rest name :=
        present?_congr (get?_cons_of_ne hk)
      rw [sparse_cons, hcons, ← ih hrest]
      split
      · rfl
      · exact present?_congr (get?_cons_of_ne hk)

/-- Where null counts as missing, leaving it out changes nothing. -/
theorem getOr_sparse (h : entries.WellKeyed) {default : Value} :
    (entries.sparse optional).getOr name default = entries.getOr name default := by
  simp only [getOr, present?_sparse h]

end Entries

namespace Config

/-! ## Unknown keys -/

/-- The check for unknown keys sees keys alone. -/
theorem checkNames_congr {key : KeyPath} {kind : Option Text} {allowed : List Text}
    {entries entries' : Entries} (h : entries'.keys = entries.keys) :
    checkNames key kind allowed entries' = checkNames key kind allowed entries := by
  simp only [checkNames, unknownNames, h]

/-- Known keys that are left out change nothing about the unknown ones. -/
theorem checkNames_sparse {key : KeyPath} {kind : Option Text} {allowed : List Text}
    {entries : Entries} {optional : Scalar → Bool}
    (h : ∀ k, optional k = true → ∃ name ∈ allowed, k = .str name) :
    checkNames key kind allowed (entries.sparse optional) =
      checkNames key kind allowed entries := by
  have hkeys : (entries.sparse optional).keys.all Scalar.isWritable =
        entries.keys.all Scalar.isWritable ∧
      ((entries.sparse optional).keys.map Scalar.text).filter (fun s => !allowed.contains s) =
        (entries.keys.map Scalar.text).filter fun s => !allowed.contains s := by
    induction entries with
    | nil => exact ⟨rfl, rfl⟩
    | cons e rest ih =>
      obtain ⟨k, v⟩ := e
      rw [Entries.sparse_cons]
      split
      · next hleft =>
        obtain ⟨name, hname, rfl⟩ := h k hleft.1
        simpa [Entries.keys, Scalar.isWritable, Scalar.text, hname] using ih
      · simp only [Entries.keys] at ih
        simp only [Entries.keys, List.map_cons, List.all_cons, List.filter_cons, ih, and_self]
  simp only [checkNames, unknownNames, hkeys]

end Config

end LuceneQuery
