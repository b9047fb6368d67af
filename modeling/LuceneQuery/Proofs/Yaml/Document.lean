import LuceneQuery.Proofs.Value.Lookup
import LuceneQuery.Yaml.Document

/-!
# Mappings in documents

No plain scalar is a decimal, so each key in a document is one key with itself.  A
mapping is written pair by pair, and a pair never adds a key that is there.  So all
mappings in the value of a document are well-keyed, whatever its text is
(`wellKeyed_of_read`).
-/

namespace LuceneQuery

/-- An entry keeps a mapping well-keyed if its key is one with itself. -/
theorem Value.WellKeyed.insert {entries : Entries} {k : Scalar} {v : Value}
    (h : (Value.map entries).WellKeyed) (hk : k.sameKey k = true) (hv : v.WellKeyed) :
    (Value.map (entries.insert k v)).WellKeyed := by
  cases h with
  | map hkeys hvalues =>
    refine .map (hkeys.insert hk) fun e he => ?_
    rcases Entries.mem_insert he with heq | he
    · rwa [heq]
    · exact hvalues e he

/-- Pairs write a well-keyed mapping, also where one key comes more than once. -/
theorem Value.WellKeyed.ofList {pairs : List (Scalar × Value)}
    (h : ∀ e ∈ pairs, e.1.sameKey e.1 = true ∧ e.2.WellKeyed) :
    (Value.map (Entries.ofList pairs)).WellKeyed := by
  -- What the pairs write into is general, as it grows with each of them.
  have hfold (entries : Entries) (hentries : (Value.map entries).WellKeyed) :
      (Value.map (pairs.foldl (fun es e => Entries.insert e.1 e.2 es) entries)).WellKeyed := by
    induction pairs generalizing entries with
    | nil => exact hentries
    | cons e pairs ih =>
      obtain ⟨⟨hk, hv⟩, hpairs⟩ := List.forall_mem_cons.1 h
      exact ih hpairs _ (hentries.insert hk hv)
  exact hfold [] wellKeyed_map_nil

namespace Yaml

section

variable {ε ε' α β : Type} {x : Except ε α}

theorem map_eq_ok_iff {f : α → β} {b : β} : x.map f = .ok b ↔ ∃ a, x = .ok a ∧ f a = b := by
  cases x <;> simp [Except.map]

theorem mapError_eq_ok_iff {f : ε → ε'} {a : α} : x.mapError f = .ok a ↔ x = .ok a := by
  cases x with
  | ok b =>
    constructor
    · rintro ⟨⟩
      rfl
    · rintro ⟨⟩
      rfl
  | error e => constructor <;> rintro ⟨⟩

end

/-! ## Keys -/

/-- No time is a number. -/
theorem Timestamp.ne_number_of_scalar {fields : Fields} {s : Scalar}
    (h : scalar fields = .ok s) (n : Number) : s ≠ .number n := by
  rintro rfl
  unfold scalar at h
  simp only [bind, Except.bind] at h
  split at h
  · split at h <;> cases h
  · split at h
    · cases h
    · split at h
      · cases h
      · split at h <;> cases h

/-- No plain scalar is a decimal, so each is one key with itself. -/
theorem sameKey_self_of_plainScalar {text : List Char} {s : Scalar}
    (h : plainScalar text = .ok s) : s.sameKey s = true := by
  refine Scalar.sameKey_self ?_
  rintro d rfl
  unfold plainScalar at h
  dsimp only at h
  split at h
  · cases h
  split at h
  · cases h
  split at h
  · cases h
  split at h
  · cases h
  split at h
  · obtain ⟨x, -, hx⟩ := map_eq_ok_iff.1 h
    cases hx
  · obtain ⟨n, -, hn⟩ := map_eq_ok_iff.1 h
    cases hn
  · exact Timestamp.ne_number_of_scalar h _ rfl
  · cases h

theorem Node.sameKey_self_of_keyValue {n : Node} {k : Scalar} (h : n.keyValue = .ok k) :
    k.sameKey k = true := by
  cases n with
  | plain text =>
    have hkey : keyOf text = .ok k := mapError_eq_ok_iff.1 h
    unfold keyOf at hkey
    split at hkey
    · cases hkey
      exact Scalar.sameKey_self_str _
    · exact sameKey_self_of_plainScalar hkey
  | quoted text =>
    cases h
    exact Scalar.sameKey_self_str _
  | _ => cases h

/-! ## Trees -/

namespace Node

theorem both_eq_ok_iff {α β γ : Type} {f : α → β → γ} {x : Except Misfit α} {y : Except Misfit β}
    {c : γ} : both f x y = .ok c ↔ ∃ a b, x = .ok a ∧ y = .ok b ∧ f a b = c := by
  cases x <;> cases y <;> simp [both]

mutual

/-- The value of a node is well-keyed, and so are those of the nodes in it. -/
theorem wellKeyed_of_value : ∀ {n : Node} {v : Value}, n.value = .ok v → v.WellKeyed
  | .plain text, v, h => by
    unfold value at h
    split at h
    · cases h
      exact .scalar _
    · cases h
  | .quoted text, v, h => by
    unfold value at h
    cases h
    exact .scalar _
  | .sequence items, v, h => by
    unfold value at h
    obtain ⟨vs, hvs, rfl⟩ := map_eq_ok_iff.1 (mapError_eq_ok_iff.1 h)
    exact .list (wellKeyed_of_values hvs)
  | .mapping pairs, v, h => by
    unfold value at h
    obtain ⟨es, hes, rfl⟩ := map_eq_ok_iff.1 (mapError_eq_ok_iff.1 h)
    exact .ofList (wellKeyed_of_entries hes)

theorem wellKeyed_of_values :
    ∀ {items : List Node} {vs : List Value}, values items = .ok vs → ∀ v ∈ vs, v.WellKeyed
  | [], vs, h => by
    unfold values at h
    cases h
    exact List.forall_mem_nil _
  | n :: items, vs, h => by
    unfold values at h
    obtain ⟨v, vs, hv, hvs, rfl⟩ := both_eq_ok_iff.1 h
    exact List.forall_mem_cons.2 ⟨wellKeyed_of_value hv, wellKeyed_of_values hvs⟩

theorem wellKeyed_of_entries :
    ∀ {pairs : List (Node × Node)} {es : List (Scalar × Value)}, entries pairs = .ok es →
      ∀ e ∈ es, e.1.sameKey e.1 = true ∧ e.2.WellKeyed
  | [], es, h => by
    unfold entries at h
    cases h
    exact List.forall_mem_nil _
  | (k, n) :: pairs, es, h => by
    unfold entries at h
    obtain ⟨e, es, he, hes, rfl⟩ := both_eq_ok_iff.1 h
    obtain ⟨key, v, hkey, hv, rfl⟩ := both_eq_ok_iff.1 he
    exact List.forall_mem_cons.2
      ⟨⟨sameKey_self_of_keyValue hkey, wellKeyed_of_value hv⟩, wellKeyed_of_entries hes⟩

end

end Node

/-- All mappings in the value of a document are well-keyed. -/
theorem wellKeyed_of_read {text : Text} {v : Value} (h : read text = .ok v) : v.WellKeyed := by
  unfold read at h
  simp only [bind, Except.bind] at h
  split at h
  · cases h
  split at h
  · cases h
  split at h
  · cases h
  split at h
  · cases h
    exact .scalar _
  · exact Node.wellKeyed_of_value (mapError_eq_ok_iff.1 h)

end Yaml

end LuceneQuery
