import LuceneQuery.Proofs.Clause.NormalForm
import LuceneQuery.Proofs.Clause.Weight
import LuceneQuery.Proofs.Config.Acceptance
import LuceneQuery.Proofs.Config.Settings

/-!
# What holds in all clauses of a configuration

What the grammar says of slots and of leaves holds in every clause that is read, at any
depth, and so in all queries of a configuration (`Denotes.every`, `every_of_readQueries`).
In particular these clauses are well-formed, like those of a session without assignments
(`wellFormed_of_readQueries`).
-/

namespace LuceneQuery.Config

section

variable {escape : Bool} {p : Slots → Prop} {q : Leaf → Prop}

/-- What holds of all slots and leaves that entries stand for holds in a clause that a
value stands for. -/
theorem Denotes.every
    (hp : ∀ {names entries slots}, DenotesSlots names entries slots → p slots)
    (hq : ∀ {entries kind l}, DenotesLeaf escape entries kind l → q l) {v : Value} {c : Clause}
    (h : Denotes escape v c) : c.Every p q := by
  induction v using Value.groupInduction generalizing c with
  | scalar _ | list _ | pair _ _ | set _ => cases h
  | map entries ih =>
    cases h with
    | leaf hkind hleaf hslots => exact .leaf (hp hslots) (hq hleaf)
    | group hkind body hcs hslots =>
      refine .query (hp hslots) fun c hc => ?_
      obtain ⟨v, hv, hc⟩ := exists_mem_of_forall₂ hcs hc
      exact ih _ _ (Entries.mem_of_get?_eq_some body) v hv hc

/-- What holds of all slots and leaves of the grammar holds of all that is read of a query. -/
theorem every_of_readQuery
    (hp : ∀ {names entries slots}, DenotesSlots names entries slots → p slots)
    (hq : ∀ {entries kind l}, DenotesLeaf escape entries kind l → q l) {key : KeyPath} {v : Value}
    {query : LabelledQuery} (h : readQuery escape key v = .ok query) :
    query.query.Every p q := by
  unfold readQuery at h
  split at h
  · simp only [bind_eq_ok_iff, readGroup_eq_ok_iff, readSlots_eq_ok_iff,
      readClauses_eq_readItems] at h
    obtain ⟨_, -, name, -, cs, ⟨items, -, hcs⟩, slots, hslots, h⟩ := h
    cases h
    refine .query (hp hslots) fun c hc => ?_
    obtain ⟨j, w, -, hread⟩ := exists_read_of_mem hcs hc
    exact (readClause_eq_ok_iff.1 hread).every hp hq
  · cases h

theorem every_of_readQueries
    (hp : ∀ {names entries slots}, DenotesSlots names entries slots → p slots)
    (hq : ∀ {entries kind l}, DenotesLeaf escape entries kind l → q l) {root : Entries}
    {queries : List LabelledQuery} (h : readQueries escape root = .ok queries) :
    ∀ query ∈ queries, query.query.Every p q := by
  intro query hquery
  unfold readQueries at h
  split at h
  · cases h
  · simp only [bind_eq_ok_iff, readQueriesFrom_eq_readItems] at h
    obtain ⟨items, -, hitems⟩ := h
    obtain ⟨i, v, -, hread⟩ := exists_read_of_mem hitems hquery
    exact every_of_readQuery hp hq hread

end

/-! ## Well-formed clauses -/

/-- The grammar has no weights but those that a clause takes. -/
theorem DenotesWeight.isWeight {v : Option Value} {n : Number} (h : DenotesWeight v n) :
    n.IsWeight := by
  cases h with
  | none => exact ⟨rfl, Number.isMagnitude_of_isFinite rfl rfl⟩
  | int hfinite hsign => exact ⟨hfinite, Number.isMagnitude_of_isFinite hfinite hsign⟩
  | double hfinite hsign => exact ⟨hfinite, Number.isMagnitude_of_isFinite hfinite hsign⟩

/-- The grammar has no slots that are not well-formed. -/
theorem DenotesSlots.wellFormed {names : SlotNames} {entries : Entries} {slots : Slots}
    (h : DenotesSlots names entries slots) : slots.WellFormed :=
  h.weight.isWeight.isFinite

theorem DenotesWord.wordOf_eq {v : Value} {word : Text} (h : DenotesWord v word) :
    wordOf v = .ok word := by
  cases h with
  | str s => rfl
  | int hwritable => exact if_pos hwritable
  | double x => rfl

theorem DenotesBound.isBound {v : Option Value} {b : Value} (h : DenotesBound v b) :
    b.IsBound := by
  cases h with
  | none => exact ⟨rfl, by decide⟩
  | word hword hblank =>
    obtain ⟨hwritable, rfl⟩ := of_wordOf_eq_ok hword.wordOf_eq
    rcases hblank with hempty | hblank
    · exact ⟨hwritable, by rw [hempty]; rfl⟩
    · exact ⟨hwritable, hblank⟩

theorem DenotesLeaf.wellFormed {escape : Bool} {entries : Entries} {kind : Kind} {l : Leaf}
    (h : DenotesLeaf escape entries kind l) : l.WellFormed := by
  cases h with
  | term _ _ hne hblank _ => exact ⟨hne, hblank⟩
  | phrase _ _ => exact trivial
  | range _ _ lower upper _ => exact ⟨lower.isBound, upper.isBound⟩

/-- All queries of a configuration are well-formed. -/
theorem wellFormed_of_readQueries {escape : Bool} {root : Entries} {queries : List LabelledQuery}
    (h : readQueries escape root = .ok queries) : ∀ q ∈ queries, q.query.WellFormed :=
  every_of_readQueries DenotesSlots.wellFormed DenotesLeaf.wellFormed h

end LuceneQuery.Config
