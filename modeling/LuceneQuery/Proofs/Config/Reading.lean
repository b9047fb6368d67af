import LuceneQuery.Config.Settings
import LuceneQuery.Proofs.Value.Mapping
import Mathlib.Data.List.Forall2

/-!
# Readers

A reader gives a value or the first fault on its way.  What it takes to come
through a chain of readers, or to fail in it, is said once for two of them
(`bind_eq_ok_iff`, `bind_eq_error_iff`) and once for the items of a list
(`readItems_eq_ok_iff`, `readItems_eq_error_iff`).  The clauses of a group and
the queries of a configuration are read item by item.
-/

namespace LuceneQuery.Config

section

variable {ε α β : Type} {x : Except ε α} {f : α → Except ε β} {b : β} {e : ε}

/-- Two readers in a row give what the second gives behind the first. -/
theorem bind_eq_ok_iff : x >>= f = .ok b ↔ ∃ a, x = .ok a ∧ f a = .ok b := by
  cases x <;> simp [bind, Except.bind]

theorem bind_eq_error_iff :
    x >>= f = .error e ↔ x = .error e ∨ ∃ a, x = .ok a ∧ f a = .error e := by
  cases x <;> simp [bind, Except.bind]

end

/-! ## The items of a list -/

/-- Reads the items of a list, each with its number, the first of which is `i`. -/
def readItems {α : Type} (read : Nat → Value → Except Fault α) (i : Nat) :
    List Value → Except Fault (List α)
  | [] => .ok []
  | v :: rest => do
    let a ← read i v
    let as ← readItems read (i + 1) rest
    .ok (a :: as)

/-- The first item of a list that cannot be read, with its number and its fault. -/
structure FirstRefused {α : Type} (read : Nat → Value → Except Fault α) (items : List Value)
    (i : Nat) (v : Value) (f : Fault) : Prop where
  item : items[i]? = some v
  before : ∀ j w, j < i → items[j]? = some w → ∃ a, read j w = .ok a
  refused : read i v = .error f

section

variable {α : Type} {read : Nat → Value → Except Fault α} {items : List Value}

/-- A list is read item by item. -/
theorem readItems_eq_ok_iff {r : Value → α → Prop} {i : Nat} {as : List α}
    (hread : ∀ v ∈ items, ∀ j a, read j v = .ok a ↔ r v a) :
    readItems read i items = .ok as ↔ List.Forall₂ r items as := by
  induction items generalizing i as with
  | nil => simp [readItems, eq_comm]
  | cons v items ih =>
    have hrest : ∀ {i as}, readItems read i items = .ok as ↔ List.Forall₂ r items as :=
      ih fun w hw => hread w (List.mem_cons_of_mem v hw)
    simp only [readItems, bind_eq_ok_iff, hread v List.mem_cons_self, hrest]
    cases as with
    | nil => simp
    | cons a as => simp

/-- All that is read of a list is read of one of its items. -/
theorem exists_read_of_mem {i : Nat} {as : List α} (h : readItems read i items = .ok as) {a : α}
    (ha : a ∈ as) : ∃ j, ∃ v ∈ items, read j v = .ok a := by
  induction items generalizing i as with
  | nil =>
    cases h
    cases ha
  | cons v items ih =>
    simp only [readItems, bind_eq_ok_iff] at h
    obtain ⟨b, hb, bs, hbs, h⟩ := h
    cases h
    rcases List.mem_cons.1 ha with rfl | ha
    · exact ⟨i, v, List.mem_cons_self, hb⟩
    · obtain ⟨j, w, hw, hread⟩ := ih hbs ha
      exact ⟨j, w, List.mem_cons_of_mem v hw, hread⟩

/-- If a list is read, each of its items is. -/
theorem exists_read_of_item {i : Nat} {as : List α} (h : readItems read i items = .ok as)
    {v : Value} (hv : v ∈ items) : ∃ j a, read j v = .ok a := by
  induction items generalizing i as with
  | nil => cases hv
  | cons w items ih =>
    simp only [readItems, bind_eq_ok_iff] at h
    obtain ⟨b, hb, bs, hbs, -⟩ := h
    rcases List.mem_cons.1 hv with rfl | hv
    · exact ⟨i, b, hb⟩
    · exact ih hbs hv

/-- Changed items that are all read as before make a list that is read as before. -/
theorem readItems_map_congr {g : Value → Value} {i : Nat}
    (h : ∀ v ∈ items, ∀ j, read j (g v) = read j v) :
    readItems read i (items.map g) = readItems read i items := by
  induction items generalizing i with
  | nil => rfl
  | cons v items ih =>
    have hrest : ∀ w ∈ items, ∀ j, read j (g w) = read j w :=
      fun w hw => h w (List.mem_cons_of_mem v hw)
    simp only [List.map_cons, readItems, h v List.mem_cons_self, ih hrest]

/-- A list is read as another reader reads it, up to a change in each item, if its items
are. -/
theorem readItems_eq_map {β : Type} {read' : Nat → Value → Except Fault β} {g : α → β} {i : Nat}
    (h : ∀ v ∈ items, ∀ j, read' j v = g <$> read j v) :
    readItems read' i items = List.map g <$> readItems read i items := by
  induction items generalizing i with
  | nil => rfl
  | cons v items ih =>
    have hrest : ∀ w ∈ items, ∀ j, read' j w = g <$> read j w :=
      fun w hw => h w (List.mem_cons_of_mem v hw)
    simp only [readItems, h v List.mem_cons_self, ih hrest, map_bind, bind_map_left]
    rfl

theorem FirstRefused.of_head {v : Value} {f : Fault} (h : read 0 v = .error f) :
    FirstRefused read (v :: items) 0 v f := by
  refine ⟨rfl, ?_, h⟩
  intro j w hj
  exact absurd hj (Nat.not_lt_zero j)

/-- No item before the first one that cannot be read is another such item. -/
theorem FirstRefused.not_lt {i j : Nat} {v w : Value} {f g : Fault}
    (h : FirstRefused read items i v f) (h' : FirstRefused read items j w g) : ¬i < j := by
  intro hlt
  obtain ⟨a, ha⟩ := h'.before i v hlt h.item
  cases h.refused.symm.trans ha

/-- No more than one item is the first one that cannot be read. -/
theorem FirstRefused.unique {i j : Nat} {v w : Value} {f g : Fault}
    (h : FirstRefused read items i v f) (h' : FirstRefused read items j w g) : i = j ∧ v = w := by
  obtain rfl : i = j := Nat.le_antisymm (Nat.not_lt.1 (h'.not_lt h)) (Nat.not_lt.1 (h.not_lt h'))
  exact ⟨rfl, Option.some.inj (h.item.symm.trans h'.item)⟩

/-- The first item that cannot be read is the head, or the first one in the rest behind a head
that can. -/
theorem exists_firstRefused_cons_iff {v : Value} {f : Fault} :
    (∃ i w, FirstRefused read (v :: items) i w f) ↔
      read 0 v = .error f ∨
        ∃ a, read 0 v = .ok a ∧ ∃ i w, FirstRefused (fun j => read (j + 1)) items i w f := by
  constructor
  · rintro ⟨i, w, h⟩
    cases i with
    | zero =>
      obtain rfl : v = w := by simpa using h.item
      exact .inl h.refused
    | succ i =>
      obtain ⟨a, ha⟩ := h.before 0 v (Nat.succ_pos i) rfl
      refine .inr ⟨a, ha, i, w, by simpa using h.item, ?_, h.refused⟩
      intro j u hj hu
      exact h.before (j + 1) u (Nat.succ_lt_succ hj) (by simpa using hu)
  · rintro (h | ⟨a, ha, i, w, h⟩)
    · exact ⟨0, v, .of_head h⟩
    · refine ⟨i + 1, w, by simpa using h.item, ?_, h.refused⟩
      intro j u hj hu
      cases j with
      | zero =>
        cases hu
        exact ⟨a, ha⟩
      | succ j => exact h.before j u (Nat.lt_of_succ_lt_succ hj) (by simpa using hu)

/-- A list cannot be read if and only if one item is the first that cannot, wherever the count
starts. -/
theorem readItems_eq_error_iff_from {i : Nat} {f : Fault} :
    readItems read i items = .error f ↔
      ∃ n v, FirstRefused (fun j => read (i + j)) items n v f := by
  induction items generalizing i with
  | nil =>
    constructor
    · intro h
      cases h
    · rintro ⟨n, v, h⟩
      cases h.item
  | cons v items ih =>
    have hshift : (fun j => read (i + 1 + j)) = fun j => read (i + (j + 1)) :=
      funext fun j => by rw [Nat.add_right_comm, Nat.add_assoc]
    rw [exists_firstRefused_cons_iff, Nat.add_zero, readItems, bind_eq_error_iff]
    simp only [bind_eq_error_iff, ih, hshift, reduceCtorEq, and_false, exists_false, or_false]

/-- The fault of a list is the one of its first item that cannot be read. -/
theorem readItems_eq_error_iff {f : Fault} :
    readItems read 0 items = .error f ↔ ∃ i v, FirstRefused read items i v f := by
  simpa only [Nat.zero_add] using readItems_eq_error_iff_from (i := 0) (f := f)

end

/-- A reader that goes through a list like `readItems` is `readItems`. -/
theorem eq_readItems {α : Type} {read : Nat → Value → Except Fault α}
    {g : Nat → List Value → Except Fault (List α)} (hnil : ∀ i, g i [] = .ok [])
    (hcons : ∀ i v rest, g i (v :: rest) = (do
      let a ← read i v
      let as ← g (i + 1) rest
      .ok (a :: as)))
    {i : Nat} {items : List Value} : g i items = readItems read i items := by
  induction items generalizing i with
  | nil => rw [hnil, readItems]
  | cons v items ih => simp only [hcons, readItems, ih]

theorem readClauses_eq_readItems {escape : Bool} {key : KeyPath} {i : Nat} {items : List Value} :
    readClauses escape key i items =
      readItems (fun j => readClause escape (key.item j)) i items :=
  eq_readItems (g := readClauses escape key) (fun _ => by rw [readClauses])
    fun _ _ _ => by rw [readClauses]

theorem readQueriesFrom_eq_readItems {escape : Bool} {i : Nat} {items : List Value} :
    readQueriesFrom escape i items =
      readItems (fun j => readQuery escape (KeyPath.item "queries" j)) i items :=
  eq_readItems (g := readQueriesFrom escape) (fun _ => rfl) fun _ _ _ => rfl

theorem stringsFrom_eq_readItems {key : KeyPath} {i : Nat} {items : List Value} :
    stringsFrom key i items = readItems (fun j => stringAt (key.item j)) i items :=
  eq_readItems (g := stringsFrom key) (fun _ => rfl) fun _ _ _ => rfl

/-! ## Single values -/

section

variable {key : KeyPath} {v : Value} {f : Fault}

theorem stringAt_eq_ok_iff {s : Text} : stringAt key v = .ok s ↔ v = .str s := by
  unfold stringAt
  split <;> simp_all [eq_comm]

theorem intAt_eq_ok_iff {n : Int} : intAt key v = .ok n ↔ v = .int n := by
  unfold intAt
  split <;> simp_all [eq_comm]

theorem listAt_eq_ok_iff {items : List Value} : listAt key v = .ok items ↔ v = .list items := by
  unfold listAt
  split <;> simp_all [eq_comm]

/-- What is no text has the wrong type. -/
theorem eq_wrongType_of_stringAt (h : stringAt key v = .error f) : f = .wrongType key .string := by
  unfold stringAt at h
  split at h <;> cases h
  rfl

theorem eq_wrongType_of_boolAt (h : boolAt key v = .error f) : f = .wrongType key .boolean := by
  unfold boolAt at h
  split at h <;> cases h
  rfl

theorem eq_wrongType_of_intAt (h : intAt key v = .error f) : f = .wrongType key .integer := by
  unfold intAt at h
  split at h <;> cases h
  rfl

theorem eq_wrongType_of_scalarAt (h : scalarAt key v = .error f) : f = .wrongType key .scalar := by
  unfold scalarAt at h
  split at h <;> cases h
  rfl

theorem eq_wrongType_of_listAt (h : listAt key v = .error f) : f = .wrongType key .list := by
  unfold listAt at h
  split at h <;> cases h
  rfl

end

end LuceneQuery.Config
