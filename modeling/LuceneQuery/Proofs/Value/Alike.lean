import LuceneQuery.Proofs.Value.Overlay
import Mathlib.Data.List.Forall2

/-!
# Values that are alike

Two values are alike if they differ in nothing but the order in which their mappings
hold their keys.  Alike values stay alike if one value is laid over both
(`Alike.overlay`), and a reader that looks keys up does not tell them apart.
-/

namespace LuceneQuery

/-- Whether two values are one value but for the order of keys. -/
inductive Value.Alike : Value → Value → Prop where
  | scalar (s : Scalar) : Alike (.scalar s) (.scalar s)
  | list {items items' : List Value} (h : List.Forall₂ Alike items items') :
      Alike (.list items) (.list items')
  | pair {a a' b b' : Value} (ha : Alike a a') (hb : Alike b b') : Alike (.pair a b) (.pair a' b')
  | set (members : List Scalar) : Alike (.set members) (.set members)
  | map {entries entries' : Entries}
      (h : ∀ k, Option.Rel Alike (entries.find? k) (entries'.find? k)) :
      Alike (.map entries) (.map entries')

namespace Value

theorem sizeOf_lt_of_find? {entries : Entries} {k : Scalar} {v : Value}
    (h : entries.find? k = some v) : sizeOf v < sizeOf (Value.map entries) := by
  obtain ⟨j, hj⟩ := Entries.exists_mem_of_find?_eq_some h
  have hentry := List.sizeOf_lt_of_mem hj
  simp only [Prod.mk.sizeOf_spec] at hentry
  simp only [map.sizeOf_spec]
  omega

theorem Alike.refl : ∀ v : Value, v.Alike v
  | .scalar s => .scalar s
  | .list items => .list (List.forall₂_same.2 fun v _ => Alike.refl v)
  | .pair a b => .pair (Alike.refl a) (Alike.refl b)
  | .set members => .set members
  | .map entries => .map fun k => by
    cases hk : Entries.find? k entries with
    | none => exact .none
    | some v => exact .some (Alike.refl v)
termination_by v => sizeOf v
decreasing_by
  · have hitem := List.sizeOf_lt_of_mem (by assumption)
    simp only [list.sizeOf_spec]
    omega
  · simp only [pair.sizeOf_spec]
    omega
  · simp only [pair.sizeOf_spec]
    omega
  · exact sizeOf_lt_of_find? hk

/-- What lies below a key in alike layers is alike. -/
theorem Alike.find?_entriesBelow {lower lower' : Option Value}
    (h : Option.Rel Alike lower lower') (k : Scalar) :
    Option.Rel Alike ((entriesBelow lower).find? k) ((entriesBelow lower').find? k) := by
  cases h with
  | none => exact .none
  | some h =>
    cases h with
    | map h => exact h k
    | _ => exact .none

/-- One value over two that are alike gives two that are. -/
theorem Alike.overlay {upper : Value} (hupper : upper.WellKeyed) {lower lower' : Option Value}
    (h : Option.Rel Alike lower lower') :
    Alike (Value.overlay lower upper) (Value.overlay lower' upper) := by
  induction hupper generalizing lower lower' with
  | scalar _ | list _ | pair _ _ | set _ =>
    rw [overlay_of_entries?_eq_none, overlay_of_entries?_eq_none]
    · exact .refl _
    · rfl
    · rfl
  | @map entries hkeys _ ih =>
    rw [overlay_map hkeys, overlay_map hkeys]
    refine .map fun k => ?_
    rw [Entries.find?_overlay hkeys, Entries.find?_overlay hkeys]
    cases hk : Entries.find? k entries with
    | none => exact Alike.find?_entriesBelow h k
    | some v =>
      obtain ⟨j, hj⟩ := Entries.exists_mem_of_find?_eq_some hk
      exact .some (ih _ hj (Alike.find?_entriesBelow h k))

end Value

/-- What is found under a key in two mappings stays alike below one that is laid over
both. -/
theorem Entries.alike_find?_overlay {base base' upper : Entries}
    (hupper : (Value.map upper).WellKeyed) {k : Scalar}
    (h : Option.Rel Value.Alike (base.find? k) (base'.find? k)) :
    Option.Rel Value.Alike ((base.overlay upper).find? k) ((base'.overlay upper).find? k) := by
  rw [find?_overlay hupper.entries, find?_overlay hupper.entries]
  cases hk : upper.find? k with
  | none => exact h
  | some v => exact .some (.overlay (hupper.of_find? hk) h)

end LuceneQuery
