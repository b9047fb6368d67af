import LuceneQuery.Proofs.Store.Change

/-!
# The last setting of each slot

Every modifier of a clause stands in a slot of its own, and a setting is told
what to write into one slot of one clause.  A setting that is accepted writes
exactly that (`Setting.Does.slot?_eq`), and one that is refused writes nothing.
So after any sequence of settings each slot holds what the last accepted setting
for it was told, or what was in it before (`slot?_run`).

A cell is its slots and the *bare* rest, which no setting touches
(`Cell.eq_of_slot?_eq`).  So sequences that end alike slot by slot end in the
same store, in whatever order their settings come.
-/

namespace LuceneQuery

/-! ## Slots of cells -/

/-- A place for one modifier of a clause. -/
inductive Slot where
  /-- The field. -/
  | field
  /-- The operator. -/
  | operator
  /-- The weight. -/
  | weight
  /-- The edit distance of a term. -/
  | fuzziness
  /-- The word distance of a phrase. -/
  | slop
  /-- The kind of a range. -/
  | kind
  deriving DecidableEq

/-- What stands in a slot that every clause has. -/
def Slots.slot? (s : Slots) : Slot → Option Value
  | .field => some (.str s.field)
  | .operator => some (.str s.operator.name)
  | .weight => some (.number s.weight)
  | _ => none

/-- What stands in a slot that only some leaves have. -/
def Leaf.slot? : Leaf → Slot → Option Value
  | .term _ _ fuzziness, .fuzziness => some (.int fuzziness)
  | .phrase _ _ slop, .slop => some (.int slop)
  | .range _ _ _ kind, .kind => some (.str kind.name)
  | _, _ => none

/-- What stands in a slot of a cell, if the cell has the slot. -/
def Cell.slot? : Cell → Slot → Option Value
  | .leaf slots l, σ => (slots.slot? σ).or (l.slot? σ)
  | .query slots _, σ => slots.slot? σ

/-- A leaf without what stands in its slot. -/
def Leaf.bare : Leaf → Leaf
  | .term text escape _ => .term text escape 0
  | .phrase text escape _ => .phrase text escape 0
  | .range lower upper escape _ => .range lower upper escape .inclusive

/-- A cell without what stands in its slots. -/
def Cell.bare : Cell → Cell
  | .leaf _ l => .leaf {} l.bare
  | .query _ cs => .query {} cs

/-- An operator is known by its name. -/
theorem Operator.name_injective : Function.Injective Operator.name := by
  intro op op' h
  cases op <;> cases op' <;> first | rfl | exact absurd h (by decide)

/-- A kind of range is known by its name. -/
theorem RangeKind.name_injective : Function.Injective RangeKind.name := by
  intro kind kind' h
  cases kind <;> cases kind' <;> first | rfl | exact absurd h (by decide)

/-- Slots are known by what is in them. -/
theorem Slots.eq_of_slot?_eq {s s' : Slots} (h : ∀ σ, s.slot? σ = s'.slot? σ) : s = s' := by
  have hfield := h .field
  have hoperator := h .operator
  have hweight := h .weight
  cases s
  cases s'
  simp only [slot?, Option.some.injEq, Value.scalar.injEq, Scalar.str.injEq,
    Scalar.number.injEq] at hfield hoperator hweight
  rw [hfield, Operator.name_injective hoperator, hweight]

/-- A leaf is known by its slots and what is left of it without them. -/
theorem Leaf.eq_of_slot?_eq {l l' : Leaf} (hbare : l.bare = l'.bare)
    (h : ∀ σ, l.slot? σ = l'.slot? σ) : l = l' := by
  cases l with
  | term text escape n =>
    cases l' <;> cases hbare
    cases h .fuzziness
    rfl
  | phrase text escape n =>
    cases l' <;> cases hbare
    cases h .slop
    rfl
  | range lower upper escape kind =>
    cases l' <;> cases hbare
    have hkind := h .kind
    simp only [slot?, Option.some.injEq, Value.scalar.injEq, Scalar.str.injEq] at hkind
    rw [RangeKind.name_injective hkind]

/-- A cell is determined by its slots and the bare rest. -/
theorem Cell.eq_of_slot?_eq {cell cell' : Cell} (hbare : cell.bare = cell'.bare)
    (h : ∀ σ, cell.slot? σ = cell'.slot? σ) : cell = cell' := by
  cases cell with
  | leaf s l =>
    cases cell' with
    | leaf s' l' =>
      injection hbare with _ hl
      have hs : s = s' := by
        apply Slots.eq_of_slot?_eq
        intro σ
        have hσ := h σ
        cases σ <;> first | exact hσ | rfl
      subst hs
      have hleaf : ∀ σ, l.slot? σ = l'.slot? σ := by
        intro σ
        have hσ := h σ
        cases σ with
        | field | operator | weight => cases l <;> cases l' <;> rfl
        | fuzziness | slop | kind => exact hσ
      rw [Leaf.eq_of_slot?_eq hl hleaf]
    | query s' cs' => cases hbare
  | query s cs =>
    cases cell' with
    | leaf s' l' => cases hbare
    | query s' cs' =>
      cases hbare
      rw [Slots.eq_of_slot?_eq h]

namespace Store

/-! ## Settings and their slots -/

/-- The slot that a setting is for. -/
def Setting.slot : Setting → Slot
  | .field _ => .field
  | .operator _ => .operator
  | .boost _ => .weight
  | .fuzziness _ => .fuzziness
  | .proximity _ => .slop
  | .rangeKind _ => .kind

/-- What a setting is told. -/
def Setting.value : Setting → Value
  | .field name => .str name
  | .operator op => .str op.name
  | .boost weight => weight
  | .fuzziness distance => distance
  | .proximity distance => distance
  | .rangeKind kind => .str kind.name

/-- Whether a setting is accepted. -/
def Setting.isAccepted (x : Setting) : Bool := x.apply.toOption.isSome

/-- What a blueprint puts into a slot. -/
def Blueprint.value : Blueprint → Slot → Value
  | .term _ field _, .field | .phrase _ field _, .field | .range _ _ _ field _, .field
  | .query field, .field => .str field
  | _, .operator => .str Operator.optional.name
  | _, .weight => .number defaultWeight
  | .range _ _ kind _ _, .kind => kind
  | _, _ => .int 0

section

variable {setting : Setting} {change : Cell → Cell}

/-- A setting writes what it was told into its slot, if the cell has that slot,
and leaves all other slots. -/
theorem Setting.Does.slot?_eq (h : setting.Does change) (cell : Cell) (σ : Slot) :
    (change cell).slot? σ =
      if σ = setting.slot then (cell.slot? σ).map fun _ => setting.value else cell.slot? σ := by
  cases cell with
  | leaf slots l =>
    cases h with
    | field name => cases l <;> cases σ <;> rfl
    | operator op => cases l <;> cases σ <;> rfl
    | boost hfinite hn => cases l <;> cases σ <;> rfl
    | fuzziness hlow hhigh => cases l <;> cases σ <;> rfl
    | proximity hlow => cases l <;> cases σ <;> rfl
    | rangeKind kind => cases l <;> cases σ <;> rfl
  | query slots cs => cases h <;> cases σ <;> rfl

/-- A setting leaves what is no slot. -/
theorem Setting.Does.bare_eq (h : setting.Does change) (cell : Cell) :
    (change cell).bare = cell.bare := by
  cases cell with
  | leaf slots l => cases h <;> cases l <;> rfl
  | query slots cs => cases h <;> rfl

end

/-- A value that is a kind of range is its name. -/
theorem eq_name_of_ofValue {v : Value} {kind : RangeKind} (h : RangeKind.ofValue v = .ok kind) :
    v = .str kind.name := by
  unfold RangeKind.ofValue at h
  split at h
  · cases h
  · split at h
    · next found hfound =>
      cases h
      unfold RangeKind.ofValue? at hfound
      split at hfound
      · next name =>
        have hname := List.find?_some hfound
        rw [beq_iff_eq.1 hname]
      · cases hfound
    · cases h

/-- A new clause has in its slots what its blueprint puts there. -/
theorem Blueprint.slot?_of_build {b : Blueprint} {cell : Cell} (h : b.build = .ok cell) {σ : Slot}
    {v : Value} (hv : cell.slot? σ = some v) : v = b.value σ := by
  cases b with
  | term text field escape =>
    obtain ⟨l, hl, hcell⟩ := exists_of_bind_eq_ok h
    obtain ⟨token, -, hl⟩ := exists_of_bind_eq_ok hl
    cases hcell
    cases hl
    cases σ <;> cases hv <;> rfl
  | phrase text field escape =>
    cases h
    cases σ <;> cases hv <;> rfl
  | range lower upper kind field escape =>
    obtain ⟨l, hl, hcell⟩ := exists_of_bind_eq_ok h
    obtain ⟨low, -, hl⟩ := exists_of_bind_eq_ok hl
    obtain ⟨high, -, hl⟩ := exists_of_bind_eq_ok hl
    obtain ⟨found, hfound, hl⟩ := exists_of_bind_eq_ok hl
    cases hcell
    cases hl
    cases σ <;> cases hv
    all_goals first | rfl | exact (eq_name_of_ofValue hfound).symm
  | query field =>
    cases h
    cases σ <;> cases hv <;> rfl

/-! ## Sequences of settings -/

/-- A setting of a clause. -/
structure Call where
  /-- The clause. -/
  handle : Handle
  /-- The setting. -/
  setting : Setting

namespace Call

/-- A setting as a step. -/
def step (c : Call) : Step := .set c.handle c.setting

/-- Whether a setting is accepted and is for a slot of a clause. -/
def fills (c : Call) (h : Handle) (σ : Slot) : Bool :=
  c.handle == h && c.setting.slot == σ && c.setting.isAccepted

end Call

/-- The last accepted setting for a slot of a clause. -/
def lastFor (calls : List Call) (h : Handle) (σ : Slot) : Option Setting :=
  (calls.filter (·.fills h σ)).getLast?.map Call.setting

/-- What stands in a slot after some settings, if `v` did before: what the last
accepted setting for it was told. -/
def valueAfter (calls : List Call) (h : Handle) (σ : Slot) (v : Value) : Value :=
  match lastFor calls h σ with
  | some setting => setting.value
  | none => v

/-- A call that fills a slot gives the value that the calls behind it start from. -/
theorem valueAfter_cons (c : Call) (calls : List Call) (h : Handle) (σ : Slot) (v : Value) :
    valueAfter (c :: calls) h σ v =
      valueAfter calls h σ (if c.fills h σ then c.setting.value else v) := by
  unfold valueAfter lastFor
  rw [List.filter_cons]
  cases c.fills h σ with
  | true =>
    rw [if_pos rfl, if_pos rfl, List.getLast?_cons]
    cases (calls.filter (·.fills h σ)).getLast? <;> rfl
  | false => rfl

/-- A setting is accepted and done, or it is refused and the store stays. -/
theorem Call.step_cases (c : Call) (s : Store) :
    (c.setting.isAccepted = true ∧ ∃ change, c.setting.Does change ∧
        s.step c.step = { store := s.modify c.handle change, outcome := .done }) ∨
      c.setting.isAccepted = false ∧
        ∃ fault, s.step c.step = { store := s, outcome := .refused fault } := by
  cases h : c.setting.apply with
  | ok change =>
    refine .inl ⟨by rw [Setting.isAccepted, h]; rfl, change, Setting.does_of_apply h, ?_⟩
    simp only [Call.step, Store.step, h]
  | error fault =>
    refine .inr ⟨by rw [Setting.isAccepted, h]; rfl, fault, ?_⟩
    simp only [Call.step, Store.step, h]

section

variable {s : Store} {h : Handle} {cell : Cell}

/-- A setting leaves a cell bare as it was, and fills the slot that it is for. -/
theorem Call.cell?_step (c : Call) (hcell : s.cell? h = some cell) :
    ∃ cell', (s.step c.step).store.cell? h = some cell' ∧ cell'.bare = cell.bare ∧
      ∀ σ, cell'.slot? σ =
        (cell.slot? σ).map fun v => if c.fills h σ then c.setting.value else v := by
  rcases c.step_cases s with ⟨haccepted, change, hdoes, hstep⟩ | ⟨hrefused, fault, hstep⟩
  · by_cases hh : h = c.handle
    · subst hh
      refine ⟨change cell, ?_, hdoes.bare_eq cell, ?_⟩
      · rw [hstep]
        simp only [cell?_modify_self, hcell, Option.map_some]
      · intro σ
        have hfills : c.fills c.handle σ = decide (σ = c.setting.slot) := by
          simp [Call.fills, haccepted, eq_comm, beq_eq_decide]
        rw [hdoes.slot?_eq cell σ, hfills]
        by_cases hσ : σ = c.setting.slot <;> simp [hσ]
    · refine ⟨cell, ?_, rfl, ?_⟩
      · rw [hstep, cell?_modify_of_ne s change hh, hcell]
      · intro σ
        have hfills : c.fills h σ = false := by simp [Call.fills, Ne.symm hh]
        simp [hfills]
  · refine ⟨cell, by rw [hstep, hcell], rfl, ?_⟩
    intro σ
    have hfills : c.fills h σ = false := by simp [Call.fills, hrefused]
    simp [hfills]

/-- After some settings a cell is bare as before, and each slot holds what the
last accepted setting for it was told. -/
theorem slot?_run (calls : List Call) (hcell : s.cell? h = some cell) :
    ∃ cell', (s.run (calls.map Call.step)).cell? h = some cell' ∧ cell'.bare = cell.bare ∧
      ∀ σ, cell'.slot? σ = (cell.slot? σ).map (valueAfter calls h σ) := by
  induction calls generalizing s cell with
  | nil => exact ⟨cell, hcell, rfl, fun σ => by cases cell.slot? σ <;> rfl⟩
  | cons c calls ih =>
    obtain ⟨next, hnext, hbare, hslots⟩ := c.cell?_step hcell
    obtain ⟨last, hlast, hbare', hslots'⟩ := ih hnext
    refine ⟨last, hlast, hbare'.trans hbare, ?_⟩
    intro σ
    rw [hslots', hslots, Option.map_map]
    congr 1
    funext v
    exact (valueAfter_cons c calls h σ v).symm

/-- A call makes no cell. -/
theorem Call.size_step (c : Call) (s : Store) : (s.step c.step).store.size = s.size := by
  rcases c.step_cases s with ⟨-, change, -, hstep⟩ | ⟨-, fault, hstep⟩
  · rw [hstep]
    exact size_modify s _ _
  · rw [hstep]

theorem size_run_calls (s : Store) (calls : List Call) :
    (s.run (calls.map Call.step)).size = s.size := by
  induction calls generalizing s with
  | nil => rfl
  | cons c calls ih => exact (ih _).trans (c.size_step s)

end

/-- Settings that end alike in every slot of every clause end in one store. -/
theorem run_eq_of_lastFor_eq {s : Store} {calls calls' : List Call}
    (hlast : ∀ h cell σ, s.cell? h = some cell → cell.slot? σ ≠ none →
      lastFor calls' h σ = lastFor calls h σ) :
    s.run (calls'.map Call.step) = s.run (calls.map Call.step) := by
  have hcells : ∀ h, (s.run (calls'.map Call.step)).cell? h =
      (s.run (calls.map Call.step)).cell? h := by
    intro h
    cases hcell : s.cell? h with
    | none =>
      have hsize : s.size ≤ h := List.getElem?_eq_none_iff.1 hcell
      have hnone : ∀ calls : List Call, (s.run (calls.map Call.step)).cell? h = none :=
        fun calls => List.getElem?_eq_none ((size_run_calls s calls).trans_le hsize)
      rw [hnone, hnone]
    | some cell =>
      obtain ⟨cell₁, hcell₁, hbare₁, hslots₁⟩ := slot?_run calls' hcell
      obtain ⟨cell₂, hcell₂, hbare₂, hslots₂⟩ := slot?_run calls hcell
      rw [hcell₁, hcell₂, Cell.eq_of_slot?_eq (hbare₁.trans hbare₂.symm)]
      intro σ
      rw [hslots₁, hslots₂]
      cases hσ : cell.slot? σ with
      | none => rfl
      | some v =>
        simp only [Option.map_some, valueAfter, hlast h cell σ hcell (by simp [hσ])]
  exact congrArg Store.mk (List.ext_getElem? hcells)

/-- The settings of some clauses, in whatever order they come.  Each is done, or it
is refused and changes nothing.  In the end each slot of each clause holds what
the last accepted setting for it was told, or else what it held before, which is
what the blueprint put there if the clause was new; nothing else has changed.  So
settings that end alike in every slot end in one store and in the same texts. -/
theorem slots_hold_last_settings (s : Store) (calls : List Call) :
    let t := s.run (calls.map Call.step)
    (∀ (before : Store) (call : Call),
        call.setting.isAccepted = true ∧ (before.step call.step).outcome = .done ∨
          call.setting.isAccepted = false ∧ ∃ fault,
            before.step call.step = { store := before, outcome := .refused fault }) ∧
      t.size = s.size ∧
      (∀ h cell, s.cell? h = some cell →
        ∃ cell', t.cell? h = some cell' ∧ cell'.bare = cell.bare ∧
          ∀ σ, cell'.slot? σ = (cell.slot? σ).map (valueAfter calls h σ)) ∧
      (∀ (blueprint : Blueprint) (cell : Cell), blueprint.build = .ok cell →
        ∀ σ v, cell.slot? σ = some v → v = blueprint.value σ) ∧
      ∀ calls' : List Call,
        (∀ h cell σ, s.cell? h = some cell → cell.slot? σ ≠ none →
          lastFor calls' h σ = lastFor calls h σ) →
        s.run (calls'.map Call.step) = t ∧
          ∀ h, (s.run (calls'.map Call.step)).rendering? h = t.rendering? h := by
  intro t
  refine ⟨?_, size_run_calls s calls, fun h cell hcell => slot?_run calls hcell, ?_, ?_⟩
  · intro before call
    rcases call.step_cases before with ⟨haccepted, change, -, hstep⟩ | ⟨hrefused, hfault⟩
    · exact .inl ⟨haccepted, by rw [hstep]⟩
    · exact .inr ⟨hrefused, hfault⟩
  · intro blueprint cell hbuild σ v hv
    exact Blueprint.slot?_of_build hbuild hv
  · intro calls' hlast
    have hrun := run_eq_of_lastFor_eq hlast
    exact ⟨hrun, fun h => by rw [hrun]⟩

end Store

end LuceneQuery
