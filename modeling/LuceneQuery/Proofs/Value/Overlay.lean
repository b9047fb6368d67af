import LuceneQuery.Proofs.Value.Lookup

/-!
# One mapping laid over another

`Entries.overlay` goes through the upper mapping key by key and writes into the lower
one.  What it comes to is said once for the keys (`keys_overlay`) and once for what is
found under one of them (`find?_overlay`).  The rest follows from these two.

*Along a path.*  A value is followed along a path through nested mappings.  The upper
mapping decides at each place of a path whether the value there is its own, is put
together of two mappings, or is left from below (`overlay_overrides`).

*Laws.*  Laying over absorbs what lies on top already (`overlay_overlay_self`) and is
associative as long as no value parts two mappings (`overlay_assoc`).  The equations
hold as they stand: the keys agree in their order and in their form.
-/

namespace LuceneQuery

/-! ## Values -/

namespace Value

/-- The entries of a value that is a mapping. -/
def entries? : Value → Option Entries
  | .map entries => some entries
  | _ => none

theorem eq_map_of_entries? {v : Value} {entries : Entries} (h : v.entries? = some entries) :
    v = .map entries := by
  cases v with
  | map es =>
    cases h
    rfl
  | _ => cases h

/-- The entries that an upper mapping is laid over.  There are none below a value of
another kind. -/
def entriesBelow (lower : Option Value) : Entries := (lower.bind entries?).getD []

theorem overlay_map_map (base upper : Entries) :
    overlay (some (.map base)) (.map upper) = .map (base.overlay upper) := by
  rw [overlay, Entries.overlay]

/-- A value that is no mapping hides what is below it. -/
theorem overlay_of_entries?_eq_none {v : Value} (h : v.entries? = none) (lower : Option Value) :
    overlay lower v = v := by
  cases v with
  | map entries => cases h
  | _ =>
    rw [overlay]
    simp

/-- A value that is no mapping is replaced whole. -/
theorem overlay_of_bind_entries?_eq_none {lower : Option Value} (h : lower.bind entries? = none)
    (v : Value) : overlay lower v = v := by
  cases v with
  | map entries =>
    have hlower : ∀ base, lower ≠ some (.map base) := by
      rintro base rfl
      cases h
    rw [overlay]
    simpa using hlower
  | _ => exact overlay_of_entries?_eq_none rfl lower

end Value

/-! ## Keys and lookups -/

namespace Entries

variable {base upper : Entries} {k l : Scalar} {v : Value}

/-- The upper entries are laid over the lower ones one by one. -/
theorem overlay_cons (base : Entries) (k : Scalar) (v : Value) (rest : Entries) :
    base.overlay ((k, v) :: rest) =
      (base.insert k (Value.overlay (base.find? k) v)).overlay rest := by
  rw [overlay, overlay, Value.overlayEntries]

theorem overlay_nil (base : Entries) : base.overlay [] = base := by
  rw [overlay, Value.overlayEntries]

theorem find?_overlay_of_none (h : upper.find? l = none) :
    (base.overlay upper).find? l = base.find? l := by
  induction upper generalizing base with
  | nil => rw [overlay_nil]
  | cons entry upper ih =>
    obtain ⟨k, v⟩ := entry
    rw [find?_cons] at h
    split at h
    · cases h
    · next hkl => rw [overlay_cons, ih h, find?_insert, if_neg hkl]

theorem find?_overlay_of_some (hupper : upper.WellKeyed) (h : upper.find? l = some v) :
    (base.overlay upper).find? l = some (Value.overlay (base.find? l) v) := by
  induction upper generalizing base with
  | nil => cases h
  | cons entry upper ih =>
    obtain ⟨k, w⟩ := entry
    obtain ⟨hk, -, hrest⟩ := wellKeyed_cons_iff.1 hupper
    rw [find?_cons] at h
    rw [overlay_cons]
    split at h
    · next hkl =>
      cases h
      have hnone : Entries.find? l upper = none := by
        rw [← find?_congr hkl, find?_eq_none_iff]
        intro j hj
        rw [Bool.eq_false_iff]
        exact fun hjk => Bool.false_ne_true ((hk j hj).symm.trans (Scalar.sameKey_symm hjk))
      rw [find?_overlay_of_none hnone, find?_insert, if_pos hkl, find?_congr hkl]
    · next hkl => rw [ih hrest h, find?_insert, if_neg hkl]

/-- What is found under a key is the upper value, laid over the lower one. -/
theorem find?_overlay (hupper : upper.WellKeyed) (base : Entries) (l : Scalar) :
    (base.overlay upper).find? l =
      match upper.find? l with
      | some v => some (Value.overlay (base.find? l) v)
      | none => base.find? l := by
  cases h : upper.find? l with
  | none => exact find?_overlay_of_none h
  | some v => exact find?_overlay_of_some hupper h

/-- Nothing is found where neither layer has anything. -/
theorem isNone_find?_overlay (hupper : upper.WellKeyed) (base : Entries) (l : Scalar) :
    ((base.overlay upper).find? l).isNone = ((base.find? l).isNone && (upper.find? l).isNone) := by
  rw [find?_overlay hupper]
  cases upper.find? l <;> simp

/-- The keys are those of the lower mapping and behind them those that only the upper
one has. -/
theorem keys_overlay (hupper : upper.WellKeyed) (base : Entries) :
    (base.overlay upper).keys = base.keys ++ upper.keys.filter fun k => (base.find? k).isNone := by
  induction upper generalizing base with
  | nil => simp [overlay_nil, keys]
  | cons entry upper ih =>
    obtain ⟨k, v⟩ := entry
    obtain ⟨hk, -, hrest⟩ := wellKeyed_cons_iff.1 hupper
    have hfilter :
        ((Entries.keys upper).filter fun j =>
          ((base.insert k (Value.overlay (base.find? k) v)).find? j).isNone) =
        (Entries.keys upper).filter fun j => (base.find? j).isNone := by
      apply List.filter_congr
      intro j hj
      rw [find?_insert, hk j hj]
      rfl
    have hcons : keys ((k, v) :: upper) = k :: keys upper := rfl
    rw [overlay_cons, ih hrest, hfilter, keys_insert, hcons, List.filter_cons]
    cases base.find? k <;> simp

theorem WellKeyed.overlay (hbase : base.WellKeyed) (hupper : upper.WellKeyed) :
    (base.overlay upper).WellKeyed := by
  constructor
  · rw [keys_overlay hupper, List.pairwise_append]
    refine ⟨hbase.apart, hupper.apart.filter _, ?_⟩
    intro j hj k hk
    exact find?_eq_none_iff.1 (Option.isNone_iff_eq_none.1 ((List.mem_filter.1 hk).2)) j hj
  · intro k hk
    rw [keys_overlay hupper, List.mem_append] at hk
    rcases hk with hk | hk
    · exact hbase.itself k hk
    · exact hupper.itself k (List.mem_filter.1 hk).1

theorem nil_overlay (hupper : upper.WellKeyed) : Entries.overlay [] upper = upper := by
  refine hupper.ext ?_ ?_
  · rw [keys_overlay hupper]
    simp [keys, find?]
  · intro k hk
    obtain ⟨v, hv⟩ := Option.isSome_iff_exists.1 (hupper.isSome_find? hk)
    rw [find?_overlay_of_some hupper hv, hv, Value.overlay_of_bind_entries?_eq_none rfl]

end Entries

namespace Value

/-- A mapping hides a lower value that is none. -/
theorem overlay_map {upper : Entries} (hupper : upper.WellKeyed) (lower : Option Value) :
    overlay lower (.map upper) = .map ((entriesBelow lower).overlay upper) := by
  cases h : lower.bind entries? with
  | none => rw [overlay_of_bind_entries?_eq_none h, entriesBelow, h, Option.getD_none,
      Entries.nil_overlay hupper]
  | some base =>
    obtain ⟨l, rfl, hl⟩ := Option.bind_eq_some_iff.1 h
    obtain rfl := eq_map_of_entries? hl
    exact overlay_map_map base upper

/-! ## Along a path -/

/-- The value at the end of a path of keys through nested mappings. -/
def at? : Value → List Scalar → Option Value
  | v, [] => some v
  | v, k :: path => (v.entries?.bind (·.find? k)).bind (at? · path)

/-- Whether there is a mapping at the end of a path. -/
def MapAt (v : Value) (path : List Scalar) : Prop := ∃ entries, v.at? path = some (.map entries)

/-- Whether two values are mappings all along a path, the end of the path and the
places that the upper value does not have aside. -/
def OpenAlong (lower upper : Value) (path : List Scalar) : Prop :=
  ∀ q, q <+: path → q ≠ path → (upper.at? q).isSome = true → upper.MapAt q ∧ lower.MapAt q

/-- What stands at the end of a path in a value if an upper mapping overrides a lower
one. -/
structure Overrides (lower upper merged : Value) (path : List Scalar) : Prop where
  /-- An upper value replaces a lower one whole unless both are mappings. -/
  replaced : ∀ v, upper.at? path = some v → ¬upper.MapAt path ∨ ¬lower.MapAt path →
    merged.at? path = some v
  /-- Two mappings become one with the keys of both. -/
  united : ∀ ls us : Entries, lower.at? path = some (.map ls) → upper.at? path = some (.map us) →
    ∃ entries : Entries, merged.at? path = some (.map entries) ∧
      entries.keys = ls.keys ++ us.keys.filter fun k => (ls.find? k).isNone
  /-- What the upper value does not have is left from below where nothing above hides
  it. -/
  kept : upper.at? path = none → OpenAlong lower upper path → merged.at? path = lower.at? path
  /-- It is gone where something does. -/
  dropped : upper.at? path = none → ¬OpenAlong lower upper path → merged.at? path = none

variable {base upper : Entries} {k : Scalar} {path : List Scalar}

theorem at?_cons (entries : Entries) (k : Scalar) (path : List Scalar) :
    (Value.map entries).at? (k :: path) = (entries.find? k).bind (at? · path) := rfl

theorem at?_cons_of_some {entries : Entries} {v : Value} (h : entries.find? k = some v)
    (path : List Scalar) : (Value.map entries).at? (k :: path) = v.at? path := by
  rw [at?_cons, h, Option.bind_some]

/-- Whether there is a mapping at the end of a path is settled behind its first key. -/
theorem mapAt_cons_iff {entries : Entries} {v : Value} (h : entries.find? k = some v) :
    (Value.map entries).MapAt (k :: path) ↔ v.MapAt path := by
  simp only [MapAt, at?_cons_of_some h]

theorem mapAt_nil (entries : Entries) : (Value.map entries).MapAt [] := ⟨entries, rfl⟩

/-- A path leads to a mapping through mappings only. -/
theorem MapAt.exists_eq_map {v : Value} (h : v.MapAt path) : ∃ entries, v = .map entries := by
  obtain ⟨entries, h⟩ := h
  cases v with
  | map es => exact ⟨es, rfl⟩
  | _ => cases path <;> cases h

/-- Whether two layers are open along a path is settled behind its first key. -/
theorem openAlong_cons_iff {l u : Value} (hl : base.find? k = some l)
    (hu : upper.find? k = some u) :
    OpenAlong (.map base) (.map upper) (k :: path) ↔ OpenAlong l u path := by
  constructor
  · intro h q hq hne hsome
    have hcons := h (k :: q) (List.cons_prefix_cons.2 ⟨rfl, hq⟩) (by simpa using hne)
      (by rwa [at?_cons_of_some hu])
    rwa [mapAt_cons_iff hl, mapAt_cons_iff hu] at hcons
  · intro h q hq hne hsome
    cases q with
    | nil => exact ⟨mapAt_nil upper, mapAt_nil base⟩
    | cons j q =>
      obtain ⟨rfl, hq'⟩ := List.cons_prefix_cons.1 hq
      rw [at?_cons_of_some hu] at hsome
      rw [mapAt_cons_iff hl, mapAt_cons_iff hu]
      exact h q hq' (by simpa using hne) hsome

theorem openAlong_cons_of_none (hu : upper.find? k = none) :
    OpenAlong (.map base) (.map upper) (k :: path) := by
  intro q hq _ hsome
  cases q with
  | nil => exact ⟨mapAt_nil upper, mapAt_nil base⟩
  | cons j q =>
    obtain ⟨rfl, -⟩ := List.cons_prefix_cons.1 hq
    rw [at?_cons, hu] at hsome
    cases hsome

/-- Below two mappings under one key the path goes on with these. -/
theorem Overrides.cons {merged : Entries} {l u m : Value} (hl : base.find? k = some l)
    (hu : upper.find? k = some u) (hm : merged.find? k = some m) (h : Overrides l u m path) :
    Overrides (.map base) (.map upper) (.map merged) (k :: path) := by
  constructor
  · simpa only [at?_cons_of_some hu, at?_cons_of_some hm, mapAt_cons_iff hl, mapAt_cons_iff hu]
      using h.replaced
  · simpa only [at?_cons_of_some hl, at?_cons_of_some hu, at?_cons_of_some hm] using h.united
  · simpa only [at?_cons_of_some hl, at?_cons_of_some hu, at?_cons_of_some hm,
      openAlong_cons_iff hl hu] using h.kept
  · simpa only [at?_cons_of_some hu, at?_cons_of_some hm, openAlong_cons_iff hl hu] using h.dropped

/-- Below a key that only the lower mapping has everything is left from below. -/
theorem Overrides.of_none {merged : Entries} (hu : upper.find? k = none)
    (hm : merged.find? k = base.find? k) :
    Overrides (.map base) (.map upper) (.map merged) (k :: path) := by
  have hnone : (Value.map upper).at? (k :: path) = none := by rw [at?_cons, hu, Option.bind_none]
  have hbelow : (Value.map merged).at? (k :: path) = (Value.map base).at? (k :: path) := by
    rw [at?_cons, at?_cons, hm]
  constructor
  · intro v hv
    cases hnone.symm.trans hv
  · intro ls us _ hus
    cases hnone.symm.trans hus
  · exact fun _ _ => hbelow
  · exact fun _ hopen => absurd (openAlong_cons_of_none hu) hopen

/-- Below a key whose upper value replaces the lower one everything is the upper
mapping's. -/
theorem Overrides.of_replaced {merged : Entries} {u : Value} (hu : upper.find? k = some u)
    (hm : merged.find? k = some u)
    (hparts : ∀ us ls, u = .map us → base.find? k ≠ some (.map ls)) :
    Overrides (.map base) (.map upper) (.map merged) (k :: path) := by
  have habove : (Value.map merged).at? (k :: path) = (Value.map upper).at? (k :: path) := by
    rw [at?_cons_of_some hu, at?_cons_of_some hm]
  have hclosed : ¬((Value.map upper).MapAt [k] ∧ (Value.map base).MapAt [k]) := by
    rintro ⟨⟨us, hus⟩, ⟨ls, hls⟩⟩
    rw [at?_cons_of_some hu] at hus
    obtain ⟨l, hl, hls⟩ := Option.bind_eq_some_iff.1 hls
    cases hls
    exact hparts us ls (Option.some.inj hus) hl
  constructor
  · intro v hv _
    rw [habove, hv]
  · intro ls us hls hus
    rw [at?_cons_of_some hu] at hus
    obtain ⟨l, hl, hls⟩ := Option.bind_eq_some_iff.1 hls
    obtain ⟨es, hes⟩ := MapAt.exists_eq_map ⟨us, hus⟩
    obtain ⟨fs, rfl⟩ := MapAt.exists_eq_map ⟨ls, hls⟩
    exact absurd hl (hparts es fs hes)
  · intro hnone hopen
    -- What is left from below lies deeper, as the upper mapping has the key itself.
    have hne : [k] ≠ k :: path := by
      intro heq
      obtain rfl : [] = path := (List.cons.inj heq).2
      rw [at?_cons_of_some hu] at hnone
      cases hnone
    have hsome : ((Value.map upper).at? [k]).isSome = true := by
      rw [at?_cons_of_some hu]
      rfl
    exact absurd (hopen [k] (List.cons_prefix_cons.2 ⟨rfl, List.nil_prefix⟩) hne hsome) hclosed
  · intro hnone _
    rw [habove, hnone]

/-- One mapping laid over another overrides it at every path: what stands at the path
comes from the upper mapping, from both or from the lower one. -/
theorem overlay_overrides (hupper : (Value.map upper).WellKeyed) (base : Entries)
    (path : List Scalar) :
    Overrides (.map base) (.map upper) (.map (base.overlay upper)) path := by
  induction path generalizing base upper with
  | nil =>
    have hkeys : upper.WellKeyed := hupper.entries
    constructor
    · intro v _ hparts
      exact absurd (mapAt_nil base) (hparts.resolve_left fun hne => hne (mapAt_nil upper))
    · rintro ls us ⟨⟩ ⟨⟩
      exact ⟨_, rfl, Entries.keys_overlay hkeys base⟩
    · intro hnone
      cases hnone
    · intro hnone
      cases hnone
  | cons k path ih =>
    have hkeys : upper.WellKeyed := hupper.entries
    cases hu : upper.find? k with
    | none => exact .of_none hu (Entries.find?_overlay_of_none hu)
    | some u =>
      have hm : (base.overlay upper).find? k = some (overlay (base.find? k) u) :=
        Entries.find?_overlay_of_some hkeys hu
      cases hus : u.entries? with
      | none =>
        rw [overlay_of_entries?_eq_none hus] at hm
        refine .of_replaced hu hm fun us ls heq => ?_
        cases heq
        cases hus
      | some us =>
        obtain rfl := eq_map_of_entries? hus
        cases hl : (base.find? k).bind entries? with
        | none =>
          rw [overlay_of_bind_entries?_eq_none hl] at hm
          refine .of_replaced hu hm fun us' ls _ hls => ?_
          rw [hls] at hl
          cases hl
        | some ls =>
          obtain ⟨l, hl, hls⟩ := Option.bind_eq_some_iff.1 hl
          obtain rfl := eq_map_of_entries? hls
          rw [hl, overlay_map_map] at hm
          exact .cons hl hu hm (ih (hupper.of_find? hu) ls)

/-- A mapping with others in it. -/
def nested : Entries :=
  [(.str "a", .map [(.str "x", .int 1), (.str "y", .list [.int 1])]),
    (.str "b", .map [(.str "c", .int 2)])]

/-- One that has null for a list and a number for a mapping. -/
def nestedChange : Entries := [(.str "a", .map [(.str "y", .null)]), (.str "b", .int 3)]

theorem wellKeyed_nestedChange : (Value.map nestedChange).WellKeyed := by
  refine .map (by decide) ?_
  simp only [nestedChange, List.forall_mem_cons]
  exact ⟨.singleton (by decide) (.scalar _), .scalar _, List.forall_mem_nil _⟩

theorem nestedChange_overrides :
    (Value.map nestedChange).WellKeyed ∧
      (Value.map (nested.overlay nestedChange)).at? [.str "a", .str "x"] = some (.int 1) ∧
      (Value.map (nested.overlay nestedChange)).at? [.str "a", .str "y"] = some .null ∧
      (Value.map (nested.overlay nestedChange)).at? [.str "b", .str "c"] = none := by
  have h := overlay_overrides wellKeyed_nestedChange nested
  have hopen : OpenAlong (.map nested) (.map nestedChange) [.str "a", .str "x"] :=
    (openAlong_cons_iff rfl rfl).2 (openAlong_cons_of_none rfl)
  have hnull : ¬(Value.map nestedChange).MapAt [.str "a", .str "y"] := by
    rintro ⟨entries, hentries⟩
    cases hentries
  have hclosed : ¬OpenAlong (.map nested) (.map nestedChange) [.str "b", .str "c"] := by
    intro hopen
    obtain ⟨⟨entries, hentries⟩, -⟩ :=
      hopen [.str "b"] ⟨[.str "c"], rfl⟩ (by decide) rfl
    cases hentries
  exact ⟨wellKeyed_nestedChange, ((h [.str "a", .str "x"]).kept rfl hopen).trans rfl,
    (h [.str "a", .str "y"]).replaced .null rfl (.inl hnull),
    (h [.str "b", .str "c"]).dropped rfl hclosed⟩

/-! ## Laws -/

theorem wellKeyed_entriesBelow {lower : Option Value} (h : ∀ l, lower = some l → l.WellKeyed) :
    (Value.map (entriesBelow lower)).WellKeyed := by
  cases hl : lower.bind entries? with
  | none =>
    rw [entriesBelow, hl]
    exact wellKeyed_map_nil
  | some ls =>
    obtain ⟨l, rfl, hls⟩ := Option.bind_eq_some_iff.1 hl
    rw [entriesBelow, hl, Option.getD_some, ← eq_map_of_entries? hls]
    exact h l rfl

/-- What has been laid on top is not changed by laying it there again. -/
theorem overlay_overlay_self {v : Value} (hv : v.WellKeyed) {lower : Option Value}
    (hlower : ∀ l, lower = some l → l.WellKeyed) :
    overlay (some (overlay lower v)) v = overlay lower v := by
  induction hv generalizing lower with
  | scalar _ | list _ | pair _ _ | set _ =>
    rw [overlay_of_entries?_eq_none, overlay_of_entries?_eq_none] <;> rfl
  | @map entries hkeys hvalues ih =>
    have hbelow := wellKeyed_entriesBelow hlower
    rw [overlay_map hkeys lower, overlay_map_map]
    refine congrArg Value.map ((hbelow.entries.overlay hkeys).ext ?_ ?_)
    · have hnone : ∀ k ∈ Entries.keys entries,
          ¬(((entriesBelow lower).overlay entries).find? k).isNone = true := by
        intro k hk
        obtain ⟨v, hv⟩ := Option.isSome_iff_exists.1 (hkeys.isSome_find? hk)
        simp [Entries.isNone_find?_overlay hkeys, hv]
      rw [Entries.keys_overlay hkeys ((entriesBelow lower).overlay entries),
        List.filter_eq_nil_iff.2 hnone, List.append_nil]
    · intro k _
      rw [Entries.find?_overlay hkeys]
      cases hw : Entries.find? k entries with
      | none => rfl
      | some w =>
        obtain ⟨j, hj⟩ := Entries.exists_mem_of_find?_eq_some hw
        dsimp only
        rw [Entries.find?_overlay_of_some hkeys hw]
        exact congrArg some (ih (j, w) hj fun l hl => hbelow.of_find? hl)

/-- Whether a value parts two mappings: somewhere it has a value that is no mapping
between two that are. -/
def Parts (lower middle upper : Value) : Prop :=
  ∃ path, lower.MapAt path ∧ upper.MapAt path ∧ (middle.at? path).isSome = true ∧
    ¬middle.MapAt path

/-- What parts two values under a key parts the mappings that hold them. -/
theorem Parts.of_find? {lower middle upper : Entries} {l m u : Value} {k : Scalar}
    (hl : lower.find? k = some l) (hm : middle.find? k = some m) (hu : upper.find? k = some u)
    (h : Parts l m u) : Parts (.map lower) (.map middle) (.map upper) := by
  obtain ⟨path, hlower, hupper, hsome, hnot⟩ := h
  refine ⟨k :: path, (mapAt_cons_iff hl).2 hlower, (mapAt_cons_iff hu).2 hupper, ?_, ?_⟩
  · rwa [at?_cons_of_some hm]
  · rwa [mapAt_cons_iff hm]

/-- What lies below a key in a layer lies in a mapping. -/
theorem find?_entriesBelow {lower : Option Value} {l : Value}
    (h : (entriesBelow lower).find? k = some l) :
    lower = some (.map (entriesBelow lower)) := by
  unfold entriesBelow at h ⊢
  cases hl : lower.bind entries? with
  | none =>
    rw [hl] at h
    cases h
  | some ls =>
    obtain ⟨l', rfl, hls⟩ := Option.bind_eq_some_iff.1 hl
    rw [Option.getD_some, eq_map_of_entries? hls]

/-- Of three values it does not matter which two are laid over each other first,
unless the middle one parts the others. -/
theorem overlay_assoc {upper : Value} (hupper : upper.WellKeyed) {middle : Value}
    (hmiddle : middle.WellKeyed) {lower : Option Value}
    (hlower : ∀ l, lower = some l → l.WellKeyed)
    (hparts : ∀ l, lower = some l → ¬Parts l middle upper) :
    overlay (some (overlay lower middle)) upper = overlay lower (overlay (some middle) upper) := by
  induction hupper generalizing middle lower with
  | scalar _ | list _ | pair _ _ | set _ =>
    rw [overlay_of_entries?_eq_none, overlay_of_entries?_eq_none, overlay_of_entries?_eq_none] <;>
      rfl
  | @map us hus _ ih =>
    cases hms : middle.entries? with
    | none =>
      -- The middle value is laid over no mapping, as it would part it from the upper one.
      have hnone : lower.bind entries? = none := by
        rw [Option.eq_none_iff_forall_ne_some]
        intro ls hls
        obtain ⟨l, rfl, hl⟩ := Option.bind_eq_some_iff.1 hls
        obtain rfl := eq_map_of_entries? hl
        refine hparts _ rfl ⟨[], mapAt_nil ls, mapAt_nil us, rfl, ?_⟩
        rintro ⟨ms, h⟩
        cases h
        cases hms
      have hmiddle : (some middle).bind entries? = none := hms
      rw [overlay_of_bind_entries?_eq_none hnone, overlay_of_bind_entries?_eq_none hmiddle,
        overlay_of_bind_entries?_eq_none hnone]
    | some ms =>
      obtain rfl := eq_map_of_entries? hms
      have hbelow := wellKeyed_entriesBelow hlower
      have hms := hmiddle.entries
      rw [overlay_map hms lower, overlay_map_map, overlay_map_map, overlay_map (hms.overlay hus)]
      refine congrArg Value.map ((hbelow.entries.overlay (hms.overlay hus)).ext ?_ ?_)
      · simp only [Entries.keys_overlay hus, Entries.keys_overlay hms,
          Entries.keys_overlay (hms.overlay hus), Entries.isNone_find?_overlay hms,
          List.filter_append, List.filter_filter, List.append_assoc]
      · intro k _
        rw [Entries.find?_overlay hus, Entries.find?_overlay (hms.overlay hus),
          Entries.find?_overlay hus, Entries.find?_overlay hms]
        cases hu : Entries.find? k us with
        | none => rfl
        | some u =>
          cases hm : Entries.find? k ms with
          | none =>
            have hover : u = overlay none u := (overlay_of_bind_entries?_eq_none rfl u).symm
            exact congrArg some (congrArg (overlay _) hover)
          | some m =>
            obtain ⟨j, hj⟩ := Entries.exists_mem_of_find?_eq_some hu
            refine congrArg some (ih (j, u) hj (hmiddle.of_find? hm) ?_ ?_)
            · exact fun l hl => hbelow.of_find? hl
            · exact fun l hl h => hparts _ (find?_entriesBelow hl) (.of_find? hl hm hu h)

end Value

namespace Entries

variable {a b c : Entries}

theorem overlay_overlay_self (ha : (Value.map a).WellKeyed) (hb : (Value.map b).WellKeyed) :
    (a.overlay b).overlay b = a.overlay b := by
  have h : Value.overlay (some (Value.overlay (some (.map a)) (.map b))) (.map b) =
      Value.overlay (some (.map a)) (.map b) :=
    Value.overlay_overlay_self hb fun _ hl => Option.some.inj hl ▸ ha
  simp only [Value.overlay_map_map] at h
  exact Value.map.inj h

/-- A layer over itself is itself. -/
theorem overlay_self (ha : (Value.map a).WellKeyed) : a.overlay a = a := by
  -- Over nothing at all a value stays as it is.
  have hnone : Value.overlay none (.map a) = .map a := Value.overlay_of_bind_entries?_eq_none rfl _
  have h : Value.overlay (some (Value.overlay none (.map a))) (.map a) =
      Value.overlay none (.map a) :=
    Value.overlay_overlay_self ha fun _ hl => nomatch hl
  rw [hnone, Value.overlay_map_map] at h
  exact Value.map.inj h

theorem overlay_assoc (ha : (Value.map a).WellKeyed) (hb : (Value.map b).WellKeyed)
    (hc : (Value.map c).WellKeyed) (hparts : ¬Value.Parts (.map a) (.map b) (.map c)) :
    (a.overlay b).overlay c = a.overlay (b.overlay c) := by
  have h : Value.overlay (some (Value.overlay (some (.map a)) (.map b))) (.map c) =
      Value.overlay (some (.map a)) (Value.overlay (some (.map b)) (.map c)) :=
    Value.overlay_assoc hc hb (fun _ hl => Option.some.inj hl ▸ ha)
      fun _ hl => Option.some.inj hl ▸ hparts
  simp only [Value.overlay_map_map] at h
  exact Value.map.inj h

/-- A number between two mappings hides the lower one if it is laid over that first. -/
example :
    let a : Entries := [(.str "x", .map [(.str "p", .null)])]
    let b : Entries := [(.str "x", .int 0)]
    let c : Entries := [(.str "x", .map [])]
    ((Value.map ((a.overlay b).overlay c)).at? [.str "x", .str "p"]).isSome = false ∧
      ((Value.map (a.overlay (b.overlay c))).at? [.str "x", .str "p"]).isSome = true := by
  decide

end Entries

end LuceneQuery
