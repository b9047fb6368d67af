import LuceneQuery.Proofs.Config.FirstFault
import LuceneQuery.Proofs.Config.Settings
import LuceneQuery.Proofs.Value.Sparse

/-!
# Null in configurations

In most places of a configuration null says that nothing is set.  The *sparse form* of a
configuration has none of these entries, at any depth of groups.  No reader tells a
mapping from its sparse form, be it by what it reads or by the fault that it reports
(`readClause_sparse`, `readQuery_sparse`), so a configuration and its sparse form are
read alike.

Elsewhere null is a value of the wrong type: as the name of a query, as the body of a
clause and as a distance (`HoldsNull`).  No query that holds one of these is read
(`HoldsNull.not_read`).
-/

namespace LuceneQuery.Config

/-! ## Sparse forms -/

/-- Whether a key is one of some names. -/
def isOneOf (names : List Text) : Scalar → Bool
  | .str s => names.contains s
  | _ => false

/-- A range without the bounds and the type that are null. -/
def sparseRange : Value → Value
  | .map bounds => .map (Entries.sparse (isOneOf rangeNames) bounds)
  | v => v

mutual

/-- A clause without the slots that are null, in sparse form inside. -/
def sparseClause : Value → Value
  | .map entries => .map (Entries.sparse (isOneOf SlotNames.ofClause.toList) (sparseBodies entries))
  | v => v

/-- The entries of a clause, of which the bodies are put in sparse form. -/
def sparseBodies : List (Scalar × Value) → Entries
  | [] => []
  | (k, v) :: rest =>
    (k, if k = .str Kind.group.name then sparseGroup v
      else if k = .str Kind.range.name then sparseRange v else v) :: sparseBodies rest

/-- A list of clauses in sparse form. -/
def sparseGroup : Value → Value
  | .list items => .list (sparseClauses items)
  | v => v

/-- The items of a list of clauses in sparse form. -/
def sparseClauses : List Value → List Value
  | [] => []
  | v :: rest => sparseClause v :: sparseClauses rest

end

/-- The keys of a query that may be left out for null. -/
def optionalNames : List Text := "clauses" :: SlotNames.ofQuery.toList

/-- A body of a query in sparse form. -/
def sparseQueryBody (k : Scalar) (v : Value) : Value :=
  if k = .str "clauses" then sparseGroup v else v

/-- The entries of a query in sparse form. -/
def sparseQueryEntries (entries : Entries) : Entries :=
  (entries.mapValues sparseQueryBody).sparse (isOneOf optionalNames)

/-- A query without the slots and the clauses that are null, in sparse form inside. -/
def sparseQuery : Value → Value
  | .map entries => .map (sparseQueryEntries entries)
  | v => v

/-- A part with settings, without the entries that are null. -/
def sparseSection : Value → Value
  | .map entries => .map (Entries.sparse (fun _ => true) entries)
  | v => v

/-- A list of queries in sparse form. -/
def sparseQueries : Value → Value
  | .list items => .list (items.map sparseQuery)
  | v => v

/-- A part of a configuration in sparse form. -/
def sparsePart (k : Scalar) (v : Value) : Value :=
  if k = .str "queries" then sparseQueries v
  else if isOneOf ["log", "render", "output"] k then sparseSection v
  else v

/-- A configuration without all that is null and may be left out. -/
def sparseRoot (root : Entries) : Entries :=
  (root.mapValues sparsePart).sparse (isOneOf ["log", "render", "output", "queries"])

/-! ## What the forms hold -/

/-- A body of a clause in sparse form. -/
def sparseBody (k : Scalar) (v : Value) : Value :=
  if k = .str Kind.group.name then sparseGroup v
  else if k = .str Kind.range.name then sparseRange v else v

/-- The entries of a clause in sparse form. -/
def sparseEntries (entries : Entries) : Entries :=
  (entries.mapValues sparseBody).sparse (isOneOf SlotNames.ofClause.toList)

theorem sparseBodies_eq (entries : Entries) :
    sparseBodies entries = entries.mapValues sparseBody := by
  induction entries with
  | nil => simp [sparseBodies, Entries.mapValues]
  | cons e rest ih => simpa [sparseBodies, Entries.mapValues, sparseBody] using ih

/-- The clauses of a group lose their nulls one by one. -/
theorem sparseClauses_eq_map (items : List Value) :
    sparseClauses items = items.map sparseClause := by
  induction items with
  | nil => simp [sparseClauses]
  | cons v rest ih => simp [sparseClauses, ih]

theorem sparseClause_map (entries : Entries) :
    sparseClause (.map entries) = .map (sparseEntries entries) := by
  rw [sparseClause, sparseBodies_eq, sparseEntries]

theorem exists_name_of_isOneOf {names : List Text} {k : Scalar} (h : isOneOf names k = true) :
    ∃ name ∈ names, k = .str name := by
  cases k with
  | str s => exact ⟨s, by simpa [isOneOf] using h, rfl⟩
  | _ => cases h

theorem isNull_sparseGroup (v : Value) : (sparseGroup v).isNull = v.isNull := by
  cases v with
  | list items => simp [sparseGroup, Value.isNull]
  | _ => simp [sparseGroup]

/-- No value becomes null or stops being null. -/
theorem isNull_sparseBody (k : Scalar) (v : Value) : (sparseBody k v).isNull = v.isNull := by
  unfold sparseBody
  split
  · exact isNull_sparseGroup v
  · split
    · cases v <;> rfl
    · rfl

theorem isNull_sparseQueryBody (k : Scalar) (v : Value) :
    (sparseQueryBody k v).isNull = v.isNull := by
  unfold sparseQueryBody
  split
  · exact isNull_sparseGroup v
  · rfl

theorem isNull_sparsePart (k : Scalar) (v : Value) : (sparsePart k v).isNull = v.isNull := by
  unfold sparsePart
  split
  · cases v <;> rfl
  · split
    · cases v <;> rfl
    · rfl

section

variable {entries : Entries} {name : Text}

theorem sparseBody_of_ne {k : Scalar} (hgroup : k ≠ .str Kind.group.name)
    (hrange : k ≠ .str Kind.range.name) : sparseBody k = id := by
  funext v
  rw [sparseBody, if_neg hgroup, if_neg hrange, id]

/-- Under a key that is no slot there is the same body in sparse form. -/
theorem get?_sparseEntries (hname : name ∉ SlotNames.ofClause.toList) :
    (sparseEntries entries).get? name = (entries.get? name).map (sparseBody (.str name)) := by
  rw [sparseEntries, Entries.get?_sparse (by simpa [isOneOf] using hname), Entries.get?_mapValues]

/-- The slots of a clause are present in its sparse form. -/
theorem present?_sparseEntries (h : entries.WellKeyed) (hname : name ∈ SlotNames.ofClause.toList) :
    (sparseEntries entries).present? name = entries.present? name := by
  have hne : Scalar.str name ≠ .str Kind.group.name ∧ Scalar.str name ≠ .str Kind.range.name := by
    simp only [SlotNames.toList, List.mem_cons, List.not_mem_nil, or_false] at hname
    rcases hname with rfl | rfl | rfl <;> decide
  rw [sparseEntries, Entries.present?_sparse h.mapValues,
    Entries.present?_mapValues isNull_sparseBody, sparseBody_of_ne hne.1 hne.2, Option.map_id, id]

theorem sparseQueryBody_of_ne {k : Scalar} (hk : k ≠ .str "clauses") : sparseQueryBody k = id := by
  funext v
  rw [sparseQueryBody, if_neg hk, id]

/-- Of a query, what is present is present in its sparse form. -/
theorem present?_sparseQueryEntries (h : entries.WellKeyed) :
    (sparseQueryEntries entries).present? name =
      (entries.present? name).map (sparseQueryBody (.str name)) := by
  rw [sparseQueryEntries, Entries.present?_sparse h.mapValues,
    Entries.present?_mapValues isNull_sparseQueryBody]

end

/-! ## Readers of equal entries -/

section

variable {key : KeyPath} {entries entries' : Entries}

/-- Slots depend on nothing but what is present under their names. -/
theorem readSlots_congr {names : SlotNames}
    (h : ∀ name ∈ names.toList, entries'.present? name = entries.present? name) :
    readSlots key names entries' = readSlots key names entries := by
  simp only [SlotNames.toList, List.forall_mem_cons] at h
  obtain ⟨hfield, hoperator, hboost, -⟩ := h
  simp only [readSlots, readField, readOperator, readBoost, hfield, hoperator, hboost]

/-- The kind of a clause depends on nothing but which of the keys of kinds it has. -/
theorem kindOf_congr
    (h : ∀ kind : Kind, (entries'.get? kind.name).isSome = (entries.get? kind.name).isSome) :
    kindOf key entries' = kindOf key entries := by
  simp only [kindOf, h]

/-- A distance depends on nothing but its own entry. -/
theorem readDistance_congr {name : Text} {check : Value → Except ClauseFault Int}
    (h : entries'.get? name = entries.get? name) :
    readDistance key name check entries' = readDistance key name check entries := by
  simp only [readDistance, h]

end

/-! ## Readers of sparse forms -/

section

variable {escape : Bool} {key : KeyPath} {entries : Entries} {kind : Kind} {v : Value}

/-- No kind has the name of a slot, so that its entry is never left out. -/
theorem kind_name_not_mem_slots (kind : Kind) : kind.name ∉ SlotNames.ofClause.toList := by
  cases kind <;> decide

theorem kindOf_sparseEntries : kindOf key (sparseEntries entries) = kindOf key entries :=
  kindOf_congr fun kind => by
    rw [get?_sparseEntries (kind_name_not_mem_slots kind), Option.isSome_map]

theorem checkKeys_sparseEntries :
    checkKeys key kind (sparseEntries entries) = checkKeys key kind entries := by
  have hknown : ∀ k, isOneOf SlotNames.ofClause.toList k = true →
      ∃ name ∈ SlotNames.ofClause.toList ++ kind.distanceNames ++ [kind.name], k = .str name := by
    intro k hk
    obtain ⟨name, hname, rfl⟩ := exists_name_of_isOneOf hk
    exact ⟨name, by simp [hname], rfl⟩
  rw [checkKeys, sparseEntries, checkNames_sparse hknown, checkNames_congr Entries.keys_mapValues,
    checkKeys]

/-- A range is read alike without its nulls. -/
theorem readRange_sparse (h : v.WellKeyed) :
    readRange escape key (sparseRange v) = readRange escape key v := by
  cases v with
  | map bounds =>
    have hkeys := h.entries
    simp only [readRange, sparseRange, checkNames_sparse fun _ => exists_name_of_isOneOf, readBound,
      Entries.present?_sparse hkeys, Entries.getOr_sparse hkeys]
  | _ => rfl

theorem readLeaf_sparseEntries (h : (Value.map entries).WellKeyed) (hleaf : kind ≠ .group) :
    readLeaf escape key kind (sparseEntries entries) = readLeaf escape key kind entries := by
  have hsame {name : Text} (hname : name ∉ SlotNames.ofClause.toList)
      (hgroup : Scalar.str name ≠ .str Kind.group.name)
      (hrange : Scalar.str name ≠ .str Kind.range.name) :
      (sparseEntries entries).get? name = entries.get? name := by
    rw [get?_sparseEntries hname, sparseBody_of_ne hgroup hrange, Option.map_id, id]
  cases kind with
  | term =>
    have hbody : (sparseEntries entries).get? Kind.term.name = entries.get? Kind.term.name :=
      hsame (by decide) (by decide) (by decide)
    have hfuzziness : (sparseEntries entries).get? "fuzziness" = entries.get? "fuzziness" :=
      hsame (by decide) (by decide) (by decide)
    simp only [readLeaf, readTerm, hbody, readDistance_congr hfuzziness]
  | phrase =>
    have hbody : (sparseEntries entries).get? Kind.phrase.name = entries.get? Kind.phrase.name :=
      hsame (by decide) (by decide) (by decide)
    have hslop : (sparseEntries entries).get? "proximity" = entries.get? "proximity" :=
      hsame (by decide) (by decide) (by decide)
    simp only [readLeaf, readPhrase, hbody, readDistance_congr hslop]
  | range =>
    have hbody : (sparseEntries entries).get? Kind.range.name =
        (entries.get? Kind.range.name).map sparseRange :=
      get?_sparseEntries (kind_name_not_mem_slots .range)
    simp only [readLeaf, hbody]
    cases hv : entries.get? Kind.range.name with
    | none => rfl
    | some v => exact readRange_sparse (h.of_find? hv)
  | group => exact absurd rfl hleaf

/-- A group is read like its sparse form if its items are. -/
theorem readGroup_sparse
    (h : ∀ items, v = .list items → ∀ w ∈ items, ∀ key,
      readClause escape key (sparseClause w) = readClause escape key w) :
    readGroup escape key (sparseGroup v) = readGroup escape key v := by
  cases v with
  | list items =>
    have hitems := h items rfl
    simp only [sparseGroup, sparseClauses_eq_map, readGroup, readClauses_eq_readItems]
    exact readItems_map_congr fun w hw i => hitems w hw _
  | _ => simp only [sparseGroup]

theorem readGroupOf_sparseEntries
    (h : ∀ v, entries.get? Kind.group.name = some v →
      readGroup escape (key.field Kind.group.name) (sparseGroup v) =
        readGroup escape (key.field Kind.group.name) v) :
    readGroupOf escape key (sparseEntries entries) = readGroupOf escape key entries := by
  have hget : (sparseEntries entries).get? Kind.group.name =
      (entries.get? Kind.group.name).map sparseGroup :=
    get?_sparseEntries (kind_name_not_mem_slots .group)
  cases hv : entries.get? Kind.group.name with
  | none =>
    rw [hv, Option.map_none] at hget
    rw [readGroupOf_of_none hget, readGroupOf_of_none hv]
  | some v =>
    rw [hv, Option.map_some] at hget
    rw [readGroupOf_eq hget, readGroupOf_eq hv]
    exact h v hv

/-- A clause is read like its sparse form, or refused for the same fault. -/
theorem readClause_sparse (h : v.WellKeyed) :
    readClause escape key (sparseClause v) = readClause escape key v := by
  induction v using Value.groupInduction generalizing key with
  | scalar _ | list _ | pair _ _ | set _ => simp [sparseClause]
  | map entries ih =>
    have hgroup : readGroupOf escape key (sparseEntries entries) =
        readGroupOf escape key entries := by
      refine readGroupOf_sparseEntries fun v hv => readGroup_sparse fun items hlist w hw key => ?_
      subst hlist
      have hmem := Entries.mem_of_get?_eq_some hv
      exact ih _ _ hmem w hw ((h.of_find? hv).of_mem hw)
    have hslots : readSlots key .ofClause (sparseEntries entries) =
        readSlots key .ofClause entries :=
      readSlots_congr fun name hname => present?_sparseEntries h.entries hname
    have hleaf (kind : Kind) (hkind : kind ≠ .group) :
        readLeaf escape key kind (sparseEntries entries) = readLeaf escape key kind entries :=
      readLeaf_sparseEntries h hkind
    rw [sparseClause_map]
    simp only [readClause, kindOf_sparseEntries, checkKeys_sparseEntries, hgroup, hslots]
    refine bind_congr fun kind => bind_congr fun _ => ?_
    split
    · rfl
    · next hkind => rw [hleaf kind hkind]

theorem readName_sparseQueryEntries :
    readName key (sparseQueryEntries entries) = readName key entries := by
  have hname : (sparseQueryEntries entries).get? "NAME" = entries.get? "NAME" := by
    rw [sparseQueryEntries, Entries.get?_sparse (by decide), Entries.get?_mapValues,
      sparseQueryBody_of_ne (by decide), Option.map_id, id]
  simp only [readName, hname]

theorem checkNames_sparseQueryEntries :
    checkNames key none queryNames (sparseQueryEntries entries) =
      checkNames key none queryNames entries := by
  have hknown : ∀ k, isOneOf optionalNames k = true → ∃ name ∈ queryNames, k = .str name := by
    intro k hk
    obtain ⟨name, hname, rfl⟩ := exists_name_of_isOneOf hk
    exact ⟨name, List.mem_cons_of_mem _ hname, rfl⟩
  rw [sparseQueryEntries, checkNames_sparse hknown, checkNames_congr Entries.keys_mapValues]

/-- The clauses of a query are read alike, also if the query has null for a list of them. -/
theorem readGroup_sparseQueryEntries (h : (Value.map entries).WellKeyed) :
    readGroup escape key ((sparseQueryEntries entries).getOr "clauses" (.list [])) =
      readGroup escape key (entries.getOr "clauses" (.list [])) := by
  have hbody : sparseQueryBody (.str "clauses") = sparseGroup := rfl
  rw [Entries.getOr, Entries.getOr, present?_sparseQueryEntries h.entries, hbody]
  cases hv : entries.present? "clauses" with
  | none => rfl
  | some v =>
    refine readGroup_sparse fun items hlist w hw key => readClause_sparse ?_
    subst hlist
    exact (h.of_find? (Entries.get?_of_present? hv)).of_mem hw

/-- A query is read like its sparse form, or refused for the same fault. -/
theorem readQuery_sparse (h : v.WellKeyed) :
    readQuery escape key (sparseQuery v) = readQuery escape key v := by
  cases v with
  | map entries =>
    have hslots : readSlots key .ofQuery (sparseQueryEntries entries) =
        readSlots key .ofQuery entries := by
      refine readSlots_congr fun name hname => ?_
      have hne : Scalar.str name ≠ .str "clauses" := by
        rintro ⟨⟩
        exact absurd hname (by decide)
      rw [present?_sparseQueryEntries h.entries, sparseQueryBody_of_ne hne, Option.map_id, id]
    simp only [sparseQuery, readQuery, checkNames_sparseQueryEntries, readName_sparseQueryEntries,
      readGroup_sparseQueryEntries h, hslots]
  | _ => rfl

end

/-! ## Configurations in sparse form -/

section

variable {root : Entries}

theorem present?_sparseRoot (h : root.WellKeyed) (name : Text) :
    (sparseRoot root).present? name = (root.present? name).map (sparsePart (.str name)) := by
  rw [sparseRoot, Entries.present?_sparse h.mapValues, Entries.present?_mapValues isNull_sparsePart]

/-- A part with settings is read like its sparse form by a reader that does not tell
null from nothing in it. -/
theorem bind_section?_sparseRoot {α : Type} {name : Text} {f : Entries → Except Fault α}
    (hroot : (Value.map root).WellKeyed) (hname : isOneOf ["log", "render", "output"] (.str name))
    (hf : ∀ entries, entries.WellKeyed → f (entries.sparse fun _ => true) = f entries) :
    (section? (sparseRoot root) name false >>= f) = section? root name false >>= f := by
  have hpart : sparsePart (.str name) = sparseSection := by
    funext v
    have hne : Scalar.str name ≠ .str "queries" := by
      intro heq
      rw [heq] at hname
      exact absurd hname (by decide)
    rw [sparsePart, if_neg hne, if_pos hname]
  simp only [section?, present?_sparseRoot hroot.entries, hpart]
  cases hv : root.present? name with
  | none => rfl
  | some v =>
    cases v with
    | map entries => exact hf entries (hroot.of_find? (Entries.get?_of_present? hv)).entries
    | _ => rfl

/-- The part `log` is read alike without its nulls. -/
theorem LogSettings.read_sparseRoot (h : (Value.map root).WellKeyed) :
    read (sparseRoot root) = read root :=
  bind_section?_sparseRoot h (by decide) fun entries hkeys => by
    simp only [Entries.getOr_sparse hkeys]

theorem readEscape_sparseRoot (h : (Value.map root).WellKeyed) :
    readEscape (sparseRoot root) = readEscape root :=
  bind_section?_sparseRoot h (by decide) fun entries hkeys => by
    simp only [Entries.getOr_sparse hkeys]

theorem OutputSettings.read_sparseRoot (h : (Value.map root).WellKeyed) :
    read (sparseRoot root) = read root :=
  bind_section?_sparseRoot h (by decide) fun entries hkeys => by
    simp only [Entries.getOr_sparse hkeys]

theorem readQueries_sparseRoot {escape : Bool} (h : (Value.map root).WellKeyed) :
    readQueries escape (sparseRoot root) = readQueries escape root := by
  simp only [readQueries, present?_sparseRoot h.entries]
  cases hv : root.present? "queries" with
  | none => rfl
  | some v =>
    cases v with
    | list items =>
      have hitems : (Value.list items).WellKeyed := h.of_find? (Entries.get?_of_present? hv)
      change readQueriesFrom escape 0 (items.map sparseQuery) = readQueriesFrom escape 0 items
      simp only [readQueriesFrom_eq_readItems]
      exact readItems_map_congr fun w hw i => readQuery_sparse (hitems.of_mem hw)
    | _ => rfl

/-- A configuration and its sparse form are the same settings or have the same fault. -/
theorem Settings.read_sparseRoot (h : (Value.map root).WellKeyed) :
    Settings.read (sparseRoot root) = Settings.read root := by
  simp only [Settings.read, LogSettings.read_sparseRoot h, readEscape_sparseRoot h,
    OutputSettings.read_sparseRoot h, readQueries_sparseRoot h]

end

/-! ## Null out of place -/

/-- The names of a node under which null does not count as nothing. -/
def Node.typedNames : Node → List Text
  | .clause => "fuzziness" :: "proximity" :: Kind.names
  | .query => ["NAME"]

/-- Whether a node has null under a name where it does not count as nothing, itself or
in a clause inside. -/
inductive HoldsNull : Node → Value → Prop where
  | here {node : Node} {entries : Entries} {name : Text} (hname : name ∈ node.typedNames)
      (hnull : entries.get? name = some .null) : HoldsNull node (.map entries)
  | inside {node : Node} {entries : Entries} {items : List Value} {v : Value}
      (hitems : entries.get? node.itemsName = some (.list items)) (hv : v ∈ items)
      (h : HoldsNull .clause v) : HoldsNull node (.map entries)

section

variable {escape : Bool} {entries : Entries}

/-- A clause of a kind has no keys but those of the kind. -/
theorem HasKind.mem_keys_of_get? {kind : Kind} {name : Text} {v : Value} (h : HasKind kind entries)
    (hv : entries.get? name = some v) : name ∈ kind.keys := by
  have hkey : .str name ∈ entries.keys :=
    Entries.isSome_get?_iff.1 (Option.isSome_iff_exists.2 ⟨v, hv⟩)
  obtain ⟨name', hname', heq⟩ := h.known _ hkey
  exact Scalar.str.inj heq ▸ hname'

theorem not_denotesDistance_null {p : Int → Prop} {n : Int} :
    ¬DenotesDistance p (some .null) n := nofun

/-- No leaf has null for its body or its distance. -/
theorem DenotesLeaf.get?_ne_null {kind : Kind} {l : Leaf} (h : DenotesLeaf escape entries kind l)
    {name : Text} (hname : name ∈ kind.name :: kind.distanceNames) :
    entries.get? name ≠ some .null := by
  intro hnull
  cases h with
  | term body hword hne hblank fuzziness =>
    rcases List.mem_cons.1 hname with rfl | hname
    · cases hnull.symm.trans body
      cases hword
    · obtain rfl := List.mem_singleton.1 hname
      rw [hnull] at fuzziness
      exact not_denotesDistance_null fuzziness
  | phrase body slop =>
    rcases List.mem_cons.1 hname with rfl | hname
    · cases hnull.symm.trans body
    · obtain rfl := List.mem_singleton.1 hname
      rw [hnull] at slop
      exact not_denotesDistance_null slop
  | range body =>
    obtain rfl := List.mem_singleton.1 hname
    cases hnull.symm.trans body

/-- Of the names that do not take null, a leaf has no more than its body and its
distance. -/
theorem mem_of_mem_typedNames {kind : Kind} {name : Text} (htyped : name ∈ Node.clause.typedNames)
    (hkey : name ∈ kind.keys) : name ∈ kind.name :: kind.distanceNames := by
  have hall : ∀ name ∈ Node.clause.typedNames, name ∈ kind.keys →
      name ∈ kind.name :: kind.distanceNames := by
    cases kind <;> decide
  exact hall name htyped hkey

/-- Null is no name. -/
theorem readName_ne_ok_of_null {key : KeyPath} {name : Option Text}
    (hnull : entries.get? "NAME" = some .null) : readName key entries ≠ .ok name := by
  rw [readName, hnull]
  exact nofun

/-- No node that holds null out of place is read. -/
theorem HoldsNull.not_read {node : Node} {v : Value} (h : HoldsNull node v) {key : KeyPath}
    {c : Clause} : node.read escape key v ≠ .ok c := by
  induction h generalizing key c with
  | @here node entries name hname hnull =>
    intro hread
    cases node with
    | clause =>
      have hbody {kind : Kind} (hkind : HasKind kind entries) :
          name ∈ kind.name :: kind.distanceNames :=
        mem_of_mem_typedNames hname (hkind.mem_keys_of_get? hnull)
      cases readClause_eq_ok_iff.1 hread with
      | leaf hkind hleaf _ => exact hleaf.get?_ne_null (hbody hkind) hnull
      | group hkind body _ _ =>
        obtain rfl := List.mem_singleton.1 (hbody hkind)
        cases hnull.symm.trans body
    | query =>
      obtain rfl := List.mem_singleton.1 hname
      obtain ⟨q, hq, -⟩ := Node.read_query_eq_ok_iff.1 hread
      simp only [readQuery, bind_eq_ok_iff] at hq
      obtain ⟨_, -, _, hreadName, -⟩ := hq
      exact readName_ne_ok_of_null hnull hreadName
  | @inside node entries items v hitems hv _ ih =>
    intro hread
    -- All items of a node that is read are read, among them the one that holds null.
    have hitem : ∃ key c, readClause escape key v = .ok c := by
      cases node with
      | clause =>
        cases readClause_eq_ok_iff.1 hread with
        | leaf hkind hleaf _ =>
          obtain rfl := (hkind.only .group).1 (Entries.isSome_get?_iff.1 (hitems ▸ rfl))
          cases hleaf
        | group _ body hclauses _ =>
          cases hitems.symm.trans body
          obtain ⟨c, hc⟩ := exists_forall₂_iff.1 ⟨_, hclauses⟩ v hv
          exact ⟨key, c, readClause_eq_ok_iff.2 hc⟩
      | query =>
        obtain ⟨q, hq, -⟩ := Node.read_query_eq_ok_iff.1 hread
        simp only [readQuery, bind_eq_ok_iff, readGroup_eq_ok_iff, readClauses_eq_readItems] at hq
        obtain ⟨_, -, _, -, _, ⟨items', hitems', hcs⟩, -⟩ := hq
        have hsame : entries.getOr "clauses" (.list []) = .list items := by
          simp only [Node.itemsName] at hitems
          simp only [Entries.getOr, Entries.present?, hitems, Option.getD_some]
        cases hsame.symm.trans hitems'
        obtain ⟨j, c, hc⟩ := exists_read_of_item hcs hv
        exact ⟨_, c, hc⟩
    obtain ⟨key, c, hc⟩ := hitem
    exact ih hc

/-- No list of queries with one that holds null out of place is read. -/
theorem not_readQueries_of_holdsNull {root : Entries} {items : List Value} {v : Value}
    (hroot : root.get? "queries" = some (.list items)) (hv : v ∈ items) (h : HoldsNull .query v)
    (escape : Bool) : ∃ f, readQueries escape root = .error f := by
  cases hread : readQueries escape root with
  | error f => exact ⟨f, rfl⟩
  | ok queries =>
    simp only [readQueries, Entries.present?, hroot, listAt, bind_eq_ok_iff, Except.ok.injEq,
      exists_eq_left', readQueriesFrom_eq_readItems] at hread
    obtain ⟨j, q, hq⟩ := exists_read_of_item hread hv
    exact absurd (Node.read_query_eq_ok_iff.2 ⟨q, hq, rfl⟩) h.not_read

end

/-- Null counts as nothing where it may.  A configuration and its sparse form are read
as the same settings, or refused with the same fault.  As the name of a query, as a
distance and as the body of a clause, at any depth, null is refused. -/
theorem null_is_nothing_or_refused {root : Entries} (h : (Value.map root).WellKeyed) :
    Settings.read (sparseRoot root) = Settings.read root ∧
      ∀ {items : List Value} {v : Value}, root.get? "queries" = some (.list items) → v ∈ items →
        HoldsNull .query v →
        (∀ escape, ∃ f, readQueries escape root = .error f) ∧
          ∃ f, Settings.read root = .error f := by
  refine ⟨Settings.read_sparseRoot h, fun hroot hv hnull => ⟨?_, ?_⟩⟩
  · exact not_readQueries_of_holdsNull hroot hv hnull
  · cases hread : Settings.read root with
    | error f => exact ⟨f, rfl⟩
    | ok s =>
      obtain ⟨f, hf⟩ := not_readQueries_of_holdsNull hroot hv hnull s.escape
      cases (Settings.read_eq_ok_iff.1 hread).queries.symm.trans hf

/-- A configuration with null wherever it counts as nothing. -/
def nullRoot : Entries :=
  [(.str "log", .null), (.str "render", .map [(.str "escape", .null)]),
    (.str "output", .map [(.str "formats", .null), (.str "base_dir", .null)]),
    (.str "queries", .list [.map [(.str "FIELD", .null), (.str "OPERATOR", .null),
      (.str "BOOST", .null), (.str "clauses", .list [.map [(.str "field", .null),
        (.str "group", .list [.map [(.str "operator", .null), (.str "boost", .null),
          (.str "range", .map [(.str "lower", .null), (.str "upper", .int 5),
            (.str "type", .null)])]])]])]])]

/-- A configuration whose only clause is in a group and has null for its distance. -/
def nullDistanceRoot : Entries :=
  [(.str "queries", .list [.map [(.str "clauses", .list [.map [(.str "group",
    .list [.map [(.str "term", .str "a"), (.str "fuzziness", .null)]])]])]])]

theorem null_slots_count_and_null_distance_is_refused :
    sparseRoot nullRoot =
      [(.str "render", .map []), (.str "output", .map []),
        (.str "queries", .list [.map [(.str "clauses", .list [.map [(.str "group",
          .list [.map [(.str "range", .map [(.str "upper", .int 5)])]])]])]])] ∧
    Settings.read (sparseRoot nullRoot) = Settings.read nullRoot ∧
    (Settings.read nullRoot).isOk = true ∧ ∃ f, Settings.read nullDistanceRoot = .error f := by
  have hkeyed : (Value.map nullRoot).WellKeyed := by
    simp [nullRoot, Value.wellKeyed_map_iff, Value.wellKeyed_list_iff, Value.WellKeyed.scalar]
    decide
  have hkeyed' : (Value.map nullDistanceRoot).WellKeyed := by
    simp [nullDistanceRoot, Value.wellKeyed_map_iff, Value.wellKeyed_list_iff,
      Value.WellKeyed.scalar]
    decide
  have hname : ("fuzziness" : Text) ∈ Node.clause.typedNames := by decide
  have hdistance : HoldsNull .clause (.map [(.str "term", .str "a"), (.str "fuzziness", .null)]) :=
    .here hname rfl
  have hquery : HoldsNull .query (.map [(.str "clauses", .list [.map [(.str "group",
      .list [.map [(.str "term", .str "a"), (.str "fuzziness", .null)]])]])]) :=
    .inside rfl List.mem_cons_self (.inside rfl List.mem_cons_self hdistance)
  refine ⟨rfl, (null_is_nothing_or_refused hkeyed).1, by decide +kernel, ?_⟩
  exact ((null_is_nothing_or_refused hkeyed').2 rfl List.mem_cons_self hquery).2

end LuceneQuery.Config
