import LuceneQuery.Proofs.Clause.NormalForm
import LuceneQuery.Proofs.Config.Acceptance
import LuceneQuery.Proofs.Config.Settings

/-!
# The flag for escaping

Readers of clauses are told whether leaves are escaped.  What one of them reads with a
flag is what it reads with the other one, with the flag set anew in every leaf
(`readClause_eq_map`).  So the flag reaches all leaves at any depth, and has no part in
anything else: the checks, the faults and all that is read besides are the same.
-/

namespace LuceneQuery

/-! ## Setting the flag -/

/-- A leaf that is escaped or not, and else the same. -/
def Leaf.withEscape (escape : Bool) : Leaf → Leaf
  | .term text _ fuzziness => .term text escape fuzziness
  | .phrase text _ slop => .phrase text escape slop
  | .range lower upper _ kind => .range lower upper escape kind

namespace Clause

mutual

/-- A clause all of whose leaves are escaped or not, and else the same. -/
def withEscape (escape : Bool) : Clause → Clause
  | .leaf s l => .leaf s (l.withEscape escape)
  | .query s cs => .query s (withEscapeAll escape cs)

/-- Clauses all of whose leaves are escaped or not, and else the same. -/
def withEscapeAll (escape : Bool) : List Clause → List Clause
  | [] => []
  | c :: rest => c.withEscape escape :: withEscapeAll escape rest

end

variable {escape : Bool}

theorem withEscapeAll_eq_map (cs : List Clause) :
    withEscapeAll escape cs = cs.map (withEscape escape) := by
  induction cs with
  | nil => rw [withEscapeAll, List.map_nil]
  | cons c cs ih => rw [withEscapeAll, List.map_cons, ih]

@[simp] theorem withEscape_leaf (s : Slots) (l : Leaf) :
    withEscape escape (.leaf s l) = .leaf s (l.withEscape escape) := by
  rw [withEscape]

@[simp] theorem withEscape_query (s : Slots) (cs : List Clause) :
    withEscape escape (.query s cs) = .query s (cs.map (withEscape escape)) := by
  rw [withEscape, withEscapeAll_eq_map]

/-- The flag is the same in all leaves. -/
def EveryLeafEscaped (escape : Bool) : Clause → Prop :=
  Every (fun _ => True) fun l => l.isEscaped = escape

/-- Once the flag is set on a clause, all of its leaves have it. -/
theorem everyLeafEscaped_withEscape (c : Clause) :
    (c.withEscape escape).EveryLeafEscaped escape := by
  induction c using Clause.induction with
  | leaf s l =>
    rw [withEscape_leaf]
    exact .leaf trivial (by cases l <;> rfl)
  | query s cs ih =>
    rw [withEscape_query]
    exact .query trivial (List.forall_mem_map.2 ih)

end Clause

namespace Config

/-- A query with its name all of whose leaves are escaped or not, and else the same. -/
def LabelledQuery.withEscape (escape : Bool) (q : LabelledQuery) : LabelledQuery :=
  { q with query := q.query.withEscape escape }

/-! ## Readers with either flag -/

section

variable {escape escape' : Bool} {key : KeyPath} {entries : Entries}

/-- A change of what comes out of a constructor leaves its refusals alone. -/
theorem atClause_map {α β : Type} {g : α → β} {x : Except ClauseFault α} :
    atClause key (g <$> x) = g <$> atClause key x := by
  cases x with
  | ok a => rfl
  | error f => cases f <;> rfl

/-- A range takes the flag as it is, and is refused or not without a look at it. -/
theorem ofRange_eq_map {lower upper kind : Value} :
    Leaf.ofRange lower upper kind escape =
      Leaf.withEscape escape <$> Leaf.ofRange lower upper kind escape' := by
  simp only [Leaf.ofRange, map_bind]
  rfl

/-- A term is read without a look at the flag. -/
theorem readTerm_eq_map {body : Value} :
    readTerm escape key body entries =
      Leaf.withEscape escape <$> readTerm escape' key body entries := by
  simp only [readTerm, map_bind]
  rfl

theorem readPhrase_eq_map {body : Value} :
    readPhrase escape key body entries =
      Leaf.withEscape escape <$> readPhrase escape' key body entries := by
  simp only [readPhrase, map_bind]
  rfl

theorem readRange_eq_map {v : Value} :
    readRange escape key v = Leaf.withEscape escape <$> readRange escape' key v := by
  cases v with
  | map bounds => simp only [readRange, map_bind, ← atClause_map, ← ofRange_eq_map]
  | _ => rfl

theorem readLeaf_eq_map {kind : Kind} :
    readLeaf escape key kind entries =
      Leaf.withEscape escape <$> readLeaf escape' key kind entries := by
  cases kind with
  | term => exact readTerm_eq_map
  | phrase => exact readPhrase_eq_map
  | _ => exact readRange_eq_map

/-- The clauses of a group are read one by one, each without a look at the flag. -/
theorem readGroup_eq_map {v : Value}
    (h : ∀ items, v = .list items → ∀ w ∈ items, ∀ key,
      readClause escape key w = Clause.withEscape escape <$> readClause escape' key w) :
    readGroup escape key v = List.map (Clause.withEscape escape) <$> readGroup escape' key v := by
  cases v with
  | list items =>
    simp only [readGroup, readClauses_eq_readItems]
    exact readItems_eq_map fun w hw j => h items rfl w hw _
  | _ => rfl

/-- A clause is read with either flag, up to the flag in its leaves, or refused for the
same fault. -/
theorem readClause_eq_map {v : Value} :
    readClause escape key v = Clause.withEscape escape <$> readClause escape' key v := by
  induction v using Value.groupInduction generalizing key with
  | scalar _ | list _ | pair _ _ | set _ => rfl
  | map entries ih =>
    have hgroup : readGroupOf escape key entries =
        List.map (Clause.withEscape escape) <$> readGroupOf escape' key entries := by
      cases hv : entries.get? Kind.group.name with
      | none =>
        rw [readGroupOf_of_none hv, readGroupOf_of_none hv]
        rfl
      | some v =>
        rw [readGroupOf_eq hv, readGroupOf_eq hv]
        refine readGroup_eq_map fun items hlist w hw key => ?_
        subst hlist
        exact ih _ _ (Entries.mem_of_get?_eq_some hv) w hw
    have hleaf (kind : Kind) : readLeaf escape key kind entries =
        Leaf.withEscape escape <$> readLeaf escape' key kind entries :=
      readLeaf_eq_map
    simp only [readClause, map_bind]
    refine bind_congr fun kind => bind_congr fun _ => ?_
    split
    · simp only [hgroup, map_bind, bind_map_left]
      refine bind_congr fun cs => bind_congr fun slots => ?_
      exact congrArg Except.ok (Clause.withEscape_query slots cs).symm
    · simp only [hleaf, map_bind, bind_map_left]
      refine bind_congr fun l => bind_congr fun slots => ?_
      exact congrArg Except.ok (Clause.withEscape_leaf slots l).symm

/-- A query hands the flag on to its clauses. -/
theorem readQuery_eq_map {v : Value} :
    readQuery escape key v = LabelledQuery.withEscape escape <$> readQuery escape' key v := by
  cases v with
  | map entries =>
    have hgroup (v : Value) : readGroup escape (key.field "clauses") v =
        List.map (Clause.withEscape escape) <$> readGroup escape' (key.field "clauses") v :=
      readGroup_eq_map fun _ _ _ _ _ => readClause_eq_map
    simp only [readQuery, hgroup, map_bind, bind_map_left]
    refine bind_congr fun _ => bind_congr fun name => ?_
    refine bind_congr fun cs => bind_congr fun slots => ?_
    have hquery : (LabelledQuery.mk name (.query slots cs)).withEscape escape =
        ⟨name, .query slots (cs.map (Clause.withEscape escape))⟩ := by
      rw [LabelledQuery.withEscape, Clause.withEscape_query]
    exact congrArg Except.ok hquery.symm
  | _ => rfl

/-- The list of queries hands the flag on to its queries, and reports the same fault with any
flag. -/
theorem readQueries_eq_map (escape escape' : Bool) (root : Entries) :
    readQueries escape root =
      List.map (LabelledQuery.withEscape escape) <$> readQueries escape' root := by
  unfold readQueries
  cases root.present? "queries" with
  | none => rfl
  | some v =>
    simp only [map_bind, readQueriesFrom_eq_readItems]
    exact bind_congr fun items => readItems_eq_map fun w _ j => readQuery_eq_map

/-- All that is read with a flag has this flag. -/
theorem everyLeafEscaped_of_readQueries {root : Entries} {queries : List LabelledQuery}
    (h : readQueries escape root = .ok queries) :
    ∀ q ∈ queries, q.query.EveryLeafEscaped escape := by
  -- Setting the flag that has been read with changes nothing.
  have hsame := readQueries_eq_map escape escape root
  rw [h] at hsame
  obtain hqueries : queries = queries.map (LabelledQuery.withEscape escape) :=
    Except.ok.inj hsame
  rw [hqueries]
  exact List.forall_mem_map.2 fun q _ => q.query.everyLeafEscaped_withEscape

/-- All leaves of a configuration have the flag of its part `render`. -/
theorem Settings.everyLeafEscaped_of_read {root : Entries} {s : Settings}
    (h : Settings.read root = .ok s) :
    readEscape root = .ok s.escape ∧ ∀ q ∈ s.queries, q.query.EveryLeafEscaped s.escape := by
  have hfrom := Settings.read_eq_ok_iff.1 h
  exact ⟨hfrom.escape, everyLeafEscaped_of_readQueries hfrom.queries⟩

end

/-- With either flag the queries of a configuration are refused for the same fault, or
they are read as the same queries up to the flag in all leaves, which is the one that the
reader was told.  In a configuration this is the one that its part `render` asks for. -/
theorem escape_flag_reaches_leaves_only (root : Entries) :
    ((∃ f, readQueries true root = .error f ∧ readQueries false root = .error f) ∨
      ∃ qs qs', readQueries true root = .ok qs ∧ readQueries false root = .ok qs' ∧
        qs = qs'.map (LabelledQuery.withEscape true) ∧
        qs' = qs.map (LabelledQuery.withEscape false) ∧
        (∀ q ∈ qs, q.query.EveryLeafEscaped true) ∧
        ∀ q ∈ qs', q.query.EveryLeafEscaped false) ∧
      ∀ s, Settings.read root = .ok s →
        readEscape root = .ok s.escape ∧ ∀ q ∈ s.queries, q.query.EveryLeafEscaped s.escape := by
  refine ⟨?_, fun s h => Settings.everyLeafEscaped_of_read h⟩
  have htrue := readQueries_eq_map true false root
  have hfalse := readQueries_eq_map false true root
  cases hread : readQueries false root with
  | error f =>
    rw [hread] at htrue
    exact .inl ⟨f, htrue, rfl⟩
  | ok qs' =>
    rw [hread] at htrue
    rw [htrue, hread] at hfalse
    exact .inr ⟨_, qs', htrue, rfl, rfl, Except.ok.inj hfalse,
      everyLeafEscaped_of_readQueries htrue, everyLeafEscaped_of_readQueries hread⟩

/-- A configuration with a leaf of each kind at some depth, all of them to be escaped. -/
def escapedRoot : Entries :=
  [(.str "render", .map [(.str "escape", .bool true)]),
    (.str "queries", .list [.map [(.str "NAME", .str "all kinds"), (.str "clauses",
      .list [.map [(.str "term", .str "a+b")], .map [(.str "group",
        .list [.map [(.str "phrase", .str "c d")], .map [(.str "group",
          .list [.map [(.str "range", .map [(.str "lower", .str "e")])]])]])]])]])]

theorem all_leaves_of_escaped_root :
    ∃ s, Settings.read escapedRoot = .ok s ∧ s.escape = true ∧
      ∀ q ∈ s.queries, q.query.EveryLeafEscaped true := by
  obtain ⟨s, h⟩ : ∃ s, Settings.read escapedRoot = .ok s := ⟨_, rfl⟩
  obtain ⟨hescape, hleaves⟩ := (escape_flag_reaches_leaves_only escapedRoot).2 s h
  have htrue : s.escape = true := (Except.ok.inj hescape).symm
  exact ⟨s, h, htrue, htrue ▸ hleaves⟩

end Config

end LuceneQuery
