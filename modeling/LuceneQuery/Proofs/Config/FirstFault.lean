import LuceneQuery.Proofs.Config.Failure

/-!
# The first fault

A query and a clause are read alike.  A *node* is one of the two: a mapping that
is checked on its own first, then gives up the clauses inside from first to last,
and then reads its slots.  `FirstFault` says at which node on this way the reader
stops, at any depth, and with which fault.

The fault is that of the node alone.  The nodes around it add nothing, so the
path in a message is the one of the first node that fails, and there is only one
path however deep the node is.
-/

namespace LuceneQuery.Config

/-! ## Nodes -/

/-- A mapping that may hold clauses. -/
inductive Node where
  /-- A clause. -/
  | clause
  /-- A query. -/
  | query

namespace Node

/-- The key of the clauses inside. -/
def itemsName : Node → Text
  | .clause => "group"
  | .query => "clauses"

/-- The keys of the slots. -/
def slotNames : Node → SlotNames
  | .clause => .ofClause
  | .query => .ofQuery

/-- The place of a clause inside. -/
def itemKey (node : Node) (key : KeyPath) (i : Nat) : KeyPath :=
  (key.field node.itemsName).item i

/-- Checks a node on its own and gives up the items inside.  A leaf is read as a
whole and has no items. -/
def items (escape : Bool) (key : KeyPath) (entries : Entries) : Node → Except Fault (List Value)
  | .clause => do
    let kind ← kindOf key entries
    checkKeys key kind entries
    if kind = .group then listAt (key.field "group") ((entries.get? "group").getD .null)
    else
      let _ ← readLeaf escape key kind entries
      .ok []
  | .query => do
    checkNames key none queryNames entries
    let _ ← readName key entries
    listAt (key.field "clauses") (entries.getOr "clauses" (.list []))

/-- Reads a node. -/
def read (escape : Bool) (key : KeyPath) (v : Value) : Node → Except Fault Clause
  | .clause => readClause escape key v
  | .query => (readQuery escape key v).map (·.query)

end Node

section

variable {escape : Bool} {key : KeyPath} {entries : Entries} {f : Fault}

theorem readGroup_eq {v : Value} :
    readGroup escape key v = listAt key v >>= readClauses escape key 0 := by
  cases v with
  | list items => rfl
  | _ => rfl

/-- A leaf is read before its slots. -/
theorem readClause_of_leaf {kind : Kind} (hkind : kindOf key entries = .ok kind)
    (hkeys : checkKeys key kind entries = .ok ()) (hleaf : kind ≠ .group) :
    readClause escape key (.map entries) = (do
      let leaf ← readLeaf escape key kind entries
      let slots ← readSlots key .ofClause entries
      .ok (.leaf slots leaf)) := by
  rw [readClause, hkind]
  simp only [bind, Except.bind, hkeys, if_neg hleaf]

/-- The clauses of a group are read before its slots, and after it is known to be a list. -/
theorem readClause_of_group (hkind : kindOf key entries = .ok .group)
    (hkeys : checkKeys key .group entries = .ok ()) :
    readClause escape key (.map entries) = (do
      let items ← listAt (key.field "group") ((entries.get? "group").getD .null)
      let clauses ← readClauses escape (key.field "group") 0 items
      let slots ← readSlots key .ofClause entries
      .ok (.query slots clauses)) := by
  obtain ⟨v, hv⟩ := Option.isSome_iff_exists.1 (hasKind_iff.1 ⟨hkind, hkeys⟩).isSome_get?
  rw [readClause, hkind]
  simp only [bind, Except.bind, hkeys, if_true, readGroupOf_eq hv, readGroup_eq, Kind.name] at hv ⊢
  rw [hv, Option.getD_some]
  cases listAt (key.field "group") v <;> rfl

theorem Node.read_query_eq_error_iff {v : Value} :
    Node.query.read escape key v = .error f ↔ readQuery escape key v = .error f := by
  unfold read
  cases readQuery escape key v <;> simp [Except.map]

theorem Node.read_query_eq_ok_iff {v : Value} {c : Clause} :
    Node.query.read escape key v = .ok c ↔ ∃ q, readQuery escape key v = .ok q ∧ q.query = c := by
  unfold read
  cases readQuery escape key v <;> simp [Except.map]

/-- A node fails in its own checks, in the first of its items that fails, or in
its slots, and only in this order. -/
theorem Node.read_eq_error_iff {node : Node} :
    node.read escape key (.map entries) = .error f ↔
      node.items escape key entries = .error f ∨
        ∃ items, node.items escape key entries = .ok items ∧
          (readItems (fun j => readClause escape (node.itemKey key j)) 0 items = .error f ∨
            (∃ cs, readItems (fun j => readClause escape (node.itemKey key j)) 0 items = .ok cs) ∧
              readSlots key node.slotNames entries = .error f) := by
  cases node with
  | query =>
    rw [read_query_eq_error_iff, readQuery, items]
    cases hnames : checkNames key none queryNames entries with
    | error g => simp [bind, Except.bind]
    | ok _ =>
      cases hname : readName key entries with
      | error g => simp [bind, Except.bind]
      | ok name =>
        simp [bind_eq_error_iff, bind_eq_ok_iff, readGroup_eq, readClauses_eq_readItems, itemKey,
          itemsName, slotNames]
  | clause =>
    simp only [read, items]
    cases hkind : kindOf key entries with
    | error g =>
      rw [readClause, hkind]
      simp [bind, Except.bind]
    | ok kind =>
      cases hkeys : checkKeys key kind entries with
      | error g =>
        rw [readClause, hkind]
        simp [bind, Except.bind, hkeys]
      | ok _ =>
        by_cases hgroup : kind = .group
        · subst hgroup
          rw [readClause_of_group hkind hkeys]
          simp [bind_eq_error_iff, bind_eq_ok_iff, readClauses_eq_readItems, itemKey, itemsName,
            slotNames, hkeys]
        · rw [readClause_of_leaf hkind hkeys hgroup]
          simp [bind_eq_error_iff, bind_eq_ok_iff, readItems, hkeys, hgroup, slotNames]

theorem Node.mem_of_items_eq_ok {node : Node} {items : List Value} {v : Value}
    (h : node.items escape key entries = .ok items) (hv : v ∈ items) :
    ∃ k, (k, .list items) ∈ entries := by
  cases node with
  | clause =>
    simp only [Node.items, bind_eq_ok_iff] at h
    obtain ⟨kind, hkind, _, -, h⟩ := h
    split at h
    · cases hbody : entries.get? "group" with
      | none =>
        rw [hbody] at h
        cases h
      | some w =>
        rw [hbody, Option.getD_some, listAt_eq_ok_iff] at h
        exact ⟨_, Entries.mem_of_get?_eq_some (hbody.trans (congrArg some h))⟩
    · obtain ⟨_, -, h⟩ := bind_eq_ok_iff.1 h
      cases h
      cases hv
  | query =>
    simp only [Node.items, bind_eq_ok_iff, listAt_eq_ok_iff, Entries.getOr] at h
    obtain ⟨_, -, _, -, h⟩ := h
    cases hbody : entries.present? "clauses" with
    | none =>
      rw [hbody] at h
      cases h
      cases hv
    | some w =>
      rw [hbody, Option.getD_some] at h
      exact ⟨_, Entries.mem_of_get?_eq_some
        ((Entries.get?_of_present? hbody).trans (congrArg some h))⟩

/-- A node whose items cannot be had has a fault of its own. -/
theorem Node.faultOf_items {node : Node} (h : node.items escape key entries = .error f) :
    FaultOf key (.map entries) f := by
  cases node with
  | clause =>
    rcases bind_eq_error_iff.1 h with hkind | ⟨kind, hkind, h⟩
    · exact faultOf_kindOf hkind
    rcases bind_eq_error_iff.1 h with hkeys | ⟨_, hkeys, h⟩
    · exact faultOf_checkNames List.prefix_rfl hkeys
    split at h
    · exact eq_wrongType_of_listAt h ▸ .wrongType (key.prefix_field "group")
    · next hleaf =>
      rcases bind_eq_error_iff.1 h with hread | ⟨_, -, h⟩
      · exact faultOf_readLeaf hleaf (hasKind_iff.1 ⟨hkind, hkeys⟩).isSome_get? hread
      · cases h
  | query =>
    rcases bind_eq_error_iff.1 h with hnames | ⟨_, -, h⟩
    · exact faultOf_checkNames List.prefix_rfl hnames
    rcases bind_eq_error_iff.1 h with hname | ⟨_, -, h⟩
    · exact faultOf_readName hname
    exact eq_wrongType_of_listAt h ▸ .wrongType (key.prefix_field "clauses")

end

/-! ## The way of the reader -/

/-- The place of the node where the reader of another node stops, and its fault.
A node fails if it is no mapping, in its own checks, in the first of its items
that fails, or else in its slots. -/
inductive FirstFault (escape : Bool) : Node → KeyPath → Value → KeyPath → Fault → Prop where
  | object {node : Node} {key : KeyPath} {v : Value} (h : ∀ entries, v ≠ .map entries) :
      FirstFault escape node key v key (.wrongType key .object)
  | own {node : Node} {key : KeyPath} {entries : Entries} {f : Fault}
      (h : node.items escape key entries = .error f) :
      FirstFault escape node key (.map entries) key f
  | item {node : Node} {key place : KeyPath} {entries : Entries} {items : List Value} {i : Nat}
      {v : Value} {f : Fault} (hitems : node.items escape key entries = .ok items)
      (hfirst : FirstRefused (fun j => readClause escape (node.itemKey key j)) items i v f)
      (h : FirstFault escape .clause (node.itemKey key i) v place f) :
      FirstFault escape node key (.map entries) place f
  | slots {node : Node} {key : KeyPath} {entries : Entries} {items : List Value}
      {cs : List Clause} {f : Fault} (hitems : node.items escape key entries = .ok items)
      (hread : readItems (fun j => readClause escape (node.itemKey key j)) 0 items = .ok cs)
      (h : readSlots key node.slotNames entries = .error f) :
      FirstFault escape node key (.map entries) key f

/-- The reader stops at one node only. -/
theorem FirstFault.unique {escape : Bool} {node : Node} {key place place' : KeyPath} {v : Value}
    {f f' : Fault} (h : FirstFault escape node key v place f)
    (h' : FirstFault escape node key v place' f') : place = place' ∧ f = f' := by
  -- Two different rules never apply: one of them has the items fail, the other has them read.
  induction h with
  | object h =>
    cases h' with
    | object => exact ⟨rfl, rfl⟩
    | _ => exact absurd rfl (h _)
  | own h =>
    cases h' with
    | object h' => exact absurd rfl (h' _)
    | own h' => exact ⟨rfl, Except.error.inj (h.symm.trans h')⟩
    | item hitems => cases h.symm.trans hitems
    | slots hitems => cases h.symm.trans hitems
  | item hitems hfirst _ ih =>
    cases h' with
    | object h' => exact absurd rfl (h' _)
    | own h' => cases hitems.symm.trans h'
    | item hitems' hfirst' h' =>
      cases hitems.symm.trans hitems'
      obtain ⟨rfl, rfl⟩ := hfirst.unique hfirst'
      exact ih h'
    | slots hitems' hread =>
      cases hitems.symm.trans hitems'
      cases (readItems_eq_error_iff.2 ⟨_, _, hfirst⟩).symm.trans hread
  | slots hitems hread h =>
    cases h' with
    | object h' => exact absurd rfl (h' _)
    | own h' => cases hitems.symm.trans h'
    | item hitems' hfirst =>
      cases hitems.symm.trans hitems'
      cases (readItems_eq_error_iff.2 ⟨_, _, hfirst⟩).symm.trans hread
    | slots hitems' _ h' => exact ⟨rfl, Except.error.inj (h.symm.trans h')⟩

/-- The reader never stops above the node that it is asked for. -/
theorem FirstFault.key_prefix {escape : Bool} {node : Node} {key place : KeyPath} {v : Value}
    {f : Fault} (h : FirstFault escape node key v place f) : key <+: place := by
  induction h with
  | object => exact List.prefix_rfl
  | own => exact List.prefix_rfl
  | item _ _ _ ih => exact ((KeyPath.prefix_field _ _).trans (KeyPath.prefix_item _ _)).trans ih
  | slots => exact List.prefix_rfl

/-- Where the reader stops there is a fault. -/
theorem FirstFault.faultOf {escape : Bool} {node : Node} {key place : KeyPath} {v : Value}
    {f : Fault} (h : FirstFault escape node key v place f) : FaultOf place v f := by
  induction h with
  | object h => exact .wrongType List.prefix_rfl
  | own h => exact Node.faultOf_items h
  | item hitems hfirst _ ih =>
    -- The place is that of the node inside, so only the value grows.
    have hmem := List.mem_of_getElem? hfirst.item
    obtain ⟨k, hentry⟩ := Node.mem_of_items_eq_ok hitems hmem
    exact ih.mono (.entry hentry (.item hmem .refl))
  | slots hitems hread h => exact faultOf_readSlots h

/-- A node that is no mapping stops the reader at once. -/
theorem Node.read_eq_error_iff_of_not_map {escape : Bool} {node : Node} {key : KeyPath} {v : Value}
    {f : Fault} (hv : ∀ entries, v ≠ .map entries) :
    node.read escape key v = .error f ↔ ∃ place, FirstFault escape node key v place f := by
  have hread : node.read escape key v = .error (.wrongType key .object) := by
    cases v with
    | map entries => exact absurd rfl (hv entries)
    | _ => cases node <;> rfl
  rw [hread]
  constructor
  · intro h
    cases h
    exact ⟨key, .object hv⟩
  · rintro ⟨place, h⟩
    cases h with
    | object => rfl
    | _ => exact absurd rfl (hv _)

/-- A node fails if and only if the reader stops at some node on its way. -/
theorem Node.read_eq_error_iff_firstFault {escape : Bool} {node : Node} {key : KeyPath} {v : Value}
    {f : Fault} :
    node.read escape key v = .error f ↔ ∃ place, FirstFault escape node key v place f := by
  induction v using Value.groupInduction generalizing node key f with
  | scalar _ | list _ | pair _ _ | set _ => exact read_eq_error_iff_of_not_map nofun
  | map entries ih =>
    rw [read_eq_error_iff]
    constructor
    · rintro (h | ⟨items, hitems, h | ⟨⟨cs, hread⟩, h⟩⟩)
      · exact ⟨key, .own h⟩
      · obtain ⟨i, v, hfirst⟩ := readItems_eq_error_iff.1 h
        have hmem := List.mem_of_getElem? hfirst.item
        obtain ⟨k, hentry⟩ := mem_of_items_eq_ok hitems hmem
        have hread : Node.clause.read escape (node.itemKey key i) v = .error f := hfirst.refused
        obtain ⟨place, hplace⟩ := (ih k items hentry v hmem).1 hread
        exact ⟨place, .item hitems hfirst hplace⟩
      · exact ⟨key, .slots hitems hread h⟩
    · rintro ⟨place, h⟩
      cases h with
      | object h => exact absurd rfl (h entries)
      | own h => exact .inl h
      | item hitems hfirst _ =>
        exact .inr ⟨_, hitems, .inl (readItems_eq_error_iff.2 ⟨_, _, hfirst⟩)⟩
      | slots hitems hread h => exact .inr ⟨_, hitems, .inr ⟨⟨_, hread⟩, h⟩⟩

/-- A query cannot be read if and only if the reader stops at one of its nodes. -/
theorem readQuery_eq_error_iff_firstFault {escape : Bool} {key : KeyPath} {v : Value} {f : Fault} :
    readQuery escape key v = .error f ↔ ∃ place, FirstFault escape .query key v place f := by
  rw [← Node.read_query_eq_error_iff, Node.read_eq_error_iff_firstFault]

/-- The queries cannot be read if and only if one of them is the first that cannot. -/
theorem readQueries_eq_error_iff {escape : Bool} {root : Entries} {items : List Value} {f : Fault}
    (hroot : root.present? "queries" = some (.list items)) :
    readQueries escape root = .error f ↔
      ∃ i v, FirstRefused (fun j => readQuery escape (KeyPath.item "queries" j)) items i v f := by
  rw [← readItems_eq_error_iff, ← readQueriesFrom_eq_readItems, readQueries, hroot]
  rfl

/-- A group fails with the fault of its first item that fails, and so do a query
and the list of queries.  So the fault of a configuration is that of the first
node at which the reader stops, of which there is only one, and its message starts with
the path of that node.  Before a refusal by a constructor the path stands once. -/
theorem readQueries_reports_first_fault {escape : Bool} :
    (∀ {key entries items i v f}, Node.clause.items escape key entries = .ok items →
        FirstRefused (fun j => readClause escape ((key.field "group").item j)) items i v f →
        readClause escape key (.map entries) = .error f) ∧
      (∀ {key entries items i v f}, Node.query.items escape key entries = .ok items →
        FirstRefused (fun j => readClause escape ((key.field "clauses").item j)) items i v f →
        readQuery escape key (.map entries) = .error f) ∧
      (∀ {root : Entries} {items i v f}, root.present? "queries" = some (.list items) →
        FirstRefused (fun j => readQuery escape (KeyPath.item "queries" j)) items i v f →
        readQueries escape root = .error f) ∧
      ∀ {root : Entries} {items f}, root.present? "queries" = some (.list items) →
        readQueries escape root = .error f →
        ∃ i v place,
          FirstRefused (fun j => readQuery escape (KeyPath.item "queries" j)) items i v f ∧
            FirstFault escape .query (KeyPath.item "queries" i) v place f ∧
            (∀ {i' v' place' f'},
              FirstRefused (fun j => readQuery escape (KeyPath.item "queries" j)) items i' v' f' →
              FirstFault escape .query (KeyPath.item "queries" i') v' place' f' →
              i' = i ∧ v' = v ∧ place' = place ∧ f' = f) ∧
            (f.IsReportOf place ∨ f = .tooLarge ∧ v.HasLarge ∨ f = .tooManyDigits ∧ v.HasLong) := by
  refine ⟨?group, ?query, ?queries, ?report⟩
  case group =>
    intro key entries items i v f hitems hfirst
    exact Node.read_eq_error_iff.2
      (.inr ⟨items, hitems, .inl (readItems_eq_error_iff.2 ⟨i, v, hfirst⟩)⟩)
  case query =>
    intro key entries items i v f hitems hfirst
    have hread : Node.clause.read escape (Node.query.itemKey key i) v = .error f := hfirst.refused
    obtain ⟨place, hplace⟩ := Node.read_eq_error_iff_firstFault.1 hread
    exact readQuery_eq_error_iff_firstFault.2 ⟨place, .item hitems hfirst hplace⟩
  case queries =>
    intro root items i v f hroot hfirst
    exact (readQueries_eq_error_iff hroot).2 ⟨i, v, hfirst⟩
  case report =>
    intro root items f hroot h
    obtain ⟨i, v, hfirst⟩ := (readQueries_eq_error_iff hroot).1 h
    obtain ⟨place, hplace⟩ := readQuery_eq_error_iff_firstFault.1 hfirst.refused
    refine ⟨i, v, place, hfirst, hplace, ?_, hplace.faultOf.isReportOf⟩
    intro i' v' place' f' hfirst' hplace'
    obtain ⟨rfl, rfl⟩ := hfirst'.unique hfirst
    obtain ⟨rfl, rfl⟩ := hplace'.unique hplace
    exact ⟨rfl, rfl, rfl, rfl⟩

/-- A group whose second term holds a blank. -/
def brokenGroup : Value :=
  .map [(.str "group",
    .list [.map [(.str "term", .str "ok")], .map [(.str "term", .str "not ok")]])]

/-- What is wrong with the group as the first clause of the first query. -/
def brokenGroupFault : Fault :=
  .clause "queries[0].clauses[0].group[1]" (.format "not ok" (.blankInside "term"))

theorem broken_group_is_reported_once :
    readClause false "queries[0].clauses[0]" brokenGroup = .error brokenGroupFault ∧
      readQueries false [(.str "queries", .list [.map [(.str "clauses", .list [brokenGroup])]])] =
        .error brokenGroupFault ∧
      ∃ place, brokenGroupFault.IsReportOf place := by
  have hgroup : readClause false "queries[0].clauses[0]" brokenGroup = .error brokenGroupFault := by
    refine readQueries_reports_first_fault.1 (i := 1) rfl ⟨rfl, ?_, rfl⟩
    intro j w hj hw
    obtain rfl := Nat.lt_one_iff.1 hj
    cases hw
    exact ⟨_, rfl⟩
  have hquery : readQuery false "queries[0]" (.map [(.str "clauses", .list [brokenGroup])]) =
      .error brokenGroupFault :=
    readQueries_reports_first_fault.2.1 rfl (.of_head hgroup)
  have hqueries :
      readQueries false [(.str "queries", .list [.map [(.str "clauses", .list [brokenGroup])]])] =
        .error brokenGroupFault :=
    readQueries_reports_first_fault.2.2.1 rfl (.of_head hquery)
  obtain ⟨_, _, place, -, -, -, hreport | ⟨h, -⟩ | ⟨h, -⟩⟩ :=
    readQueries_reports_first_fault.2.2.2 rfl hqueries
  · exact ⟨hgroup, hqueries, place, hreport⟩
  · cases h
  · cases h

end LuceneQuery.Config
