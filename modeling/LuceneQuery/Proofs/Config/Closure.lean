import LuceneQuery.Config.Settings
import LuceneQuery.Proofs.Config.FirstFault

/-!
# The faults of a configuration

Whatever the root of a configuration holds, it is read, or refused with a fault
of types or of values whose message names a key of the configuration.  Two faults
are left that name no key, and an integer in the root is to blame for each: a
boost that no double is near to, and an integer with too many digits to be
written (`Settings.namesKey_of_read`).  Only the boost is of neither family.
-/

namespace LuceneQuery.Config

/-! ## Keys in messages -/

/-- The key that a fault names. -/
def Fault.key? : Fault → Option KeyPath
  | .wrongType key _ => some key
  | .missing key => some key
  | .notOneKind key _ => some key
  | .unknownKeys key _ _ => some key
  | .clause key _ => some key
  | .tooLarge => none
  | .tooManyDigits => none
  | .setting key _ => some key

/-- The parts of a configuration. -/
def partNames : List Text := ["log", "render", "output", "queries"]

/-- Whether a fault names a key in a part of a configuration. -/
def Fault.NamesKeyIn (part : Text) (f : Fault) : Prop :=
  ∃ key, f.key? = some key ∧ part <+: key

/-- The message of a fault holds the path that the fault is about. -/
theorem Fault.infix_message {key : KeyPath} {f : Fault} (h : f.key? = some key) :
    key <:+: f.message := by
  cases f with
  | tooLarge => cases h
  | tooManyDigits => cases h
  | missing place =>
    cases h
    exact (List.suffix_append _ _).isInfix
  | unknownKeys place kind names =>
    cases h
    cases kind <;>
    · simp only [message, List.append_assoc]
      exact (List.prefix_append _ _).isInfix
  | _ =>
    cases h
    simp only [message, List.append_assoc]
    exact (List.prefix_append _ _).isInfix

theorem Fault.family_of_namesKeyIn {part : Text} {f : Fault} (h : f.NamesKeyIn part) :
    f.family = .type ∨ f.family = .value := by
  obtain ⟨key, hkey, -⟩ := h
  cases f with
  | tooLarge => cases hkey
  | wrongType => exact .inl rfl
  | _ => exact .inr rfl

/-- A fault of a value in a part of the root names a path in this part, or is about a number
that no path is named for. -/
theorem FaultOf.namesKeyIn {part : Text} {key : KeyPath} {v : Value} {f : Fault}
    (h : FaultOf key v f) (hpart : part <+: key) :
    f.NamesKeyIn part ∨ f = .tooLarge ∧ v.HasLarge ∨ f = .tooManyDigits ∧ v.HasLong := by
  cases h with
  | wrongType h => exact .inl ⟨_, rfl, hpart.trans h⟩
  | notOneKind h => exact .inl ⟨_, rfl, hpart.trans h⟩
  | unknownKeys h => exact .inl ⟨_, rfl, hpart.trans h⟩
  | clause h => exact .inl ⟨_, rfl, hpart⟩
  | tooLarge h => exact .inr (.inl ⟨rfl, h⟩)
  | tooManyDigits h => exact .inr (.inr ⟨rfl, h⟩)

/-! ## The parts -/

section

variable {part place : Text} {root : Entries} {v : Value} {f : Fault}

/-- A part that is no mapping is refused under its own name. -/
theorem namesKeyIn_of_section? (h : section? root part false = .error f) : f.NamesKeyIn part := by
  unfold section? at h
  split at h
  · cases h
  · cases h
    exact ⟨_, rfl, List.prefix_rfl⟩
  · cases h

/-- A list of texts is refused at its own path or at that of an item. -/
theorem namesKeyIn_of_stringsAt (hplace : part <+: place) (h : stringsAt place v = .error f) :
    f.NamesKeyIn part := by
  rcases bind_eq_error_iff.1 h with hlist | ⟨items, -, h⟩
  · exact eq_wrongType_of_listAt hlist ▸ ⟨_, rfl, hplace⟩
  · rw [stringsFrom_eq_readItems, readItems_eq_error_iff] at h
    obtain ⟨i, w, hfirst⟩ := h
    exact eq_wrongType_of_stringAt hfirst.refused ▸ ⟨_, rfl, hplace.trans (KeyPath.prefix_item _ i)⟩

/-- What is wrong with the part `log` is reported below its name. -/
theorem LogSettings.namesKeyIn_of_read (h : read root = .error f) : f.NamesKeyIn "log" := by
  rcases bind_eq_error_iff.1 h with hsection | ⟨entries, -, h⟩
  · exact namesKeyIn_of_section? hsection
  rcases bind_eq_error_iff.1 h with hlevel | ⟨level, -, h⟩
  · exact eq_wrongType_of_stringAt hlevel ▸ ⟨_, rfl, by decide⟩
  rcases bind_eq_error_iff.1 h with htoFile | ⟨toFile, -, h⟩
  · exact eq_wrongType_of_boolAt htoFile ▸ ⟨_, rfl, by decide⟩
  rcases bind_eq_error_iff.1 h with hdir | ⟨dir, -, h⟩
  · exact eq_wrongType_of_stringAt hdir ▸ ⟨_, rfl, by decide⟩
  cases h

theorem namesKeyIn_of_readEscape (h : readEscape root = .error f) : f.NamesKeyIn "render" := by
  rcases bind_eq_error_iff.1 h with hsection | ⟨entries, -, h⟩
  · exact namesKeyIn_of_section? hsection
  · exact eq_wrongType_of_boolAt h ▸ ⟨_, rfl, by decide⟩

theorem OutputSettings.namesKeyIn_of_read (h : read root = .error f) : f.NamesKeyIn "output" := by
  rcases bind_eq_error_iff.1 h with hsection | ⟨entries, -, h⟩
  · exact namesKeyIn_of_section? hsection
  rcases bind_eq_error_iff.1 h with hformats | ⟨formats, -, h⟩
  · exact namesKeyIn_of_stringsAt (by decide) hformats
  rcases bind_eq_error_iff.1 h with hbaseDir | ⟨baseDir, -, h⟩
  · exact eq_wrongType_of_stringAt hbaseDir ▸ ⟨_, rfl, by decide⟩
  cases h

/-- What is wrong with the queries is reported below their name, unless it is a number that is
too large. -/
theorem namesKeyIn_of_readQueries {escape : Bool} (h : readQueries escape root = .error f) :
    f.NamesKeyIn "queries" ∨ f = .tooLarge ∧ (Value.map root).HasLarge ∨
      f = .tooManyDigits ∧ (Value.map root).HasLong := by
  unfold readQueries at h
  split at h
  · cases h
    exact .inl ⟨_, rfl, List.prefix_rfl⟩
  · next v hv =>
    rcases bind_eq_error_iff.1 h with hlist | ⟨items, hitems, hfrom⟩
    · exact .inl (eq_wrongType_of_listAt hlist ▸ ⟨_, rfl, List.prefix_rfl⟩)
    · obtain rfl := listAt_eq_ok_iff.1 hitems
      rw [readQueriesFrom_eq_readItems, readItems_eq_error_iff] at hfrom
      obtain ⟨i, w, hfirst⟩ := hfrom
      obtain ⟨place, hplace⟩ := readQuery_eq_error_iff_firstFault.1 hfirst.refused
      have hwithin : w.Within (.map root) :=
        .of_present? hv (.item (List.mem_of_getElem? hfirst.item) .refl)
      exact (hplace.faultOf.mono hwithin).namesKeyIn
        ((KeyPath.prefix_item _ i).trans hplace.key_prefix)

/-! ## The checks -/

/-- The checks of the part `log` report below its name as well. -/
theorem LogSettings.namesKeyIn_of_check {s : LogSettings} (h : s.check = .error f) :
    f.NamesKeyIn "log" := by
  unfold check at h
  dsimp only at h
  split at h
  · cases h
    exact ⟨_, rfl, by decide⟩
  · split at h
    · cases h
      exact ⟨_, rfl, by decide⟩
    · cases h

theorem OutputSettings.namesKeyIn_of_check {s : OutputSettings} (h : s.check = .error f) :
    f.NamesKeyIn "output" := by
  unfold check at h
  dsimp only at h
  split at h
  · cases h
    exact ⟨_, rfl, by decide⟩
  · split at h
    · cases h
      exact ⟨_, rfl, by decide⟩
    · split at h
      · cases h
        exact ⟨_, rfl, by decide⟩
      · cases h

theorem namesKeyIn_of_requireClausesFrom {i : Nat} {queries : List LabelledQuery}
    (h : requireClausesFrom i queries = .error f) : f.NamesKeyIn "queries" := by
  induction queries generalizing i with
  | nil => cases h
  | cons q queries ih =>
    rw [requireClausesFrom] at h
    split at h
    · cases h
      exact ⟨_, rfl, (KeyPath.prefix_item _ i).trans (KeyPath.prefix_field _ _)⟩
    · exact ih h

/-- A query without clauses is reported below the name of the queries. -/
theorem namesKeyIn_of_requireClauses {queries : List LabelledQuery}
    (h : requireClauses queries = .error f) : f.NamesKeyIn "queries" := by
  unfold requireClauses at h
  split at h
  · cases h
    exact ⟨_, rfl, List.prefix_rfl⟩
  · exact namesKeyIn_of_requireClausesFrom h

/-! ## The whole -/

/-- A root that is no configuration has a fault in one of its parts, or a number too large. -/
theorem Settings.namesKey_of_read (h : Settings.read root = .error f) :
    (∃ part ∈ partNames, f.NamesKeyIn part) ∨ f = .tooLarge ∧ (Value.map root).HasLarge ∨
      f = .tooManyDigits ∧ (Value.map root).HasLong := by
  rcases bind_eq_error_iff.1 h with hlog | ⟨log, -, h⟩
  · exact .inl ⟨"log", by decide, LogSettings.namesKeyIn_of_read hlog⟩
  rcases bind_eq_error_iff.1 h with hescape | ⟨escape, -, h⟩
  · exact .inl ⟨"render", by decide, namesKeyIn_of_readEscape hescape⟩
  rcases bind_eq_error_iff.1 h with houtput | ⟨output, -, h⟩
  · exact .inl ⟨"output", by decide, OutputSettings.namesKeyIn_of_read houtput⟩
  rcases bind_eq_error_iff.1 h with hqueries | ⟨queries, -, h⟩
  · exact (namesKeyIn_of_readQueries hqueries).imp_left fun h => ⟨"queries", by decide, h⟩
  rcases bind_eq_error_iff.1 h with hlog | ⟨_, -, h⟩
  · exact .inl ⟨"log", by decide, LogSettings.namesKeyIn_of_check hlog⟩
  rcases bind_eq_error_iff.1 h with houtput | ⟨_, -, h⟩
  · exact .inl ⟨"output", by decide, OutputSettings.namesKeyIn_of_check houtput⟩
  rcases bind_eq_error_iff.1 h with hclauses | ⟨_, -, h⟩
  · exact .inl ⟨"queries", by decide, namesKeyIn_of_requireClauses hclauses⟩
  cases h

end

/-- A configuration is read, or it is refused with a fault of types or of values
whose message names a key.  Only two faults are different: a boost that no double
is near to, which is of neither family, and an integer that cannot be written,
which names no key. -/
theorem settings_read_or_refused (root : Entries) :
    (∃ s, Settings.read root = .ok s) ∨
      (∃ f, Settings.read root = .error f ∧ (f.family = .type ∨ f.family = .value) ∧
        ∃ part ∈ partNames, ∃ key, f.key? = some key ∧ part <+: key ∧ key <:+: f.message) ∨
      (Settings.read root = .error .tooLarge ∧ (Value.map root).HasLarge) ∨
      Settings.read root = .error .tooManyDigits ∧ (Value.map root).HasLong := by
  cases h : Settings.read root with
  | ok s => exact .inl ⟨s, rfl⟩
  | error f =>
    rcases Settings.namesKey_of_read h with ⟨part, hpart, hnames⟩ | ⟨rfl, hlarge⟩ | ⟨rfl, hlong⟩
    · obtain ⟨key, hkey, hprefix⟩ := hnames
      exact .inr (.inl ⟨f, rfl, Fault.family_of_namesKeyIn ⟨key, hkey, hprefix⟩, part, hpart, key,
        hkey, hprefix, Fault.infix_message hkey⟩)
    · exact .inr (.inr (.inl ⟨rfl, hlarge⟩))
    · exact .inr (.inr (.inr ⟨rfl, hlong⟩))

/-! ## Boosts out of range -/

/-- A term with an integer for its boost. -/
def boostedTerm (n : Int) : Entries := [(.str "term", .str "a"), (.str "boost", .int n)]

/-- A configuration with one query, of one term with a boost. -/
def boostedRoot (n : Int) : Entries :=
  [(.str "queries", .list [.map [(.str "clauses", .list [.map (boostedTerm n)])]])]

/-- A boost that no double is near to is refused as out of range, not as a value. -/
theorem read_boostedRoot {n : Int} (hn : (Double.ofInt n).isFinite = false) :
    Settings.read (boostedRoot n) = .error .tooLarge := by
  have hdouble : doubleAt "queries[0].clauses[0].boost" (.int n) = .error .tooLarge := by
    simp [doubleAt, hn]
  have hboost : readBoost "queries[0].clauses[0]" "boost" (boostedTerm n) = .error .tooLarge :=
    bind_eq_error_iff.2 (.inl hdouble)
  have hslots : readSlots "queries[0].clauses[0]" .ofClause (boostedTerm n) = .error .tooLarge :=
    bind_eq_error_iff.2 (.inr ⟨[], rfl, bind_eq_error_iff.2 (.inr ⟨.optional, rfl,
      bind_eq_error_iff.2 (.inl hboost)⟩)⟩)
  -- The fault of the slots goes up unchanged through the clause, the query and the list.
  have hclause : FirstFault false .clause "queries[0].clauses[0]" (.map (boostedTerm n))
      "queries[0].clauses[0]" .tooLarge :=
    .slots rfl rfl hslots
  have hquery : readQuery false "queries[0]"
      (.map [(.str "clauses", .list [.map (boostedTerm n)])]) = .error .tooLarge :=
    readQuery_eq_error_iff_firstFault.2
      ⟨_, .item rfl (.of_head (Node.read_eq_error_iff_firstFault.2 ⟨_, hclause⟩)) hclause⟩
  have hqueries : readQueries false (boostedRoot n) = .error .tooLarge :=
    (readQueries_eq_error_iff rfl).2 ⟨0, _, .of_head hquery⟩
  exact bind_eq_error_iff.2 (.inr ⟨_, rfl, bind_eq_error_iff.2 (.inr ⟨_, rfl,
    bind_eq_error_iff.2 (.inr ⟨_, rfl, bind_eq_error_iff.2 (.inl hqueries)⟩)⟩)⟩)

theorem not_isFinite_ofInt_tenTo : (Double.ofInt (tenTo 400)).isFinite = false := by
  decide +kernel

theorem boost_out_of_range_escapes :
    ¬∀ root, (∃ s, Settings.read root = .ok s) ∨
      ∃ f, Settings.read root = .error f ∧ (f.family = .type ∨ f.family = .value) := by
  intro h
  rcases h (boostedRoot (tenTo 400)) with ⟨s, hs⟩ | ⟨f, hf, hfamily⟩
  · cases (read_boostedRoot not_isFinite_ofInt_tenTo).symm.trans hs
  · cases (read_boostedRoot not_isFinite_ofInt_tenTo).symm.trans hf
    rcases hfamily with hfamily | hfamily <;> cases hfamily

end LuceneQuery.Config
