import LuceneQuery.Command.Builtin
import LuceneQuery.Proofs.Config.Settings
import LuceneQuery.Proofs.Value.Alike
import LuceneQuery.Proofs.Yaml.Document

/-!
# Layers of configurations

The root of a document is laid over the root of another one that holds the defaults.
What a text stands for is up to a reader, of which no more is asked than that its
mappings hold a key once and that no text is nothing (`Reader.Lawful`).  Then all roots
are well-keyed (`Reader.Lawful.decodeRoot`), so the laws of laying over hold for them as
equations.  A file over a copy of itself, or one with nothing in it over any other, gives
what the lower file alone gives (`layering_laws`).

The readers of the parts `log`, `render` and `output` do not tell alike mappings
apart.  The part `queries` is a list, and what the lower layer has in place of one
does not show through the upper one (`readQueries_overlay`).  So the queries come
from one of the two layers as a whole (`queries_of_one_layer`).
-/

namespace LuceneQuery.Config

/-! ## Documents -/

/-- What is asked of a reader of documents. -/
structure Reader.Lawful (read : Reader) : Prop where
  /-- No mapping in a document holds a key twice. -/
  wellKeyed : ∀ {text : Text} {v : Value}, read text = .ok v → v.WellKeyed
  /-- A document without any text is nothing. -/
  empty : read [] = .ok .null

section

variable {read : Reader}

/-- The root of a document is well-keyed, as far as the reader sees to it. -/
theorem Reader.Lawful.decodeRoot (hread : read.Lawful) {octets : List UInt8} {root : Entries}
    (h : Config.decodeRoot read octets = .ok root) : (Value.map root).WellKeyed := by
  unfold Config.decodeRoot at h
  split at h
  · cases h
  · unfold readRoot at h
    split at h
    · cases h
    · next v hv =>
      split at h
      · cases h
        exact Value.wellKeyed_map_nil
      · split at h
        · cases h
          exact hread.wellKeyed hv
        · cases h

/-- A file with nothing in it has a root without entries. -/
theorem Reader.Lawful.decodeRoot_nil (hread : read.Lawful) :
    Config.decodeRoot read [] = .ok [] := by
  have hnone : readRoot read [] = .ok [] := by
    rw [readRoot, hread.empty]
    rfl
  exact hnone

end

/-- The reader of the executable is lawful. -/
theorem lawful_readDocument : Command.readDocument.Lawful where
  wellKeyed {text v} h := by
    unfold Command.readDocument at h
    exact Yaml.wellKeyed_of_read (Yaml.mapError_eq_ok_iff.1 h)
  empty := rfl

/-! ## Files -/

/-- The root of the document in a file of a tree. -/
def rootIn (read : Reader) (files : FileTree) (path : Path) : Except LoadFault Entries :=
  match files.read path with
  | .error f => .error (.file f)
  | .ok octets => decodeRoot read octets

section

variable {read : Reader} {files : FileTree} {path defaults : Path} {octets : List UInt8}

theorem rootIn_of_read (h : files.read path = .ok octets) :
    rootIn read files path = decodeRoot read octets := by
  rw [rootIn, h]

/-- Loading a root changes no files. -/
theorem loadRoot_ofTree (read : Reader) (files : FileTree) (path : Path) :
    loadRoot read Disk.ofTree path files = (rootIn read files path, files) := by
  unfold loadRoot rootIn
  simp only [bind, StateT.bind, Disk.ofTree]
  cases files.read path <;> rfl

/-- What is laid over the defaults without changing them gives the defaults. -/
theorem loadOver_eq_load
    (h : ∀ base, rootIn read files defaults = .ok base →
      ∃ upper, rootIn read files path = .ok upper ∧ base.overlay upper = base) :
    loadOver read Disk.ofTree path defaults files = load read Disk.ofTree defaults files := by
  unfold load loadOver
  simp only [bind, StateT.bind, loadRoot_ofTree]
  cases hbase : rootIn read files defaults with
  | error f => rfl
  | ok base =>
    obtain ⟨upper, hupper, heq⟩ := h base hbase
    by_cases hsame : path = defaults
    · simp [hsame]
    · simp only [if_neg hsame, StateT.bind, loadRoot_ofTree, hupper, if_true]
      change (settingsOf (base.overlay upper), files) = (settingsOf base, files)
      rw [heq]

/-- A file over a copy of itself gives what it gives alone. -/
theorem loadOver_same_content (hread : read.Lawful) (hpath : files.read path = .ok octets)
    (hdefaults : files.read defaults = .ok octets) :
    loadOver read Disk.ofTree path defaults files = load read Disk.ofTree defaults files := by
  refine loadOver_eq_load fun base hbase => ⟨base, ?_, ?_⟩
  · rw [rootIn_of_read hpath, ← rootIn_of_read hdefaults, hbase]
  · rw [rootIn_of_read hdefaults] at hbase
    exact Entries.overlay_self (hread.decodeRoot hbase)

/-- A file with nothing in it gives what the defaults give. -/
theorem loadOver_no_content (hpath : files.read path = .ok octets)
    (hnone : decodeRoot read octets = .ok []) :
    loadOver read Disk.ofTree path defaults files = load read Disk.ofTree defaults files :=
  loadOver_eq_load fun base _ =>
    ⟨[], (rootIn_of_read hpath).trans hnone, Entries.overlay_nil base⟩

end

/-- Laying roots over each other has the laws that loading relies on, and so a file
over a copy of itself, or one with nothing in it over another one, gives what the
file of the defaults alone gives, be it a configuration or a fault, whatever lawful reader
the documents are read by. -/
theorem layering_laws {a b c : Entries} (ha : (Value.map a).WellKeyed)
    (hb : (Value.map b).WellKeyed) (hc : (Value.map c).WellKeyed) {read : Reader}
    (hread : read.Lawful) {files : FileTree} {path : Path} {octets : List UInt8}
    (hpath : files.read path = .ok octets) (defaults : Path) :
    a.overlay [] = a ∧ Entries.overlay [] a = a ∧ a.overlay a = a ∧
      (a.overlay b).overlay b = a.overlay b ∧
      (¬Value.Parts (.map a) (.map b) (.map c) →
        (a.overlay b).overlay c = a.overlay (b.overlay c)) ∧
      (files.read defaults = .ok octets →
        loadOver read Disk.ofTree path defaults files = load read Disk.ofTree defaults files) ∧
      (decodeRoot read octets = .ok [] →
        loadOver read Disk.ofTree path defaults files = load read Disk.ofTree defaults files) ∧
      decodeRoot read [] = .ok [] :=
  ⟨Entries.overlay_nil a, Entries.nil_overlay ha.entries, Entries.overlay_self ha,
    Entries.overlay_overlay_self ha hb, Entries.overlay_assoc ha hb hc,
    loadOver_same_content hread hpath, loadOver_no_content hpath, hread.decodeRoot_nil⟩

/-- A layer with one entry in the part `log`. -/
def logLayer (name : Text) (s : Scalar) : Entries := [(.str "log", .map [(.str name, .scalar s)])]

theorem wellKeyed_logLayer (name : Text) (s : Scalar) : (Value.map (logLayer name s)).WellKeyed :=
  .singleton (Scalar.sameKey_self_str _) (.singleton (Scalar.sameKey_self_str _) (.scalar s))

/-- Layers with one scalar each do not come apart. -/
theorem not_parts_logLayer (lower middle upper : Text) (r s t : Scalar) :
    ¬Value.Parts (.map (logLayer lower r)) (.map (logLayer middle s))
      (.map (logLayer upper t)) := by
  rintro ⟨path, -, hupper, hsome, hnot⟩
  cases path with
  | nil => exact hnot (Value.mapAt_nil _)
  | cons k path =>
    have hfind (name : Text) (s : Scalar) : (logLayer name s).find? k =
        if (Scalar.str "log").sameKey k = true then some (.map [(.str name, .scalar s)])
        else none :=
      rfl
    by_cases hlog : (Scalar.str "log").sameKey k = true
    · simp only [if_pos hlog] at hfind
      rw [Value.mapAt_cons_iff (hfind middle s)] at hnot
      rw [Value.mapAt_cons_iff (hfind upper t)] at hupper
      cases path with
      | nil => exact hnot (Value.mapAt_nil _)
      | cons j path =>
        -- A mapping of scalars has no mapping in it.
        obtain ⟨entries, hentries⟩ := hupper
        rw [Value.at?_cons, Entries.find?_cons] at hentries
        split at hentries
        · cases path <;> cases hentries
        · cases hentries
    · rw [Value.at?_cons, hfind, if_neg hlog] at hsome
      cases hsome

/-- A file with a configuration and an empty one. -/
def emptyOverride : FileTree :=
  .ofFiles [(Path.ofText "default.yml", Text.Utf8.octets "queries: [{clauses: [{term: a}]}]\n"),
    (Path.ofText "empty.yml", [])]

theorem empty_override_keeps_defaults :
    (logLayer "level" (.str "INFO")).overlay
        ((logLayer "level" (.str "DEBUG")).overlay (logLayer "to_file" (.bool true))) =
      ((logLayer "level" (.str "INFO")).overlay (logLayer "level" (.str "DEBUG"))).overlay
        (logLayer "to_file" (.bool true)) ∧
    loadOver Command.readDocument Disk.ofTree (Path.ofText "empty.yml") (Path.ofText "default.yml")
        emptyOverride =
      load Command.readDocument Disk.ofTree (Path.ofText "default.yml") emptyOverride ∧
    (load Command.readDocument Disk.ofTree (Path.ofText "default.yml") emptyOverride).1.isOk =
      true := by
  have hpath : emptyOverride.read (Path.ofText "empty.yml") = .ok [] := rfl
  obtain ⟨-, -, -, -, hassoc, -, hempty, hnone⟩ :=
    layering_laws (wellKeyed_logLayer "level" (.str "INFO"))
      (wellKeyed_logLayer "level" (.str "DEBUG")) (wellKeyed_logLayer "to_file" (.bool true))
      lawful_readDocument hpath (Path.ofText "default.yml")
  exact ⟨(hassoc (not_parts_logLayer _ _ _ _ _ _)).symm, hempty hnone, by decide +kernel⟩

/-! ## Readers of alike values -/

section

variable {v w : Value} {root root' : Entries} {name : Text} {key : KeyPath}

/-- Alike values are the same text. -/
theorem stringAt_congr (h : v.Alike w) : stringAt key v = stringAt key w := by
  cases h <;> rfl

theorem boolAt_congr (h : v.Alike w) : boolAt key v = boolAt key w := by
  cases h <;> rfl

theorem stringsAt_congr (h : v.Alike w) : stringsAt key v = stringsAt key w := by
  have hitems {items items' : List Value} (h : List.Forall₂ Value.Alike items items') (i : Nat) :
      stringsFrom key i items = stringsFrom key i items' := by
    induction h generalizing i with
    | nil => rfl
    | cons hv _ ih => simp only [stringsFrom, stringAt_congr hv, ih]
  cases h with
  | list h => exact hitems h 0
  | _ => rfl

/-- Whether a key is present does not depend on the order of keys. -/
theorem alike_present? (h : Option.Rel Value.Alike (root.get? name) (root'.get? name)) :
    Option.Rel Value.Alike (root.present? name) (root'.present? name) := by
  unfold Entries.present?
  generalize root.get? name = found at h
  generalize root'.get? name = found' at h
  cases h with
  | none => exact .none
  | some h =>
    cases h with
    | scalar s => cases s <;> first | exact .none | exact .some (.scalar _)
    | list h => exact .some (.list h)
    | pair ha hb => exact .some (.pair ha hb)
    | set members => exact .some (.set members)
    | map h => exact .some (.map h)

/-- Alike mappings have alike values in place of a key that is missing. -/
theorem alike_getOr (h : (Value.map root).Alike (.map root')) (name : Text) {default : Value} :
    (root.getOr name default).Alike (root'.getOr name default) := by
  cases h with
  | map h =>
    have hpresent := alike_present? (h (.str name))
    unfold Entries.getOr
    generalize root.present? name = found at hpresent
    generalize root'.present? name = found' at hpresent
    cases hpresent with
    | none => exact .refl default
    | some h => exact h

/-- A part of alike roots is read alike by a reader that tells no alike mappings
apart. -/
theorem bind_section?_congr {α : Type} {required : Bool} {f : Entries → Except Fault α}
    (h : Option.Rel Value.Alike (root.get? name) (root'.get? name))
    (hf : ∀ {es es'}, (Value.map es).Alike (.map es') → f es = f es') :
    (section? root name required >>= f) = section? root' name required >>= f := by
  have hpresent := alike_present? h
  unfold section?
  generalize root.present? name = found at hpresent
  generalize root'.present? name = found' at hpresent
  cases hpresent with
  | none => rfl
  | some h =>
    cases h with
    | map h => exact hf (.map h)
    | _ => rfl

/-- The part `log` is read alike in alike roots. -/
theorem LogSettings.read_congr (h : Option.Rel Value.Alike (root.get? "log") (root'.get? "log")) :
    read root = read root' :=
  bind_section?_congr h fun hes => by
    simp only [stringAt_congr (alike_getOr hes "level"), boolAt_congr (alike_getOr hes "to_file"),
      stringAt_congr (alike_getOr hes "dir")]

theorem readEscape_congr (h : Option.Rel Value.Alike (root.get? "render") (root'.get? "render")) :
    readEscape root = readEscape root' :=
  bind_section?_congr h fun hes => boolAt_congr (alike_getOr hes "escape")

theorem OutputSettings.read_congr
    (h : Option.Rel Value.Alike (root.get? "output") (root'.get? "output")) :
    read root = read root' :=
  bind_section?_congr h fun hes => by
    simp only [stringsAt_congr (alike_getOr hes "formats"),
      stringAt_congr (alike_getOr hes "base_dir")]

end

/-! ## Queries -/

section

variable {base upper : Entries}

/-- The queries below a layer that has some do not show through. -/
theorem readQueries_overlay (hupper : (Value.map upper).WellKeyed)
    (h : (upper.get? "queries").isSome = true) (escape : Bool) :
    readQueries escape (base.overlay upper) = readQueries escape upper := by
  obtain ⟨v, hv⟩ := Option.isSome_iff_exists.1 h
  have hmerged : (base.overlay upper).get? "queries" = _ :=
    Entries.find?_overlay_of_some hupper.entries hv
  cases v with
  | map entries =>
    -- The mappings of both layers are put together, but no mapping is a list of queries.
    rw [Value.overlay_map (hupper.of_find? hv).entries] at hmerged
    simp only [readQueries, Entries.present?, hmerged, hv]
    rfl
  | _ =>
    rw [Value.overlay_of_entries?_eq_none rfl] at hmerged
    simp only [readQueries, Entries.present?, hmerged, hv]

/-- The queries of a configuration come wholly from one layer.  If the upper layer
has some, the lower one has no part in what is read, be it queries or a fault.  If it
has none and leaves the rendering alone, the queries are those of the lower one. -/
theorem queries_of_one_layer (hupper : (Value.map upper).WellKeyed) :
    ((upper.get? "queries").isSome = true → ∀ base base' : Entries,
      (∀ k, k ≠ .str "queries" → Option.Rel Value.Alike (base.find? k) (base'.find? k)) →
      Settings.read (base.overlay upper) = Settings.read (base'.overlay upper)) ∧
    (upper.get? "queries" = none → upper.get? "render" = none →
      ∀ (base : Entries) (s s' : Settings), Settings.read base = .ok s →
        Settings.read (base.overlay upper) = .ok s' → s'.queries = s.queries) := by
  constructor
  · intro hqueries base base' hagree
    have hmerged (name : Text) (hname : name ≠ "queries") :
        Option.Rel Value.Alike ((base.overlay upper).get? name) ((base'.overlay upper).get? name) :=
      Entries.alike_find?_overlay hupper (hagree _ fun heq => hname (Scalar.str.inj heq))
    simp only [Settings.read, LogSettings.read_congr (hmerged "log" (by decide)),
      readEscape_congr (hmerged "render" (by decide)),
      OutputSettings.read_congr (hmerged "output" (by decide)), readQueries_overlay hupper hqueries]
  · intro hqueries hrender base s s' hs hs'
    rw [Settings.read_eq_ok_iff] at hs hs'
    refine hs.queries_eq_of_parts_eq hs' ?_ ?_
    · simp only [Entries.present?, Entries.get?, Entries.find?_overlay_of_none hrender]
    · simp only [Entries.present?, Entries.get?, Entries.find?_overlay_of_none hqueries]

end

/-- A layer with nothing but a query of one term. -/
def termLayer (text : Text) : Entries :=
  [(.str "queries", .list [.map [(.str "clauses", .list [.map [(.str "term", .str text)]])]])]

theorem wellKeyed_termLayer (text : Text) : (Value.map (termLayer text)).WellKeyed := by
  have hlist {v : Value} (hv : v.WellKeyed) : (Value.list [v]).WellKeyed :=
    .list (by simpa only [List.forall_mem_singleton] using hv)
  have hkey {name : Text} {v : Value} (hv : v.WellKeyed) : (Value.map [(.str name, v)]).WellKeyed :=
    .singleton (Scalar.sameKey_self_str name) hv
  exact hkey (hlist (hkey (hlist (hkey (.scalar _)))))

theorem layers_keep_their_queries :
    Settings.read (Entries.overlay [(.str "queries", .int 1)] (termLayer "a")) =
        Settings.read ((termLayer "b").overlay (termLayer "a")) ∧
      (Settings.read ((termLayer "b").overlay (termLayer "a"))).isOk = true ∧
      ∃ s s', Settings.read (termLayer "a") = .ok s ∧
        Settings.read ((termLayer "a").overlay (logLayer "level" (.str "DEBUG"))) = .ok s' ∧
        s'.queries = s.queries := by
  have hagree (k : Scalar) (hk : k ≠ .str "queries") (v : Value) :
      Entries.find? k [(.str "queries", v)] = none := by
    rw [Entries.find?_cons, if_neg fun h => hk (Scalar.sameKey_str_iff.1 (Scalar.sameKey_symm h))]
    rfl
  have hok {x : Except Fault Settings} (h : x.isOk = true) : ∃ s, x = .ok s := by
    cases x with
    | ok s => exact ⟨s, rfl⟩
    | error f => cases h
  refine ⟨(queries_of_one_layer (wellKeyed_termLayer "a")).1 rfl _ _ fun k hk => ?_,
    by decide +kernel, ?_⟩
  · rw [termLayer, hagree k hk, hagree k hk]
    exact .none
  · obtain ⟨s, hs⟩ := hok (x := Settings.read (termLayer "a")) (by decide +kernel)
    obtain ⟨s', hs'⟩ := hok
      (x := Settings.read ((termLayer "a").overlay (logLayer "level" (.str "DEBUG"))))
      (by decide +kernel)
    exact ⟨s, s', hs, hs',
      (queries_of_one_layer (wellKeyed_logLayer _ _)).2 rfl rfl _ _ _ hs hs'⟩

end LuceneQuery.Config
