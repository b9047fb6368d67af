import LuceneQuery.Proofs.Config.Reading

/-!
# Configurations that have been read

A configuration is read part by part, and each part comes from its own entry of
the root (`Settings.ReadFrom`).  So the queries depend on nothing but the parts
`render` and `queries` (`queries_eq_of_parts_eq`).  What is left after the checks
is a level among those that may be asked for, and formats that are all known.
-/

namespace LuceneQuery.Config

/-- A configuration is what the parts of a root say, and has passed the checks. -/
structure Settings.ReadFrom (root : Entries) (s : Settings) : Prop where
  log : LogSettings.read root = .ok s.log
  escape : readEscape root = .ok s.escape
  output : OutputSettings.read root = .ok s.output
  queries : readQueries s.escape root = .ok s.queries
  logChecked : s.log.check = .ok ()
  outputChecked : s.output.check = .ok ()
  clausesRequired : requireClauses s.queries = .ok ()

variable {root root' : Entries} {s s' : Settings}

/-- Settings are read of a root exactly if its parts are read and pass their checks. -/
theorem Settings.read_eq_ok_iff : Settings.read root = .ok s ↔ s.ReadFrom root := by
  unfold Settings.read
  simp only [bind_eq_ok_iff]
  constructor
  · rintro ⟨log, hlog, escape, hescape, output, houtput, queries, hqueries, ⟨⟩, hlogChecked, ⟨⟩,
      houtputChecked, ⟨⟩, hclauses, h⟩
    cases h
    exact ⟨hlog, hescape, houtput, hqueries, hlogChecked, houtputChecked, hclauses⟩
  · intro h
    exact ⟨_, h.log, _, h.escape, _, h.output, _, h.queries, _, h.logChecked, _, h.outputChecked,
      _, h.clausesRequired, rfl⟩

/-! ## Parts -/

/-- A part depends on nothing but what is present under its name. -/
theorem section?_congr {name : Text} {required : Bool}
    (h : root'.present? name = root.present? name) :
    (section? root' name required) = section? root name required := by
  simp only [section?, h]

/-- Roots with equal parts `render` and `queries` hold equal queries. -/
theorem Settings.ReadFrom.queries_eq_of_parts_eq (h : s.ReadFrom root) (h' : s'.ReadFrom root')
    (hrender : root'.present? "render" = root.present? "render")
    (hqueries : root'.present? "queries" = root.present? "queries") : s'.queries = s.queries := by
  have hescape : readEscape root' = readEscape root := by
    simp only [readEscape, section?_congr hrender]
  have heq : s'.escape = s.escape := Except.ok.inj (h'.escape.symm.trans (hescape.trans h.escape))
  have hread : readQueries s'.escape root' = readQueries s.escape root := by
    simp only [readQueries, hqueries, heq]
  exact Except.ok.inj (h'.queries.symm.trans (hread.trans h.queries))

/-! ## The log -/

/-- A level that passes its check is one of the names. -/
theorem LogSettings.level_mem_of_check {log : LogSettings} (h : log.check = .ok ()) :
    log.level ∈ levelNames := by
  unfold check at h
  dsimp only at h
  split at h
  · cases h
  · next hlevel => simpa using hlevel

/-! ## Formats -/

/-- No output without a format passes the check. -/
theorem OutputSettings.formats_ne_nil_of_check {output : OutputSettings}
    (h : output.check = .ok ()) : output.formats ≠ [] := by
  unfold check at h
  dsimp only at h
  split at h
  · cases h
  · assumption

/-- No other format passes the check. -/
theorem OutputSettings.eq_console_or_json_of_check {output : OutputSettings}
    (h : output.check = .ok ()) {format : Text} (hformat : format ∈ output.formats) :
    format = console ∨ format = json := by
  by_contra hne
  have hunknown : format ∈ sortedNames (output.formats.filter fun f => f ≠ console ∧ f ≠ json) := by
    rw [mem_sortedNames]
    simpa [hformat] using hne
  unfold check at h
  dsimp only at h
  split at h
  · cases h
  · split at h
    · cases h
    · next hnone => exact List.ne_nil_of_mem hunknown (by simpa using hnone)

end LuceneQuery.Config
