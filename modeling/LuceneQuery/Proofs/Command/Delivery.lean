import LuceneQuery.Proofs.Command.Rendering

/-!
# Delivery of queries

A run that loads a configuration delivers its queries to every sink the root asks
for, if they can be written and there is room for its files (`CanDeliver`).  What
it delivers is said once (`Delivers`): the sinks, the records of the log in their
order, what the file sink keeps, and the files.  The content lies in the loop over
the queries, which `Rendering` has settled, and in the document, which must still
be there when the log has been written to its file.  The two are different files,
since their names end differently (`apart_documentPath_logPath`).
-/

namespace LuceneQuery.Command

open Config (Settings LabelledQuery OutputSettings)
open Output (Sink)

/-! ## Names of files -/

/-- The texts of the time of a run can stand in the name of a file. -/
structure Stamps.AreNames (s : Stamps) : Prop where
  log : .char '/' ∉ s.log
  document : .char '/' ∉ s.document

/-- The path of the document of a run, name by name. -/
def documentPath (baseDir stamp : Text) : Path where
  root := (Path.ofText baseDir).root
  names := (Path.ofText baseDir).names ++ (["json", "render_" ++ stamp ++ ".json"] : List Text)

/-- There is room for the files of a run: for the log file, if the log is to be
saved, and then for the document and its directory, if there is to be one. -/
structure HasRoom (settings : Settings) (stamps : Stamps) (files : FileTree) : Prop where
  log : settings.log.toFile = true →
    (openLog settings stamps.log files).1 = .ok (logPath settings stamps.log)
  directory : OutputSettings.json ∈ settings.output.formats →
    (Disk.ofTree.makeDirectories (Output.documentDirectory settings.output.baseDir)
      (withLog settings stamps.log files)).1 = .ok ()
  document : OutputSettings.json ∈ settings.output.formats →
    ((Disk.ofTree.makeDirectories (Output.documentDirectory settings.output.baseDir)
      (withLog settings stamps.log files)).2.write
        (Output.documentPath settings.output.baseDir Render.action stamps.document) []).1 = .ok ()

instance (settings : Settings) (stamps : Stamps) (files : FileTree) :
    Decidable (HasRoom settings stamps files) :=
  decidable_of_iff (_ ∧ _ ∧ _)
    ⟨fun h => ⟨h.1, h.2.1, h.2.2⟩, fun h => ⟨h.log, h.directory, h.document⟩⟩

/-- Every query can be written, and holds no half if it goes to a document. -/
structure IsWritable (settings : Settings) : Prop where
  queries : ∀ q ∈ settings.queries, Render.isWritable q = true
  entries : OutputSettings.json ∈ settings.output.formats →
    ∀ q ∈ settings.queries, (Render.entryOf q).HoldsNoHalf

instance (settings : Settings) : Decidable (IsWritable settings) :=
  decidable_of_iff (_ ∧ _) ⟨fun h => ⟨h.1, h.2⟩, fun h => ⟨h.queries, h.entries⟩⟩

/-- The document of queries without halves has octets. -/
theorem IsWritable.encode_document {settings : Settings} (h : IsWritable settings)
    (hjson : OutputSettings.json ∈ settings.output.formats) :
    Text.Utf8.encode (Output.Json.document (settings.queries.map Render.entryOf)) =
      .ok (Text.Utf8.octets (Output.Json.document (settings.queries.map Render.entryOf))) := by
  have hentries : ∀ e ∈ settings.queries.map Render.entryOf, e.HoldsNoHalf :=
    List.forall_mem_map.2 (h.entries hjson)
  exact Output.encode_of_holdsNoHalf (Output.holdsNoHalf_document hentries)

/-- Where there is room, queries that can be written are rendered. -/
theorem not_fails {settings : Settings} {stamps : Stamps} {files : FileTree}
    (hroom : HasRoom settings stamps files) (hwritable : IsWritable settings) (f : Output.Fault) :
    ¬Render.Fails settings stamps.document (withLog settings stamps.log files) f := by
  intro h
  cases h with
  | query hq h => cases h.symm.trans (hwritable.queries _ hq)
  | document _ hjson h =>
    cases h with
    | directory h => cases (hroom.directory hjson).symm.trans h
    | file hmade h =>
      have hfile := hroom.document hjson
      rw [hmade] at hfile
      cases hfile.symm.trans h
    | encoding _ _ h => cases (hwritable.encode_document hjson).symm.trans h

/-- A run loads a configuration that can be rendered, with room for its files. -/
structure Invocation.CanDeliver (i : Invocation) (root : Entries) (settings : Settings) :
    Prop where
  loads : i.Loads root settings
  names : i.stamps.AreNames
  room : HasRoom settings i.stamps i.files
  writable : IsWritable settings

/-! ## What is told -/

namespace Render

variable {sinks : List Sink} {total : Nat} {q : LabelledQuery × Nat}

theorem level_of_mem_takeAll {e : Output.Entry} {r : Log.Record} (h : r ∈ Sink.takeAll sinks e) :
    r.level = Log.info := by
  obtain ⟨sink, -, hr⟩ := List.mem_flatMap.1 h
  cases sink <;> simp_all [Sink.take]

theorem level_of_mem_warned {i : Nat} {q : LabelledQuery} {r : Log.Record}
    (h : r ∈ warned i total q) : r.level = Log.warning := by
  unfold warned at h
  split at h <;> simp_all

theorem filter_of_forall_level {records : List Log.Record} {level level' : Int}
    (h : ∀ r ∈ records, r.level = level) :
    records.filter (·.level = level') = if level = level' then records else [] := by
  split
  · next heq => exact List.filter_eq_self.2 fun r hr => by simp [h r hr, heq]
  · next hne => exact List.filter_eq_nil_iff.2 fun r hr => by simp [h r hr, hne]

/-- The records of a query that are no details are its warning and what the sinks
log of it. -/
theorem filter_told {level : Int} (hlevel : level ≠ Log.debug) :
    (told sinks total q).filter (·.level = level) =
      (if Log.warning = level then warned q.2 total q.1 else []) ++
        (if Log.info = level then Sink.takeAll sinks (entryOf q.1) else []) := by
  have hannounced : ¬(announced q.2 total q.1).level = level := Ne.symm hlevel
  rw [told, List.filter_cons_of_neg (by simpa using hannounced), List.filter_append,
    filter_of_forall_level fun _ => level_of_mem_warned,
    filter_of_forall_level fun _ => level_of_mem_takeAll]

end Render

/-! ## Delivery -/

section

variable {i : Invocation} {root : Entries} {settings : Settings}

/-- Where there is room, the file of the log is not refused. -/
theorem HasRoom.not_refused {stamps : Stamps} {files : FileTree}
    (h : HasRoom settings stamps files) (f : FileFault) :
    ¬LogRefused settings stamps.log files f := by
  rintro ⟨htoFile, hopen⟩
  cases (h.log htoFile).symm.trans hopen

/-- The report of a run that has delivered all queries, with the records of the
end of the output. -/
def deliveryReport (settings : Settings) (saved : List Log.Record) : Render.Report :=
  ⟨(Render.delivered settings).log (saved ++ [Render.done settings.queries.length]), none⟩

/-- A run that can deliver logs a report of it, behind the end of the output. -/
theorem Invocation.CanDeliver.run_eq (h : i.CanDeliver root settings) :
    ∃ level saved after, Log.levelOf (some settings.log.level) = .ok level ∧
      Render.Ends settings i.stamps.document (withLog settings i.stamps.log i.files) saved after ∧
      Render.run Disk.ofTree settings i.stamps.document (withLog settings i.stamps.log i.files) =
        (deliveryReport settings saved, after) ∧
      i.run = (⟨.success, (setupOf settings level).report i.stamps.line i.stamps.trace
          (deliveryReport settings saved).records⟩,
        ((sinksAt settings i.stamps.log level).log Disk.ofTree i.stamps.line i.stamps.trace
          (deliveryReport settings saved).records after).2) := by
  obtain ⟨level, hlevel, -, -⟩ :=
    Log.levelOf_of_mem (Config.LogSettings.level_mem_of_check h.loads.settings.logChecked)
  rcases Render.run_cases i.stamps.document (withLog settings i.stamps.log i.files)
    h.loads.settings.outputChecked with
    ⟨f, hf⟩ | ⟨saved, after, hends, hrun⟩
  · exact absurd hf (not_fails h.room h.writable f)
  · refine ⟨level, saved, after, hlevel, hends, hrun, ?_⟩
    rw [h.loads.run_eq, render_of_not_refused hlevel h.room.not_refused hrun]
    rfl

end

end LuceneQuery.Command
