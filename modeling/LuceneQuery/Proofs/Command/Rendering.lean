import LuceneQuery.Proofs.Command.Loading
import LuceneQuery.Proofs.Log.File
import LuceneQuery.Proofs.Output.Document

/-!
# Rendering with a configuration

Each query adds what is told of it to the log and what the sinks keep of it, and
leaves the rest to the next one (`renderFrom_cons`).  So rendering stops at the
first query that cannot be written, or hands all of them over in order.  Then the
output ends.  Either one of these steps fails (`Fails`), and the report has the
one fault for its last record, or none does, and it is clear what has been logged
and which files there are (`Ends`).

A log is set up before, and written to its file after, which changes no more than
that file.  If the file is refused there is no rendering at all.

A run is nothing but this once its libraries have told it to render and it has found its
configuration (`Invocation.Loads.run_eq`).  Whether it comes so far can be
computed (`Invocation.settings?`).
-/

namespace LuceneQuery.Command

open Config (Settings LabelledQuery)
open Output (Sink)

/-! ## One query after another -/

namespace Render

/-- What is logged of a query with its number: that it is rendered, a warning if
its text is empty, and what the sinks log of it. -/
def told (sinks : List Sink) (total : Nat) (q : LabelledQuery × Nat) : List Log.Record :=
  announced q.2 total q.1 :: (warned q.2 total q.1 ++ Sink.takeAll sinks (entryOf q.1))

section

variable {sinks : List Sink} {total i : Nat} {p : Progress} {queries : List LabelledQuery}

/-- A query that can be written is told of, handed to the sinks and left behind. -/
theorem renderFrom_cons {q : LabelledQuery} (h : isWritable q = true) :
    renderFrom sinks total i p (q :: queries) =
      renderFrom sinks total (i + 1)
        ⟨p.records ++ told sinks total (q, i), p.kept ++ Sink.keepAll sinks (entryOf q)⟩
        queries := by
  rw [renderFrom, if_pos h]
  simp [Progress.log, Progress.hand, told]

/-- If all queries can be written, all are told of and handed over in order. -/
theorem renderFrom_of_writable (h : ∀ q ∈ queries, isWritable q = true) :
    renderFrom sinks total i p queries =
      (⟨p.records ++ (queries.zipIdx i).flatMap (told sinks total),
        p.kept ++ queries.flatMap fun q => Sink.keepAll sinks (entryOf q)⟩, none) := by
  induction queries generalizing i p with
  | nil => simp [renderFrom]
  | cons q queries ih =>
    have hrest : ∀ q' ∈ queries, isWritable q' = true := fun q' hq' =>
      h q' (List.mem_cons_of_mem q hq')
    rw [renderFrom_cons (h q List.mem_cons_self), ih hrest]
    simp [List.zipIdx_cons]

/-- A query that cannot be written stops the rendering. -/
theorem renderFrom_of_not_writable (h : ∃ q ∈ queries, isWritable q = false) :
    (renderFrom sinks total i p queries).2 = some (.query .tooManyDigits) := by
  induction queries generalizing i p with
  | nil => simp at h
  | cons q queries ih =>
    by_cases hq : isWritable q = true
    · rw [renderFrom_cons hq]
      obtain ⟨q', hq', h⟩ := h
      rcases List.mem_cons.1 hq' with rfl | hq'
      · cases hq.symm.trans h
      · exact ih ⟨q', hq', h⟩
    · rw [renderFrom, if_neg hq]

end

/-! ## All queries -/

/-- What keeps a configuration from being rendered on a tree of files. -/
inductive Fails (settings : Settings) (stamp : Text) (files : FileTree) : Output.Fault → Prop where
  | query {q : LabelledQuery} (hq : q ∈ settings.queries) (h : isWritable q = false) :
    Fails settings stamp files (.query .tooManyDigits)
  | document {f : Output.Fault} (hqueries : ∀ q ∈ settings.queries, isWritable q = true)
      (hjson : Config.OutputSettings.json ∈ settings.output.formats)
      (h : Output.DocumentFault settings.output.baseDir action stamp
        (settings.queries.map entryOf) files f) :
    Fails settings stamp files f

/-- The sinks of a configuration. -/
def sinksOf (settings : Settings) : List Sink := Sink.ofFormats settings.output.formats

/-- What has come of all queries when each has been handed to the sinks. -/
def delivered (settings : Settings) : Progress where
  records := (settings.queries.zipIdx 1).flatMap (told (sinksOf settings) settings.queries.length)
  kept := if Config.OutputSettings.json ∈ settings.output.formats
    then settings.queries.map entryOf else []

section

variable {settings : Settings} {stamp : Text} {files : FileTree}

theorem renderFrom_delivered (h : ∀ q ∈ settings.queries, isWritable q = true) :
    renderFrom (sinksOf settings) settings.queries.length 1 {} settings.queries =
      (delivered settings, none) := by
  rw [renderFrom_of_writable h]
  simp only [delivered, sinksOf, Sink.keepAll_ofFormats, List.nil_append]
  split <;> simp [List.map_eq_flatMap]

/-- What the files are when the output has ended, with what is logged of the end. -/
inductive Ends (settings : Settings) (stamp : Text) (files : FileTree) :
    List Log.Record → FileTree → Prop where
  | document {made : FileTree} {octets : List UInt8}
      (hjson : Config.OutputSettings.json ∈ settings.output.formats)
      (hmade : Disk.ofTree.makeDirectories
        (Output.documentDirectory settings.output.baseDir) files = (.ok (), made))
      (hfile : (made.write (Output.documentPath settings.output.baseDir action stamp) octets).1 =
        .ok ())
      (hencode : Text.Utf8.encode (Output.Json.document (settings.queries.map entryOf)) =
        .ok octets) :
    Ends settings stamp files
      [Output.savedTo (Output.documentPath settings.output.baseDir action stamp)]
      (made.write (Output.documentPath settings.output.baseDir action stamp) octets).2
  | silent (hjson : Config.OutputSettings.json ∉ settings.output.formats) :
    Ends settings stamp files [] files

/-- Rendering goes through the queries, and then ends the output. -/
theorem run_ofTree (hchecked : settings.output.check = .ok ()) :
    run Disk.ofTree settings stamp files =
      (match renderFrom (sinksOf settings) settings.queries.length 1 {} settings.queries with
        | (p, some f) => (.ofFault p f, files)
        | (p, none) =>
          match Output.finish Disk.ofTree (sinksOf settings) settings.output.baseDir action stamp
              p.kept files with
          | (.error f, after) => (.ofFault p f, after)
          | (.ok saved, after) =>
            (⟨p.log (saved ++ [done settings.queries.length]), none⟩, after)) := by
  unfold run
  rw [Sink.choose_of_check hchecked]
  simp only [← sinksOf.eq_def]
  cases renderFrom (sinksOf settings) settings.queries.length 1 {} settings.queries with
  | mk p fault =>
    cases fault with
    | some f => rfl
    | none =>
      simp only [bind, StateT.bind]
      cases Output.finish Disk.ofTree (sinksOf settings) settings.output.baseDir action stamp p.kept
        files with
      | mk result after => cases result <;> rfl

/-- The output ends with a document of all queries if the configuration asks for one. -/
theorem finish_delivered :
    Output.finish Disk.ofTree (sinksOf settings) settings.output.baseDir action stamp
        (delivered settings).kept files =
      if Config.OutputSettings.json ∈ settings.output.formats then
        Output.writeDocument Disk.ofTree settings.output.baseDir action stamp
          (settings.queries.map entryOf) files
      else (.ok [], files) := by
  by_cases hjson : Config.OutputSettings.json ∈ settings.output.formats
  · simp [Output.finish, sinksOf, Sink.file_mem_ofFormats, delivered, hjson]
  · have hsilent : (sinksOf settings).contains Sink.file = false := by
      simpa [sinksOf, Sink.file_mem_ofFormats] using hjson
    simp only [Output.finish, hsilent, if_neg hjson]
    rfl

/-- What keeps a configuration from being rendered ends up in the report. -/
theorem run_of_fails {f : Output.Fault} (hchecked : settings.output.check = .ok ())
    (h : Fails settings stamp files f) :
    ∃ p after, run Disk.ofTree settings stamp files = (.ofFault p f, after) := by
  rw [run_ofTree hchecked]
  cases h with
  | query hq h =>
    have hfault : (renderFrom (sinksOf settings) settings.queries.length 1 {}
        settings.queries).2 = some (.query .tooManyDigits) :=
      renderFrom_of_not_writable ⟨_, hq, h⟩
    split
    · next p f hfrom =>
      have hf : f = .query .tooManyDigits := by simpa [hfrom] using hfault
      exact ⟨p, files, by rw [hf]⟩
    · next hfrom => simp [hfrom] at hfault
  | document hqueries hjson h =>
    rw [renderFrom_delivered hqueries]
    simp only [finish_delivered, if_pos hjson]
    have hfault := Output.writeDocument_of_fault h
    split
    · next f' after hwrite =>
      have hf : f' = f := by simpa [hwrite] using hfault
      exact ⟨_, after, by rw [hf]⟩
    · next hwrite => simp [hwrite] at hfault

/-- Only one fault keeps a configuration from being rendered. -/
theorem Fails.unique {f f' : Output.Fault} (hchecked : settings.output.check = .ok ())
    (h : Fails settings stamp files f) (h' : Fails settings stamp files f') : f' = f := by
  obtain ⟨p, after, hrun⟩ := run_of_fails hchecked h
  obtain ⟨p', after', hrun'⟩ := run_of_fails hchecked h'
  exact Option.some.inj (congrArg (fun result => result.1.fault) (hrun'.symm.trans hrun))

/-- Rendering changes no file but the document. -/
theorem staysAt_run (settings : Settings) (stamp : Text) :
    FileTree.StaysAt [Output.documentPath settings.output.baseDir action stamp]
      (run Disk.ofTree settings stamp) := by
  unfold run
  split
  · exact FileTree.staysAt_pure _
  · dsimp only
    split
    · exact FileTree.staysAt_pure _
    · have hfinish (sinks : List Sink) (entries : List Output.Entry) :
          FileTree.StaysAt [Output.documentPath settings.output.baseDir action stamp]
            (Output.finish Disk.ofTree sinks settings.output.baseDir action stamp entries) := by
        unfold Output.finish
        split
        · exact Output.staysAt_writeDocument _ _ _ _
        · exact FileTree.staysAt_pure _
      refine (hfinish _ _).bind fun result => ?_
      cases result <;> exact FileTree.staysAt_pure _

/-- Either something keeps a configuration from being rendered, or all of it is delivered. -/
theorem run_cases (stamp : Text) (files : FileTree) (hchecked : settings.output.check = .ok ()) :
    (∃ f, Fails settings stamp files f) ∨
      ∃ saved after, Ends settings stamp files saved after ∧
        run Disk.ofTree settings stamp files =
          (⟨(delivered settings).log (saved ++ [done settings.queries.length]), none⟩, after) := by
  by_cases hqueries : ∀ q ∈ settings.queries, isWritable q = true
  · rw [run_ofTree hchecked, renderFrom_delivered hqueries]
    simp only [finish_delivered]
    by_cases hjson : Config.OutputSettings.json ∈ settings.output.formats
    · simp only [if_pos hjson]
      rcases Output.writeDocument_cases settings.output.baseDir action stamp
        (settings.queries.map entryOf) files with
        ⟨f, hfault⟩ | ⟨made, octets, hmade, hfile, hencode, hwrite⟩
      · exact .inl ⟨f, .document hqueries hjson hfault⟩
      · rw [hwrite]
        exact .inr ⟨_, _, .document hjson hmade hfile hencode, rfl⟩
    · simp only [if_neg hjson]
      exact .inr ⟨_, _, .silent hjson, rfl⟩
  · simp only [not_forall, Bool.not_eq_true] at hqueries
    obtain ⟨q, hq, h⟩ := hqueries
    exact .inl ⟨_, .query hq h⟩

end

end Render

/-! ## With a log -/

/-- The log file of a configuration. -/
def logPath (settings : Settings) (stamp : Text) : Path :=
  Log.filePath settings.log.dir Render.action stamp

/-- Makes the log file of a configuration. -/
def openLog (settings : Settings) (stamp : Text) (files : FileTree) :
    Except FileFault Path × FileTree :=
  Log.openFile Disk.ofTree settings.log.dir Render.action stamp files

/-- The log is to be saved, but its file cannot be made. -/
def LogRefused (settings : Settings) (stamp : Text) (files : FileTree) (f : FileFault) : Prop :=
  settings.log.toFile = true ∧ (openLog settings stamp files).1 = .error f

/-- The files when the log has been set up. -/
def withLog (settings : Settings) (stamp : Text) (files : FileTree) : FileTree :=
  if settings.log.toFile then (openLog settings stamp files).2 else files

/-- The thresholds of a log with a level. -/
def setupOf (settings : Settings) (level : Int) : Log.Setup :=
  .ofLevel level settings.log.toFile settings.log.toFile

/-- The log of a configuration with a level. -/
def sinksAt (settings : Settings) (stamp : Text) (level : Int) : Log.Sinks :=
  ⟨setupOf settings level, if settings.log.toFile then some (logPath settings stamp) else none⟩

section

variable {settings : Settings} {stamps : Stamps} {files after : FileTree} {level : Int}
  {report : Render.Report} {echo : Text → Text}

theorem start_of_refused {f : FileFault}
    (hlevel : Log.levelOf (some settings.log.level) = .ok level)
    (h : LogRefused settings stamps.log files f) :
    Log.Sinks.start Disk.ofTree (some settings.log.level) (some Render.action) settings.log.toFile
        settings.log.dir stamps.log files =
      (.error (.file f), withLog settings stamps.log files) := by
  obtain ⟨htoFile, hopen⟩ := h
  rw [openLog] at hopen
  simp only [withLog, openLog, htoFile, if_true]
  rw [Log.Sinks.start_saved hlevel (by decide), hopen]

theorem start_of_not_refused (hlevel : Log.levelOf (some settings.log.level) = .ok level)
    (h : ∀ f, ¬LogRefused settings stamps.log files f) :
    Log.Sinks.start Disk.ofTree (some settings.log.level) (some Render.action) settings.log.toFile
        settings.log.dir stamps.log files =
      (.ok (sinksAt settings stamps.log level), withLog settings stamps.log files) := by
  cases htoFile : settings.log.toFile with
  | false => simp [Log.Sinks.start_unsaved hlevel, sinksAt, setupOf, withLog, htoFile]
  | true =>
    cases hopen : (Log.openFile Disk.ofTree settings.log.dir Render.action stamps.log files).1 with
    | error f => exact absurd ⟨htoFile, hopen⟩ (h f)
    | ok path =>
      obtain ⟨rfl, -⟩ := Log.openFile_eq_ok hopen
      rw [Log.Sinks.start_saved hlevel (by decide), hopen]
      simp [sinksAt, setupOf, withLog, openLog, logPath, htoFile]

theorem render_of_refused {f : FileFault}
    (hlevel : Log.levelOf (some settings.log.level) = .ok level)
    (h : LogRefused settings stamps.log files f) :
    (render echo Disk.ofTree stamps settings files).1 = .silent (.crash (.log (.file f))) := by
  unfold render
  simp only [bind, StateT.bind, start_of_refused hlevel h]
  rfl

/-- What is shown of a report, and how it ends. -/
def outcomeOf (echo : Text → Text) (shown : Text) (report : Render.Report) : Outcome :=
  if report.fault.isSome then ⟨.aborted, shown ++ echo abortedMessage⟩ else ⟨.success, shown⟩

/-- With a log, rendering ends with what the log shows of the report. -/
theorem render_of_not_refused (hlevel : Log.levelOf (some settings.log.level) = .ok level)
    (h : ∀ f, ¬LogRefused settings stamps.log files f)
    (hrun : Render.run Disk.ofTree settings stamps.document (withLog settings stamps.log files) =
      (report, after)) :
    render echo Disk.ofTree stamps settings files =
      (outcomeOf echo
          ((setupOf settings level).report stamps.line stamps.trace report.records) report,
        ((sinksAt settings stamps.log level).log Disk.ofTree stamps.line stamps.trace
          report.records after).2) := by
  unfold render
  simp only [bind, StateT.bind, start_of_not_refused hlevel h, hrun]
  refine Prod.ext ?_ rfl
  change outcomeOf echo (((sinksAt settings stamps.log level).log Disk.ofTree stamps.line
    stamps.trace report.records after).1) report = _
  rw [Log.Sinks.log_fst]
  rfl

theorem ending_of_fails {f : Output.Fault} (hchecked : settings.output.check = .ok ())
    (hlevel : Log.levelOf (some settings.log.level) = .ok level)
    (hlog : ∀ f, ¬LogRefused settings stamps.log files f)
    (h : Render.Fails settings stamps.document (withLog settings stamps.log files) f) :
    (render echo Disk.ofTree stamps settings files).1.ending = .aborted := by
  obtain ⟨p, after, hrun⟩ := Render.run_of_fails hchecked h
  rw [render_of_not_refused hlevel hlog hrun]
  rfl

end

/-! ## Runs that load their configuration -/

/-- What a run is given. -/
structure Invocation where
  /-- The libraries. -/
  libraries : Libraries (StateM FileTree)
  /-- The texts of the time. -/
  stamps : Stamps
  /-- The environment. -/
  environment : Variables
  /-- The arguments. -/
  arguments : List Text
  /-- The files of the working directory. -/
  files : FileTree

/-- The run. -/
def Invocation.run (i : Invocation) : Outcome × FileTree :=
  Command.run i.libraries Disk.ofTree i.stamps i.environment i.arguments i.files

/-- The libraries tell a run to render, and it finds a root and its settings in the file that
they name. -/
structure Invocation.Loads (i : Invocation) (root : Entries) (settings : Settings) : Prop where
  found : ∃ config octets,
    GetsToLoad i.libraries i.environment i.arguments i.files config (.ok ()) ∧
      i.files.read config = .ok octets ∧
      Config.decodeRoot i.libraries.readDocument octets = .ok root
  settings : settings.ReadFrom root

/-- A run that loads its configuration renders it. -/
theorem Invocation.Loads.run_eq {i : Invocation} {root : Entries} {settings : Settings}
    (h : i.Loads root settings) :
    i.run = render i.libraries.echo Disk.ofTree i.stamps settings i.files := by
  obtain ⟨config, octets, hstart, hoctets, hroot⟩ := h.found
  have hload : Config.load i.libraries.readDocument Disk.ofTree config i.files =
      (.ok settings, i.files) := by
    have hsettings := Settings.read_eq_ok_iff.2 h.settings
    simp [load_ofTree, hoctets, hroot, Config.settingsOf, hsettings, bind, Except.bind,
      Except.mapError]
  rw [run, run_eq_follow hstart]
  unfold follow
  simp only [bind, StateT.bind, hload]

/-- The root and the settings that a run loads, if it does. -/
def Invocation.settings? (i : Invocation) : Option (Entries × Settings) :=
  match (i.libraries.addVariables i.environment i.files).1 with
  | .ok vs =>
    match (i.libraries.parse vs i.arguments i.files).1 with
    | .ok (.load config (.ok ())) =>
      match i.files.read config with
      | .ok octets =>
        match Config.decodeRoot i.libraries.readDocument octets with
        | .ok root =>
          match Settings.read root with
          | .ok settings => some (root, settings)
          | .error _ => none
        | .error _ => none
      | .error _ => none
    | _ => none
  | .error _ => none

/-- What is computed is what the run loads, unless its libraries change files. -/
theorem Invocation.loads_of_settings? {i : Invocation} (hkeep : i.libraries.KeepFiles)
    {root : Entries} {settings : Settings} (h : i.settings? = some (root, settings)) :
    i.Loads root settings := by
  unfold settings? at h
  split at h
  · next vs hvariables =>
    split at h
    · next config hparse =>
      split at h
      · next octets hoctets =>
        split at h
        · next hroot =>
          split at h
          · next hsettings =>
            cases h
            exact ⟨⟨config, octets, hkeep.getsToLoad hvariables hparse, hoctets, hroot⟩,
              Settings.read_eq_ok_iff.1 hsettings⟩
          · cases h
        · cases h
      · cases h
    · cases h
  · cases h

theorem Invocation.exists_loads {i : Invocation} (hkeep : i.libraries.KeepFiles)
    {holds : Settings → Prop} (h : ∃ loaded ∈ i.settings?, holds loaded.2) :
    ∃ root settings, i.Loads root settings ∧ holds settings := by
  obtain ⟨⟨root, settings⟩, hloaded, hholds⟩ := h
  exact ⟨root, settings, loads_of_settings? hkeep hloaded, hholds⟩

/-- The texts of one time. -/
def newYear : Stamps := ⟨"01-01 00:00:00 ", "0101000000", "20240101_000000", fun _ => []⟩

/-- A run of the executable on some files that is told the path of its configuration. -/
def invocationOf (files : List (Path × List UInt8)) : Invocation where
  libraries := .builtin Disk.ofTree
  stamps := newYear
  environment := []
  arguments := ["--config", "c.yml", "render"]
  files := .ofFiles files

end LuceneQuery.Command
