import LuceneQuery.Proofs.Command.Rendering

/-!
# Failures of runs

What can go wrong in a run that has loaded its configuration goes wrong in one of
two stages.  While the log is set up, its file may be refused (`LogRefused`); this
ends the run without a word.  All else goes wrong while the queries are rendered
and their document is written (`Render.Fails`), and every fault of this stage
becomes the last record of the log (`Tells`) before the run is aborted.
-/

namespace LuceneQuery.Command

open Config (Settings)

/-! ## The record of a failure -/

section

variable {settings : Settings} {level : Int} {time : String} {f : Output.Fault}
  {records : List Log.Record}

/-- The line of a failure. -/
def failureLine (time : String) (f : Output.Fault) : Text :=
  time ++ "[ERRO] Render failed: " ++ f.message ++ "\n"

/-- The log writes a failure as such a line. -/
theorem line_failed : (Render.failed f).line time = failureLine time f := by
  simp only [failureLine, Log.Record.line, Render.failed, List.append_assoc]
  rfl

theorem level_failed : (Render.failed f).level = Log.error := rfl

/-- A failure is kept if the console shows failures or there is a file. -/
theorem keeps_failed (hlevel : 0 < level)
    (h : level ≤ Log.error ∨ settings.log.toFile = true) :
    (setupOf settings level).keeps (Render.failed f) = true := by
  have hthreshold : 0 < (setupOf settings level).threshold ∧
      (setupOf settings level).threshold ≤ Log.error := by
    simp only [setupOf, Log.Setup.ofLevel, Log.debug, Log.error] at h ⊢
    split <;> grind
  have heffective : (setupOf settings level).effective = (setupOf settings level).threshold :=
    if_neg (by omega)
  have hpositive : 0 < Log.error := by decide
  simp [Log.Setup.keeps, heffective, level_failed, hpositive, hthreshold.2]

/-- The text of a failure holds no half, as what it quotes is written with escapes. -/
theorem holdsNoHalf_of_fails {stamp : Text} {files : FileTree}
    (h : Render.Fails settings stamp files f) : Output.HoldsNoHalf (Render.failed f).text := by
  have hmessage : Output.HoldsNoHalf f.message := by
    cases h with
    | query => exact Output.holdsNoHalf_ofString _
    | document _ _ h => cases h <;> exact Output.holdsNoHalf_ofString _
  exact Output.holdsNoHalf_append.2 ⟨Output.holdsNoHalf_ofString _, hmessage⟩

/-- Behind all else the console shows the line of a failure, if it shows failures. -/
theorem report_append_failed (hlevel : 0 < level)
    (hwhole : Output.HoldsNoHalf (Render.failed f).text) (trace : Log.Record → Text) :
    (setupOf settings level).report time trace (records ++ [Render.failed f]) =
      (setupOf settings level).report time trace records ++
        if level ≤ Log.error then failureLine time f else [] := by
  rw [Log.Setup.report_append]
  refine congrArg _ ?_
  rw [Log.Setup.report_eq_lines fun r hr => Log.Setup.misses_eq_false (.inr ?_) time]
  · rw [Log.Setup.shown, Log.Setup.taken, Log.lines_filter, List.flatMap_singleton, line_failed]
    by_cases hle : level ≤ Log.error
    · have hconsole : (setupOf settings level).console ≤ (Render.failed f).level := hle
      simp [keeps_failed hlevel (.inl hle), hconsole, hle]
    · have hconsole : ¬(setupOf settings level).console ≤ (Render.failed f).level := hle
      simp [hconsole, hle]
  · rwa [List.mem_singleton.1 hr]

theorem saved?_append_failed (records : List Log.Record) (f : Output.Fault) (hlevel : 0 < level)
    (htoFile : settings.log.toFile = true) :
    ∃ saved, (setupOf settings level).saved? (records ++ [Render.failed f]) =
      some (saved ++ [Render.failed f]) := by
  have hkeeps := keeps_failed (f := f) hlevel (.inr htoFile)
  have hfile : Log.debug ≤ (Render.failed f).level := by
    rw [level_failed]
    decide
  have hsetup : (setupOf settings level).file = some Log.debug := by
    simp [setupOf, Log.Setup.ofLevel, htoFile]
  refine ⟨(setupOf settings level).taken Log.debug records, ?_⟩
  simp [Log.Setup.saved?, hsetup, Log.Setup.taken, hkeeps, hfile]

end

/-- A run tells of a failure: on the console, unless only the highest level is
shown there, and in the log file, if there is one. -/
structure Tells (settings : Settings) (stamps : Stamps) (f : Output.Fault)
    (run : Outcome × FileTree) : Prop where
  aborted : ("Aborted!\n" : Text) <:+ run.1.shown
  shown : settings.log.level ≠ "CRITICAL" →
    (failureLine stamps.line f ++ "Aborted!\n" : Text) <:+ run.1.shown
  saved : settings.log.toFile = true →
    ∃ octets, run.2.read (logPath settings stamps.log) = .ok octets ∧
      Text.Utf8.octets (failureLine stamps.line f) <:+ octets

section

variable {settings : Settings} {stamps : Stamps} {files : FileTree} {level : Int}
  {echo : Text → Text}

theorem octetsOf_append_failed {time : String} {f : Output.Fault} (records : List Log.Record)
    (hwhole : Output.HoldsNoHalf (Render.failed f).text) :
    Log.octetsOf time (records ++ [Render.failed f]) =
      Log.octetsOf time records ++ Text.Utf8.octets (failureLine time f) := by
  have hline : Output.HoldsNoHalf ((Render.failed f).line time) := by
    simp [Log.Record.line, Output.holdsNoHalf_append, hwhole]
  rw [line_failed] at hline
  simp only [Log.octetsOf, List.flatMap_append, List.flatMap_singleton, line_failed,
    Output.encode_of_holdsNoHalf hline]
  rfl

/-- Rendering that fails tells of it. -/
theorem tells_of_fails {f : Output.Fault} (hecho : echo abortedMessage = abortedMessage)
    (hchecked : settings.output.check = .ok ())
    (hlevel : Log.levelOf (some settings.log.level) = .ok level) (hpositive : 0 < level)
    (hle : settings.log.level ≠ "CRITICAL" → level ≤ Log.error)
    (hlog : ∀ f, ¬LogRefused settings stamps.log files f)
    (h : Render.Fails settings stamps.document (withLog settings stamps.log files) f) :
    Tells settings stamps f (render echo Disk.ofTree stamps settings files) := by
  obtain ⟨p, after, hrun⟩ := Render.run_of_fails hchecked h
  have hwhole := holdsNoHalf_of_fails h
  have hshown : (outcomeOf echo ((setupOf settings level).report stamps.line stamps.trace
      (p.records ++ [Render.failed f])) (.ofFault p f)).shown =
      (setupOf settings level).report stamps.line stamps.trace p.records ++
        (if level ≤ Log.error then failureLine stamps.line f else []) ++ abortedMessage := by
    rw [report_append_failed hpositive hwhole, ← hecho]
    rfl
  rw [render_of_not_refused hlevel hlog hrun]
  refine ⟨⟨_, hshown.symm⟩, fun hne => ?_, fun htoFile => ?_⟩
  · rw [if_pos (hle hne), List.append_assoc] at hshown
    exact ⟨_, hshown.symm⟩
  · -- The log file takes the records in one go, and rendering has left it as it was made.
    obtain ⟨saved, hsaved⟩ := saved?_append_failed p.records f hpositive htoFile
    have hfile : (sinksAt settings stamps.log level).file = some (logPath settings stamps.log) := by
      simp [sinksAt, htoFile]
    have hopen : ∃ path, (openLog settings stamps.log files).1 = .ok path := by
      cases hopen : (openLog settings stamps.log files).1 with
      | error f => exact absurd ⟨htoFile, hopen⟩ (hlog f)
      | ok path => exact ⟨path, rfl⟩
    obtain ⟨path, hopen⟩ := hopen
    have hchanges := Render.staysAt_run settings stamps.document (withLog settings stamps.log files)
    rw [hrun, withLog, if_pos htoFile] at hchanges
    refine ⟨after.held (logPath settings stamps.log) ++
      Log.octetsOf stamps.line (saved ++ [Render.failed f]), ?_, ?_⟩
    · change (Log.Sinks.log Disk.ofTree stamps.line stamps.trace (p.records ++ [Render.failed f])
        (sinksAt settings stamps.log level) after).2.read _ = _
      rw [Log.Sinks.log_snd hfile hsaved]
      exact Log.read_append_of_openFile hopen hchanges _
    · rw [octetsOf_append_failed saved hwhole, ← List.append_assoc]
      exact List.suffix_append _ _

/-- A run that loads its configuration succeeds if nothing fails, and otherwise
tells of the failure and is aborted.  Only a log file that is refused makes it
break off without a word. -/
theorem failures_end_in_abort {i : Invocation} {root : Entries} (hshows : i.libraries.ShowsPlain)
    (h : i.Loads root settings) :
    (∃ f, LogRefused settings i.stamps.log i.files f ∧
        i.run.1.ending = .crash (.log (.file f)) ∧ i.run.1.shown = []) ∨
      (∀ f, ¬LogRefused settings i.stamps.log i.files f) ∧
        ((∀ f, ¬Render.Fails settings i.stamps.document
              (withLog settings i.stamps.log i.files) f) ∧
            i.run.1.ending = .success ∧ i.run.1.ending.exitCode = 0 ∨
          ∃ f, Render.Fails settings i.stamps.document (withLog settings i.stamps.log i.files) f ∧
            i.run.1.ending = .aborted ∧ i.run.1.ending.exitCode = 1 ∧
            Tells settings i.stamps f i.run) := by
  rw [h.run_eq]
  obtain ⟨level, hlevel, hpositive, hcritical⟩ :=
    Log.levelOf_of_mem (Config.LogSettings.level_mem_of_check h.settings.logChecked)
  by_cases hlog : ∃ f, LogRefused settings i.stamps.log i.files f
  · obtain ⟨f, hrefused⟩ := hlog
    rw [render_of_refused hlevel hrefused]
    exact .inl ⟨f, hrefused, rfl, rfl⟩
  · have hlog := not_exists.1 hlog
    refine .inr ⟨hlog, ?_⟩
    by_cases hfails : ∃ f, Render.Fails settings i.stamps.document
        (withLog settings i.stamps.log i.files) f
    · obtain ⟨f, hfails⟩ := hfails
      have hending : (render i.libraries.echo Disk.ofTree i.stamps settings i.files).1.ending =
          .aborted :=
        ending_of_fails h.settings.outputChecked hlevel hlog hfails
      refine .inr ⟨f, hfails, hending, ?_,
        tells_of_fails (hshows _ (by decide)) h.settings.outputChecked hlevel hpositive
          hcritical.2 hlog hfails⟩
      rw [hending]
      rfl
    · have hfails := not_exists.1 hfails
      rcases Render.run_cases i.stamps.document (withLog settings i.stamps.log i.files)
        h.settings.outputChecked with
        ⟨f, hf⟩ | ⟨saved, after, -, hrun⟩
      · exact absurd hf (hfails f)
      · rw [render_of_not_refused hlevel hlog hrun]
        exact .inl ⟨hfails, rfl, rfl⟩

end

/-- A run with a configuration for a document, and with a file where the output
directory should be. -/
def blockedOutput : Invocation :=
  invocationOf [
    (Path.ofText "c.yml",
      Text.Utf8.octets "output:\n  formats: [json]\nqueries:\n- clauses:\n  - term: a\n"),
    (Path.ofText "output", [])]

theorem blocked_output_is_told :
    ∃ root settings, blockedOutput.Loads root settings ∧
      blockedOutput.run.1.ending = .aborted ∧ blockedOutput.run.1.ending.exitCode = 1 ∧
      ("01-01 00:00:00 [ERRO] Render failed: [Errno 20] Not a directory: 'output/json'\n" ++
        "Aborted!\n" : Text) <:+ blockedOutput.run.1.shown := by
  obtain ⟨root, settings, hloads, hqueries, hjson, htoFile, hlevel, hdirectory⟩ : ∃ root settings,
      blockedOutput.Loads root settings ∧
        (∀ q ∈ settings.queries, Render.isWritable q = true) ∧
        Config.OutputSettings.json ∈ settings.output.formats ∧
        settings.log.toFile = false ∧ settings.log.level ≠ "CRITICAL" ∧
        (Disk.ofTree.makeDirectories (Output.documentDirectory settings.output.baseDir)
          blockedOutput.files).1 = .error ⟨.notDirectory, ⟨[], ["output", "json"]⟩⟩ :=
    Invocation.exists_loads keepFiles_builtin (by decide +kernel)
  have hfiles : withLog settings blockedOutput.stamps.log blockedOutput.files =
      blockedOutput.files := by
    simp [withLog, htoFile]
  have hfails : Render.Fails settings blockedOutput.stamps.document
      (withLog settings blockedOutput.stamps.log blockedOutput.files)
      (.file ⟨.notDirectory, ⟨[], ["output", "json"]⟩⟩) := by
    rw [hfiles]
    exact .document hqueries hjson (.directory hdirectory)
  rcases failures_end_in_abort (showsPlain_builtin Disk.ofTree) hloads with
    ⟨f, ⟨hsaved, -⟩, -, -⟩ | ⟨-, ⟨hnone, -, -⟩ | ⟨f, hfails', hending, hcode, htells⟩⟩
  · cases htoFile.symm.trans hsaved
  · exact absurd hfails (hnone _)
  · obtain rfl := Render.Fails.unique hloads.settings.outputChecked hfails hfails'
    exact ⟨root, settings, hloads, hending, hcode, htells.shown hlevel⟩

/-- A run with a configuration that saves the log, and with a file where the log
directory should be. -/
def blockedLog : Invocation :=
  invocationOf [
    (Path.ofText "c.yml",
      Text.Utf8.octets "log:\n  to_file: true\nqueries:\n- clauses:\n  - term: a\n"),
    (Path.ofText "log", [])]

theorem blocked_log_breaks_off :
    (∃ root settings, blockedLog.Loads root settings) ∧
      blockedLog.run.1.ending = .crash (.log (.file ⟨.notDirectory, ⟨[], ["log", "render"]⟩⟩)) ∧
      blockedLog.run.1.shown = [] := by
  obtain ⟨root, settings, hloads, hlevel, hrefused⟩ : ∃ root settings,
      blockedLog.Loads root settings ∧ Log.levelOf (some settings.log.level) = .ok Log.info ∧
        settings.log.toFile = true ∧
        (openLog settings blockedLog.stamps.log blockedLog.files).1 =
          .error ⟨.notDirectory, ⟨[], ["log", "render"]⟩⟩ :=
    Invocation.exists_loads keepFiles_builtin (by decide +kernel)
  rw [hloads.run_eq, render_of_refused hlevel hrefused]
  exact ⟨⟨root, settings, hloads⟩, rfl, rfl⟩

end LuceneQuery.Command
