import LuceneQuery.Log.File
import LuceneQuery.Proofs.Output.Document

/-!
# Setting up a log

Each level that a configuration may ask for is one that the log knows
(`levelOf_of_mem`), so a log that is not to be saved can always be set up.  One
that is to be saved has a file, and can be set up if the file can be made.  The
file is the only one that logging changes.  Unless a record is missing in it, which takes
a half in its text (`Record.isEncodable_iff`), the console shows the lines of its records
and nothing else (`Setup.report_eq_lines`).
-/

namespace LuceneQuery.Log

/-- Each level that may be asked for is at least that of details, and all but the
highest show failures. -/
theorem exists_levelOf {name : Text} (h : name ∈ Config.LogSettings.levelNames) :
    ∃ level, levelOf (some name) = .ok level ∧ debug ≤ level ∧
      (level ≤ error ↔ name ≠ "CRITICAL") := by
  have hall : ∀ name ∈ Config.LogSettings.levelNames, ∃ level ∈ levels.map Prod.snd,
      levelOf (some name) = .ok level ∧ debug ≤ level ∧ (level ≤ error ↔ name ≠ "CRITICAL") := by
    decide +kernel
  obtain ⟨level, -, hlevel⟩ := hall name h
  exact ⟨level, hlevel⟩

/-- No level that may be asked for is that of no level at all. -/
theorem levelOf_of_mem {name : Text} (h : name ∈ Config.LogSettings.levelNames) :
    ∃ level, levelOf (some name) = .ok level ∧ 0 < level ∧ (level ≤ error ↔ name ≠ "CRITICAL") := by
  obtain ⟨level, hlevel, hdebug, herror⟩ := exists_levelOf h
  exact ⟨level, hlevel, Int.lt_of_lt_of_le (by decide) hdebug, herror⟩

section

variable {name action dir stamp : Text} {level : Int} {files : FileTree}

/-! ## Making the file -/

/-- The files once there is a directory for the log files of an action. -/
def withFileDirectory (dir action : Text) (files : FileTree) : FileTree :=
  (Disk.ofTree.makeDirectories (fileDirectory dir action) files).2

/-- Making a log file is making its directory and then a file in it. -/
theorem openFile_ofTree (dir action stamp : Text) (files : FileTree) :
    openFile Disk.ofTree dir action stamp files =
      (match Disk.ofTree.makeDirectories (fileDirectory dir action) files with
        | (.error f, made) => (.error f, made)
        | (.ok (), made) =>
          ((made.append (filePath dir action stamp) []).1.map fun _ => filePath dir action stamp,
            (made.append (filePath dir action stamp) []).2)) := by
  unfold openFile
  simp only [bind, StateT.bind]
  cases Disk.ofTree.makeDirectories (fileDirectory dir action) files with
  | mk result made =>
    cases result with
    | error f => rfl
    | ok =>
      simp only [StateT.bind, Disk.ofTree]
      cases made.append (filePath dir action stamp) [] with
      | mk written files' => cases written <;> rfl

/-- A log file that is made is the last thing written. -/
theorem openFile_eq_ok {path : Path}
    (h : (openFile Disk.ofTree dir action stamp files).1 = .ok path) :
    path = filePath dir action stamp ∧
      ((withFileDirectory dir action files).append (filePath dir action stamp) []).1 = .ok () ∧
        (openFile Disk.ofTree dir action stamp files).2 =
          ((withFileDirectory dir action files).append (filePath dir action stamp) []).2 := by
  rw [openFile_ofTree] at h ⊢
  split at h
  · cases h
  · next made hmade =>
    rw [withFileDirectory, hmade]
    cases hwrite : (made.append (filePath dir action stamp) []).1 with
    | error f => simp [hwrite, Except.map] at h
    | ok =>
      have hpath : path = filePath dir action stamp := by
        simpa [hwrite, Except.map, eq_comm] using h
      exact ⟨hpath, rfl, rfl⟩

/-- A log file that has been made holds what it held before, if it was there. -/
theorem read_of_openFile {path : Path}
    (h : (openFile Disk.ofTree dir action stamp files).1 = .ok path) :
    (openFile Disk.ofTree dir action stamp files).2.read (filePath dir action stamp) =
      .ok ((withFileDirectory dir action files).held (filePath dir action stamp)) := by
  obtain ⟨-, hmade, hfiles⟩ := openFile_eq_ok h
  rw [hfiles, FileTree.read_append_of_ok hmade, List.append_nil]

/-- A log file that has been made can be written on as long as it is a file. -/
theorem read_append_of_openFile {path : Path} {paths : List Path} {after : FileTree}
    (hopen : (openFile Disk.ofTree dir action stamp files).1 = .ok path)
    (hchanges : FileTree.ChangesAt paths (openFile Disk.ofTree dir action stamp files).2 after)
    (octets : List UInt8) :
    (after.append (filePath dir action stamp) octets).2.read (filePath dir action stamp) =
      .ok (after.held (filePath dir action stamp) ++ octets) := by
  obtain ⟨location, hplace, hfile⟩ := FileTree.placeOf_of_read (read_of_openFile hopen)
  exact FileTree.read_append_of_ok
    (FileTree.write_of_hasFile (FileTree.placeOf_mono hchanges.directories hplace)
      (hchanges.hasFile location hfile))

/-! ## Setting up -/

/-- A log that is not to be saved can be set up on all files. -/
theorem Sinks.start_unsaved (hlevel : levelOf (some name) = .ok level) :
    Sinks.start Disk.ofTree (some name) (some action) false dir stamp files =
      (.ok ⟨Setup.ofLevel level false false, none⟩, files) := by
  unfold Sinks.start
  simp only [hlevel]
  rfl

/-- A log that is to be saved can be set up if its file can be made. -/
theorem Sinks.start_saved (hlevel : levelOf (some name) = .ok level) (haction : action ≠ []) :
    Sinks.start Disk.ofTree (some name) (some action) true dir stamp files =
      (match (openFile Disk.ofTree dir action stamp files).1 with
        | .error f => .error (.file f)
        | .ok path => .ok ⟨Setup.ofLevel level true true, some path⟩,
      (openFile Disk.ofTree dir action stamp files).2) := by
  obtain ⟨c, rest, rfl⟩ := List.exists_cons_of_ne_nil haction
  unfold Sinks.start
  simp only [hlevel, Option.getD_some, bind, StateT.bind]
  cases openFile Disk.ofTree dir (c :: rest) stamp files with
  | mk opened files' => cases opened <;> rfl

/-! ## Logging -/

/-- A record has octets if and only if no half is in its text. -/
theorem Record.isEncodable_iff (time : String) {r : Record} :
    r.isEncodable time = true ↔ Output.HoldsNoHalf r.text := by
  have hline : Output.HoldsNoHalf (r.line time) ↔ Output.HoldsNoHalf r.text := by
    simp [Record.line, Output.holdsNoHalf_append]
  rw [isEncodable, Output.isOk_encode_iff, hline]

theorem Setup.report_append (s : Setup) (time : String) (trace : Record → Text)
    (records records' : List Record) :
    s.report time trace (records ++ records') =
      s.report time trace records ++ s.report time trace records' :=
  List.flatMap_append

/-- The lines of some of the records, record by record. -/
theorem lines_filter (time : String) (p : Record → Bool) (records : List Record) :
    lines time (records.filter p) = records.flatMap fun r => if p r then r.line time else [] := by
  induction records with
  | nil => rfl
  | cons r records ih =>
    rw [lines] at ih ⊢
    cases hr : p r <;> simp [hr, ih]

/-- If no record is missing in the file, the console shows the lines of its records. -/
theorem Setup.report_eq_lines {s : Setup} {time : String} {records : List Record}
    (h : ∀ r ∈ records, s.misses time r = false) (trace : Record → Text) :
    s.report time trace records = lines time (s.shown records) := by
  rw [shown, taken, lines_filter]
  refine List.flatMap_congr fun r hr => ?_
  rw [shown, taken, lines_filter, h r hr]
  simp

/-- Without a file, or without a half in a text, no record is missing. -/
theorem Setup.misses_eq_false {s : Setup} {r : Record}
    (h : s.file = none ∨ Output.HoldsNoHalf r.text) (time : String) : s.misses time r = false := by
  unfold misses
  rcases h with hfile | hwhole
  · rw [hfile]
    rfl
  · rw [(Record.isEncodable_iff time).2 hwhole]
    cases s.file <;> simp

/-- Whatever the files are, the console shows the report of the records. -/
theorem Sinks.log_fst (s : Sinks) (time : String) (trace : Record → Text) (records : List Record)
    (files : FileTree) :
    (s.log Disk.ofTree time trace records files).1 = s.setup.report time trace records := by
  unfold Sinks.log
  cases s.file with
  | none => rfl
  | some path => cases s.setup.saved? records <;> rfl

/-- Logging writes the records behind what the file holds. -/
theorem Sinks.log_snd {s : Sinks} {path : Path} {records saved : List Record}
    (hfile : s.file = some path) (hsaved : s.setup.saved? records = some saved) (time : String)
    (trace : Record → Text) (files : FileTree) :
    (s.log Disk.ofTree time trace records files).2 =
      (files.append path (octetsOf time saved)).2 := by
  unfold Sinks.log
  rw [hfile, hsaved]
  rfl

end

end LuceneQuery.Log
