import LuceneQuery.Files.Disk
import LuceneQuery.Log

/-!
# Log files

The log of an action goes to a file in a directory with the name of the action,
below the log directory.  The file has the name of the action and the time.  It
is made before the first record, so that there is one even if nothing is
logged.  A file that is there already keeps what it holds, and the records are
written behind it.

A record that has no octets is missing in the file.  Instead the console shows a
complaint behind it: a line that says so, and then where in the program the record
came from.
-/

namespace LuceneQuery.Log

/-! ## The file -/

/-- The log directory if none is given. -/
def defaultDirectory : Text := "log"

/-- The directory of the log files of an action. -/
def fileDirectory (dir action : Text) : Path :=
  (Path.ofText (if dir = [] then defaultDirectory else dir)).join action

/-- The log file of an action at a time. -/
def filePath (dir action stamp : Text) : Path :=
  (fileDirectory dir action).join (action ++ "_" ++ stamp ++ ".log")

/-- Makes the log file of an action. -/
def openFile {m : Type → Type} [Monad m] (disk : Disk m) (dir action stamp : Text) :
    m (Except FileFault Path) := do
  match ← disk.makeDirectories (fileDirectory dir action) with
  | .error f => pure (.error f)
  | .ok () =>
    let path := filePath dir action stamp
    match ← disk.append path [] with
    | .error f => pure (.error f)
    | .ok () => pure (.ok path)

/-- Why a log cannot be set up. -/
inductive Fault where
  /-- The level is none. -/
  | level (fault : LevelFault)
  /-- The log file cannot be made. -/
  | file (fault : FileFault)

/-- The fault in words. -/
def Fault.message : Fault → String
  | .level fault => fault.message
  | .file fault => fault.message

/-! ## Setting up -/

/-- A log that has been set up. -/
structure Sinks where
  /-- The thresholds. -/
  setup : Setup
  /-- The log file, if there is one. -/
  file : Option Path

/-- Sets up a log at a level for an action; both may be missing.  A log that is to
be saved has a file if there is an action to name it after. -/
def Sinks.start {m : Type → Type} [Monad m] (disk : Disk m) (level action : Option Text)
    (toFile : Bool) (dir stamp : Text) : m (Except Fault Sinks) := do
  match levelOf level with
  | .error f => pure (.error (.level f))
  | .ok level =>
    match toFile, action.getD [] with
    | false, _ | true, [] => pure (.ok ⟨Setup.ofLevel level toFile false, none⟩)
    | true, action =>
      match ← openFile disk dir action stamp with
      | .error f => pure (.error (.file f))
      | .ok path => pure (.ok ⟨Setup.ofLevel level true true, some path⟩)

/-! ## Records in the file -/

/-- Whether the line of a record has octets. -/
def Record.isEncodable (time : String) (r : Record) : Bool := (Text.Utf8.encode (r.line time)).isOk

/-- The octets of the lines of the records that have any. -/
def octetsOf (time : String) (records : List Record) : List UInt8 :=
  records.flatMap fun r => (Text.Utf8.encode (r.line time)).toOption.getD []

/-- What is shown of a record that is missing in the file, with what traces it to its
place in the program. -/
def complaint (trace : Record → Text) (r : Record) : Text :=
  "--- Logging error ---\n" ++ trace r

/-- Whether a record belongs into the file but is missing there. -/
def Setup.misses (s : Setup) (time : String) (r : Record) : Bool :=
  s.file.any fun sink => s.keeps r && sink ≤ r.level && !r.isEncodable time

/-- What the console shows of records, with the complaints about those that are missing in
the file. -/
def Setup.report (s : Setup) (time : String) (trace : Record → Text) (records : List Record) :
    Text :=
  records.flatMap fun r =>
    lines time (s.shown [r]) ++ (if s.misses time r then complaint trace r else [])

/-- Logs records.  Gives what the console shows. -/
def Sinks.log {m : Type → Type} [Monad m] (disk : Disk m) (time : String) (trace : Record → Text)
    (records : List Record) (s : Sinks) : m Text := do
  match s.file, s.setup.saved? records with
  | some path, some saved =>
    let _ ← disk.append path (octetsOf time saved)
    pure (s.setup.report time trace records)
  | _, _ => pure (s.setup.report time trace records)

end LuceneQuery.Log
