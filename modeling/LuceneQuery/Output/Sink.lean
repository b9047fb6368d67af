import LuceneQuery.Config.Settings
import LuceneQuery.Files.Disk
import LuceneQuery.Log
import LuceneQuery.Output.Json

/-!
# Where rendered queries go

There are two sinks.  The console logs each query as it comes.  The file takes
all of them at the end, as one document in the directory `json` below the
output directory, under a name with the action and the time.  A sink is used
once however often its format is asked for, and the console comes first.
-/

namespace LuceneQuery.Output

/-- A sink of rendered queries. -/
inductive Sink where
  /-- The log. -/
  | console
  /-- A file. -/
  | file
  deriving DecidableEq, Repr

/-- What can go wrong with the output. -/
inductive Fault where
  /-- No format asks for a sink. -/
  | noSinks
  /-- A query cannot be written. -/
  | query (fault : ClauseFault)
  /-- The document has no octets. -/
  | encoding (gap : Text.Utf8.Gap)
  /-- The file system refuses the file. -/
  | file (fault : FileFault)

/-- The fault in words. -/
def Fault.message : Fault → Text
  | .noSinks => "No output writers configured"
  | .query fault => fault.message
  | .encoding gap => gap.message
  | .file fault => fault.message

namespace Sink

/-- The sinks of some formats. -/
def ofFormats (formats : List Text) : List Sink :=
  (if formats.contains Config.OutputSettings.console then [console] else [])
    ++ (if formats.contains Config.OutputSettings.json then [file] else [])

/-- The sinks of some formats, of which there must be one. -/
def choose (formats : List Text) : Except Fault (List Sink) :=
  match ofFormats formats with
  | [] => .error .noSinks
  | sinks => .ok sinks

/-- What a sink logs as a query comes. -/
def take (e : Entry) : Sink → List Log.Record
  | console => [⟨Log.info, e.line⟩]
  | file => []

/-- What the sinks log as a query comes. -/
def takeAll (sinks : List Sink) (e : Entry) : List Log.Record := sinks.flatMap (take e)

/-- What a sink keeps of a query until the end. -/
def keep (e : Entry) : Sink → List Entry
  | console => []
  | file => [e]

/-- What the sinks keep of a query until the end. -/
def keepAll (sinks : List Sink) (e : Entry) : List Entry := sinks.flatMap (keep e)

end Sink

/-- The name of a file of an action at a time. -/
def fileName (action stamp suffix : Text) : Text := action ++ "_" ++ stamp ++ suffix

/-- The directory of documents below the output directory. -/
def documentDirectory (baseDir : Text) : Path := (Path.ofText baseDir).join "json"

/-- Writes a text to a file.  If the text has no octets, the file is made all the
same and is empty. -/
def writeText {m : Type → Type} [Monad m] (disk : Disk m) (path : Path) (text : Text) :
    m (Except Fault Unit) := do
  let encoded := Text.Utf8.encode text
  match ← disk.write path (encoded.toOption.getD []), encoded with
  | .error f, _ => pure (.error (.file f))
  | .ok (), .error gap => pure (.error (.encoding gap))
  | .ok (), .ok _ => pure (.ok ())

/-- Writes the document of an action.  Gives what is logged. -/
def writeDocument {m : Type → Type} [Monad m] (disk : Disk m) (baseDir action stamp : Text)
    (entries : List Entry) : m (Except Fault (List Log.Record)) := do
  let directory := documentDirectory baseDir
  let path := directory.join (fileName action stamp ".json")
  match ← disk.makeDirectories directory with
  | .error f => pure (.error (.file f))
  | .ok () =>
    match ← writeText disk path (Json.document entries) with
    | .error f => pure (.error f)
    | .ok () => pure (.ok [⟨Log.info, "JSON saved to " ++ path.text⟩])

/-- Ends the output to the sinks.  Gives what is logged. -/
def finish {m : Type → Type} [Monad m] (disk : Disk m) (sinks : List Sink)
    (baseDir action stamp : Text) (entries : List Entry) : m (Except Fault (List Log.Record)) :=
  if sinks.contains .file then writeDocument disk baseDir action stamp entries
  else pure (.ok [])

end LuceneQuery.Output
