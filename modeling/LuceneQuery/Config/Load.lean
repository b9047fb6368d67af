import LuceneQuery.Config.Settings
import LuceneQuery.Files.Disk
import LuceneQuery.Text.Utf8

/-!
# Loading configurations

A configuration is a document in a file.  The root of the document is a
mapping; a document that stands for nothing counts as an empty one.  A
configuration can be laid over another that holds the defaults.

What a text stands for as a document is not settled here: a *reader* says so.
All that matters of an error that a reader raises is its text and whether the
program expects errors of its kind.
-/

namespace LuceneQuery.Config

/-! ## Readers of documents -/

/-- The kind of an error that a reader of documents raises. -/
inductive ErrorKind where
  /-- The text breaks the rules of the notation. -/
  | malformed
  /-- A value in the text, or a file, is refused. -/
  | refused
  /-- Something else has gone wrong. -/
  | other
  deriving DecidableEq, Repr

/-- Whether the program expects errors of a kind. -/
def ErrorKind.isExpected : ErrorKind → Bool
  | .refused => true
  | .malformed | .other => false

/-- An error that a reader of documents raises. -/
structure DocumentFault where
  /-- Its kind. -/
  kind : ErrorKind
  /-- Its text. -/
  message : Text
  deriving DecidableEq, Repr

/-- A reader of documents: it gives the value that a text stands for, or raises an
error. -/
abbrev Reader := Text → Except DocumentFault Value

/-! ## Faults -/

/-- Why a configuration cannot be loaded. -/
inductive LoadFault where
  /-- The file cannot be read. -/
  | file (fault : FileFault)
  /-- The file is no text. -/
  | encoding (fault : Text.Utf8.Fault)
  /-- The text is no document. -/
  | document (fault : DocumentFault)
  /-- The root of the document is no mapping. -/
  | root
  /-- The root is no configuration. -/
  | settings (fault : Fault)

/-- The fault in words. -/
def LoadFault.message : LoadFault → Text
  | .file fault => fault.message
  | .encoding fault => fault.message
  | .document fault => fault.message
  | .root => "Config root must be a mapping/object"
  | .settings fault => fault.message

/-! ## Documents -/

/-- The root of the document that a text holds. -/
def readRoot (read : Reader) (text : Text) : Except LoadFault Entries :=
  match read text with
  | .error f => .error (.document f)
  | .ok v =>
    if v.isBlank then .ok []
    else
      match v with
      | .map entries => .ok entries
      | _ => .error .root

/-- The root of the document that octets hold. -/
def decodeRoot (read : Reader) (octets : List UInt8) : Except LoadFault Entries :=
  match Text.Utf8.decode octets with
  | .error f => .error (.encoding f)
  | .ok text => readRoot read (.ofChars (Text.unixLines text))

/-- The configuration of a root. -/
def settingsOf (root : Entries) : Except LoadFault Settings :=
  (Settings.read root).mapError .settings

/-! ## Files -/

section

variable {m : Type → Type} [Monad m]

/-- The root of the document in a file. -/
def loadRoot (read : Reader) (disk : Disk m) (path : Path) : m (Except LoadFault Entries) := do
  match ← disk.read path with
  | .error f => pure (.error (.file f))
  | .ok octets => pure (decodeRoot read octets)

/-- The configuration in a file, laid over the one in a file of defaults unless
that is the same. -/
def loadOver (read : Reader) (disk : Disk m) (path defaults : Path) :
    m (Except LoadFault Settings) := do
  match ← loadRoot read disk defaults with
  | .error f => pure (.error f)
  | .ok base =>
    if path = defaults then pure (settingsOf base)
    else
      match ← loadRoot read disk path with
      | .error f => pure (.error f)
      | .ok upper => pure (settingsOf (base.overlay upper))

/-- The configuration in a file. -/
def load (read : Reader) (disk : Disk m) (path : Path) : m (Except LoadFault Settings) :=
  loadOver read disk path path

end

end LuceneQuery.Config
