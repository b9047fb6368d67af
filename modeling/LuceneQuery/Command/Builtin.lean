import LuceneQuery.Command.Arguments
import LuceneQuery.Command.Environment
import LuceneQuery.Text.Terminal
import LuceneQuery.Yaml.Document

/-!
# The libraries of the executable

The executable brings readers of its own: for documents without anchors, tags and
block scalars, for plain files of variables and for the arguments of a run without
help.
-/

namespace LuceneQuery.Command

/-! ## Documents -/

/-- The kind of the error that a fault of a document is raised as. -/
def errorKindOf : Yaml.Fault → Config.ErrorKind
  | .malformed _ => .malformed
  | .tooManyPlaces | .hugeCodePoint => .other
  | _ => .refused

/-- Reads documents. -/
def readDocument : Config.Reader := fun text =>
  (Yaml.read text).mapError fun f => ⟨errorKindOf f, f.message⟩

/-! ## Arguments -/

/-- The end of a run whose arguments are wrong. -/
def UsageFault.stop (f : UsageFault) : Stop where
  exitCode := 2
  shown := Text.withoutSequences ("Error: " ++ f.message ++ "\n")

/-- What the command and its arguments ask for. -/
def requestOf (config : Path) : List Text → Request
  | [] => .stop UsageFault.noCommand.stop
  | command :: arguments =>
    if command = Render.action then
      .load config ((Arguments.checkNone arguments).mapError UsageFault.stop)
    else .stop (UsageFault.unknownCommand command).stop

/-- Parses arguments.  The path of the configuration may not be that of a directory. -/
def parse {m : Type → Type} [Monad m] (disk : Disk m) (vs : Variables)
    (arguments : List Text) : m (Except Crash Request) := do
  match Arguments.read arguments with
  | .error f => pure (.ok (.stop f.stop))
  | .ok a =>
    let config := configText a.config vs
    if let some reason := Path.gap? config then return .error (.path reason)
    if config ≠ [] ∧ Path.fits config ∧ (← disk.isDirectory (Path.ofText config)) = true then
      return .ok (.stop (UsageFault.isDirectory config).stop)
    pure (.ok (requestOf (Path.ofText config) a.words))

/-! ## All libraries -/

/-- The libraries of the executable on some files. -/
def Libraries.builtin {m : Type → Type} [Monad m] (disk : Disk m) : Libraries m where
  readDocument := Command.readDocument
  addVariables := Command.addVariables disk
  parse := Command.parse disk
  echo := Text.withoutSequences

/-- Runs the executable on a tree of files. -/
def runOn (stamps : Stamps) (environment : Variables) (arguments : List Text) (files : FileTree) :
    Outcome × FileTree :=
  run (.builtin Disk.ofTree) Disk.ofTree stamps environment arguments files

end LuceneQuery.Command
