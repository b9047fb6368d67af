import LuceneQuery.Command.Render
import LuceneQuery.Config.Load
import LuceneQuery.Log.File

/-!
# A run of the program

A run sets the variables of a file, has its arguments parsed, loads the
configuration, sets up the log and renders the queries.  It ends in one of five
ways.

* success: every query went to every sink.
* stopped: the parser of the arguments has ended the run itself.
* invalid: the configuration is refused.
* aborted: the output failed, and the log says why.
* crash: something is wrong that the program reports to nobody.

What reads documents and variables, parses arguments and writes to the console
are *libraries* of the program, and not settled here.  A run asks them and goes
on with their answers, whatever these are.

The configuration is loaded before the arguments of the command are looked at.
-/

namespace LuceneQuery.Command

/-! ## Endings -/

/-- A fault that the program reports to nobody. -/
inductive Crash where
  /-- The file of variables is no text. -/
  | notText (fault : Text.Utf8.Fault)
  /-- A variable holds the character NUL. -/
  | nul
  /-- The path of the configuration is no path. -/
  | path (reason : FileFault.Reason)
  /-- The configuration cannot be loaded. -/
  | config (fault : Config.LoadFault)
  /-- The log cannot be set up. -/
  | log (fault : Log.Fault)

/-- The fault in words. -/
def Crash.message : Crash → Text
  | .notText fault => fault.message
  | .nul => "embedded null byte"
  | .path reason => reason.message
  | .config fault => fault.message
  | .log fault => fault.message

/-- How the parser of the arguments ends a run itself. -/
structure Stop where
  /-- The exit code. -/
  exitCode : Nat
  /-- What the parser says. -/
  shown : Text

/-- How a run ends. -/
inductive Ending where
  /-- All queries are rendered. -/
  | success
  /-- The parser of the arguments has ended the run. -/
  | stopped (stop : Stop)
  /-- The configuration at a path is refused. -/
  | invalid (path : Path) (fault : Config.LoadFault)
  /-- The output failed. -/
  | aborted
  /-- The program broke off. -/
  | crash (fault : Crash)

/-- The exit code of an ending. -/
def Ending.exitCode : Ending → Nat
  | .success => 0
  | .stopped stop => stop.exitCode
  | .invalid .. => 1
  | .aborted => 1
  | .crash _ => 1

/-- What has come of a run. -/
structure Outcome where
  /-- How it ended. -/
  ending : Ending
  /-- What it showed. -/
  shown : Text

/-- A run that ended without a word. -/
def Outcome.silent (ending : Ending) : Outcome := ⟨ending, []⟩

/-- A run that the parser of the arguments has ended. -/
def Outcome.ofStop (stop : Stop) : Outcome := ⟨.stopped stop, stop.shown⟩

/-! ## Libraries -/

/-- Variables with their values. -/
abbrev Variables := List (Text × Text)

/-- What the arguments ask for. -/
inductive Request where
  /-- The parser ends the run. -/
  | stop (stop : Stop)
  /-- The configuration at a path is to be loaded.  Then the queries are rendered,
  unless the parser ends the run at the arguments of the command. -/
  | load (config : Path) (rest : Except Stop Unit)

/-- The libraries of the program. -/
structure Libraries (m : Type → Type) where
  /-- Reads documents. -/
  readDocument : Config.Reader
  /-- Adds the variables of the file of variables to those of the environment. -/
  addVariables : Variables → m (Except Crash Variables)
  /-- Parses arguments in an environment. -/
  parse : Variables → List Text → m (Except Crash Request)
  /-- A message of the parser as the console shows it. -/
  echo : Text → Text

/-! ## Runs -/

/-- The texts that a run takes from the machine. -/
structure Stamps where
  /-- The start of each line of the log: the time. -/
  line : String
  /-- The end of the name of the log file. -/
  log : Text
  /-- The end of the name of the document. -/
  document : Text
  /-- What traces a record to its place in the program. -/
  trace : Log.Record → Text

/-- Whether a fault of loading is reported as an invalid configuration. -/
def isReported : Config.LoadFault → Bool
  | .document fault => fault.kind.isExpected
  | .settings .tooLarge => false
  | _ => true

/-- The message about a configuration that cannot be loaded. -/
def invalidMessage (path : Path) (f : Config.LoadFault) : Text :=
  "Error: Invalid config " ++ path.text ++ ": " ++ f.message ++ "\n"

/-- The message about output that failed. -/
def abortedMessage : Text := "Aborted!\n"

/-- A run that could not load the configuration. -/
def Outcome.ofLoadFault (echo : Text → Text) (path : Path) (f : Config.LoadFault) : Outcome :=
  if isReported f then ⟨.invalid path f, echo (invalidMessage path f)⟩
  else .silent (.crash (.config f))

section

variable {m : Type → Type} [Monad m]

/-- Renders a configuration with a log. -/
def render (echo : Text → Text) (disk : Disk m) (stamps : Stamps) (settings : Config.Settings) :
    m Outcome := do
  match ← Log.Sinks.start disk (some settings.log.level) (some Render.action) settings.log.toFile
      settings.log.dir stamps.log with
  | .error f => pure (.silent (.crash (.log f)))
  | .ok sinks =>
    let report ← Render.run disk settings stamps.document
    let shown ← sinks.log disk stamps.line stamps.trace report.records
    pure (if report.fault.isSome then ⟨.aborted, shown ++ echo abortedMessage⟩
      else ⟨.success, shown⟩)

/-- Loads the configuration at a path, and goes on with it as the rest of the arguments
says. -/
def follow (libraries : Libraries m) (disk : Disk m) (stamps : Stamps) (config : Path)
    (rest : Except Stop Unit) : m Outcome := do
  match ← Config.load libraries.readDocument disk config with
  | .error f => pure (.ofLoadFault libraries.echo config f)
  | .ok settings =>
    match rest with
    | .error stop => pure (.ofStop stop)
    | .ok () => render libraries.echo disk stamps settings

/-- Runs the program. -/
def run (libraries : Libraries m) (disk : Disk m) (stamps : Stamps) (environment : Variables)
    (arguments : List Text) : m Outcome := do
  match ← libraries.addVariables environment with
  | .error f => pure (.silent (.crash f))
  | .ok vs =>
    match ← libraries.parse vs arguments with
    | .error f => pure (.silent (.crash f))
    | .ok (.stop stop) => pure (.ofStop stop)
    | .ok (.load config rest) => follow libraries disk stamps config rest

end

end LuceneQuery.Command
