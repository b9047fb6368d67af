import LuceneQuery.Command.Builtin
import Std.Time.Format

/-!
# The command line

The outer layer: the files of the machine, its clock and its environment.  All
else is decided by `Command.run`.
-/

namespace LuceneQuery.Command

/-- The reason of an error of the machine, if it is one that is reported. -/
def reasonOf? : IO.Error → Option FileFault.Reason
  | .noFileOrDirectory .. => some .missing
  | .alreadyExists .. => some .occupied
  | .inappropriateType _ code _ =>
    some (if code = 21 ∨ code + 21 = 0 then .isDirectory else .notDirectory)
  | .invalidArgument _ code _ => if code = 36 ∨ code + 36 = 0 then some .nameTooLong else none
  | _ => none

/-- Does something with the file at a path.  Errors that are not reported end
the program. -/
def attempt {α : Type} (p : Path) (act : String → IO α) : IO (Except FileFault α) := do
  if let some reason := p.flaw? then return .error ⟨reason, p⟩
  match p.text.chars? with
  | none => throw (IO.userError "a path that is not UTF-8 cannot be used")
  | some chars =>
    try
      return .ok (← act (String.ofList chars))
    catch e =>
      match reasonOf? e with
      | some reason => return .error ⟨reason, p⟩
      | none => throw e

/-- The files of the machine. -/
def machine : Disk IO where
  isDirectory p := do
    match ← attempt p fun s => IO.FS.readBinFile s with
    | .error ⟨.isDirectory, _⟩ => pure true
    | _ => pure false
  read p := do
    match ← attempt p fun s => IO.FS.readBinFile s with
    | .ok octets => pure (.ok octets.toList)
    | .error f => pure (.error f)
  makeDirectory p := attempt p fun s => IO.FS.createDir s
  write p octets := attempt p fun s => IO.FS.writeBinFile s octets.toByteArray
  append p octets := attempt p fun s => do
    let handle ← IO.FS.Handle.mk s .append
    handle.write octets.toByteArray

/-- The texts of the present time.  Records have no trace but their text. -/
def stampsNow : IO Stamps := do
  let now ← Std.Time.PlainDateTime.now
  pure {
    line := now.format "MM-dd HH:mm:ss" ++ " "
    log := now.format "MMddHHmmss"
    document := now.format "uuuuMMdd_HHmmss"
    trace r := "Message: " ++ Text.quote r.text ++ "\n" }

/-- The variable of the environment that names the configuration. -/
def environmentNow : IO Variables := do
  match ← IO.getEnv configVariable.display with
  | some text => pure [(configVariable, Text.ofString text)]
  | none => pure []

end LuceneQuery.Command

/-- Runs the program. -/
def main (arguments : List String) : IO UInt32 := do
  let stamps ← LuceneQuery.Command.stampsNow
  let environment ← LuceneQuery.Command.environmentNow
  let machine := LuceneQuery.Command.machine
  let outcome ← LuceneQuery.Command.run (.builtin machine) machine stamps environment
    (arguments.map LuceneQuery.Text.ofString)
  IO.eprint (LuceneQuery.Text.display outcome.shown)
  match outcome.ending with
  | .crash fault => IO.eprintln (LuceneQuery.Text.display fault.message)
  | _ => pure ()
  pure outcome.ending.exitCode.toUInt32
