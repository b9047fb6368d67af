import LuceneQuery.Text.Basic

/-!
# The arguments of the executable

The program takes options, then the name of a command and the arguments of the
command.  The one option is `--config`, with its value in the next argument or
behind an equals sign; of several the last counts.  Two hyphens end the
options.  A single hyphen and the empty text are no options.  There is no help.
-/

namespace LuceneQuery.Command

/-- What is wrong with the arguments. -/
inductive UsageFault where
  /-- An option has no value. -/
  | noValue (option : Text)
  /-- An option is unknown. -/
  | unknownOption (option : Text)
  /-- The configuration is a directory. -/
  | isDirectory (path : Text)
  /-- There is no command. -/
  | noCommand
  /-- The command is unknown. -/
  | unknownCommand (name : Text)
  /-- The command takes no arguments. -/
  | unexpected (arguments : List Text)
  deriving DecidableEq, Repr

/-- The fault in words. -/
def UsageFault.message : UsageFault → Text
  | .noValue option => "Option " ++ option ++ " requires an argument."
  | .unknownOption option => "No such option: " ++ option
  | .isDirectory path => "File " ++ path ++ " is a directory."
  | .noCommand => "Missing command."
  | .unknownCommand name => "No such command " ++ name ++ "."
  | .unexpected arguments =>
    "Got unexpected arguments (" ++ [.char ' '].intercalate arguments ++ ")"

/-- The arguments of the program. -/
structure Arguments where
  /-- The path of the configuration, if it is given. -/
  config : Option Text
  /-- The command and its arguments. -/
  words : List Text
  deriving DecidableEq, Repr

/-- The option that names the configuration. -/
def configOption : Text := "--config"

/-- The mark that ends the options. -/
def endOfOptions : Text := "--"

/-- Whether an argument is an option. -/
def isOption (argument : Text) : Bool :=
  match argument with
  | '-' :: _ :: _ => true
  | _ => false

/-- The value that an argument gives to an option behind an equals sign. -/
def valueIn? (option argument : Text) : Option Text :=
  let start : Text := option ++ "="
  if start.isPrefixOf argument then some (argument.drop start.length) else none

namespace Arguments

/-- The arguments behind some that gave a path of the configuration, or none. -/
def readFrom (config : Option Text) : List Text → Except UsageFault Arguments
  | [] => .ok ⟨config, []⟩
  | argument :: rest =>
    if argument = endOfOptions then .ok ⟨config, rest⟩
    else if !isOption argument then .ok ⟨config, argument :: rest⟩
    else if argument = configOption then
      match rest with
      | [] => .error (.noValue argument)
      | value :: rest => readFrom (some value) rest
    else
      match valueIn? configOption argument with
      | some value => readFrom (some value) rest
      | none => .error (.unknownOption argument)

/-- Reads the arguments. -/
def read (arguments : List Text) : Except UsageFault Arguments := readFrom none arguments

/-- Checks that a command has no arguments. -/
def checkNone : List Text → Except UsageFault Unit
  | [] => .ok ()
  | argument :: rest =>
    if argument = endOfOptions then (if rest = [] then .ok () else .error (.unexpected rest))
    else if isOption argument then .error (.unknownOption argument)
    else .error (.unexpected (argument :: rest))

example : (read ["--config=x", "render", "y"]).toOption = some ⟨some "x", ["render", "y"]⟩ := by
  decide +kernel

end Arguments

end LuceneQuery.Command
