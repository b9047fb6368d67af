import LuceneQuery.Command.Run
import LuceneQuery.Text.Blank

/-!
# The environment of the executable

A variable of the environment can name the configuration.  Variables can also
be set in a file of lines `NAME=value` in the working directory, where they
stand behind those of the environment.  Blanks around names and values do not
count, nor do lines that start with `#`.  Files of variables with quotes or with
anything else in them are not for this reader.
-/

namespace LuceneQuery.Command

/-- The variable that names the configuration. -/
def configVariable : Text := "ASKLUCY_CONFIG"

/-- The configuration if none is named. -/
def defaultConfig : Text := "config/default.yml"

/-- The file of variables. -/
def variablesFile : Path := Path.ofText ".env"

/-- The lines of a text. -/
def linesOf : Text → List Text
  | [] => [[]]
  | c :: s =>
    match linesOf s with
    | [] => []
    | l :: ls => if c = .char '\n' then [] :: l :: ls else (c :: l) :: ls

/-- The variable that a line sets, if it sets one. -/
def binding? (line : Text) : Option (Text × Text) :=
  let line := Text.trim line
  match line.dropWhile (· != .char '=') with
  | [] => none
  | _ :: value =>
    if line.head? = some (.char '#') then none
    else some (Text.trim (line.takeWhile (· != .char '=')), Text.trim value)

/-- The variables that a text sets, the last first. -/
def variablesOf (text : Text) : Variables := ((linesOf text).filterMap binding?).reverse

example : variablesOf "A = b\n#c=d\ne" = ([("A", "b")] : Variables) := by decide +kernel

/-- The variables of the file, if there is one. -/
def readVariables {m : Type → Type} [Monad m] (disk : Disk m) :
    m (Except Text.Utf8.Fault Variables) := do
  match ← disk.read variablesFile with
  | .error _ => pure (.ok [])
  | .ok octets =>
    pure ((Text.Utf8.decode octets).map fun s => variablesOf (.ofChars (Text.unixLines s)))

/-- The variables of the file that are set: the last of each name, unless the
environment has the name. -/
def addedBy (environment file : Variables) : Variables :=
  file.filter fun (name, value) =>
    (environment.lookup name).isNone && file.lookup name == some value

/-- Whether variables can be set.  No name and no value may hold the character
NUL. -/
def canBeSet (vs : Variables) : Bool :=
  vs.all fun (name, value) => !Path.holdsNul name && !Path.holdsNul value

/-- An environment with the variables of the file behind it. -/
def addVariables {m : Type → Type} [Monad m] (disk : Disk m) (environment : Variables) :
    m (Except Crash Variables) := do
  match ← readVariables disk with
  | .error f => pure (.error (.notText f))
  | .ok file =>
    if canBeSet (addedBy environment file) then pure (.ok (environment ++ file))
    else pure (.error .nul)

/-- The path of the configuration: the one of the option, or else of a variable or the
default.  A variable that is empty names none. -/
def configText (option : Option Text) (vs : Variables) : Text :=
  match option with
  | some text => text
  | none =>
    match vs.lookup configVariable with
    | some text => if text = [] then defaultConfig else text
    | none => defaultConfig

end LuceneQuery.Command
