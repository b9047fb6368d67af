import LuceneQuery.Clause.Fault

/-!
# What is wrong with a configuration

A fault names the place in the configuration by a key path such as
`queries[0].clauses[2].term`, and says what was expected there.  A fault of a
clause is reported once, behind the path of the clause.  Only an integer that
is too large for a weight, or too long to be written, is reported without its
place.
-/

namespace LuceneQuery.Config

/-! ## Places -/

/-- A place in a configuration. -/
abbrev KeyPath := Text

namespace KeyPath

/-- The entry of a name at a place. -/
def field (key : KeyPath) (name : Text) : KeyPath := key ++ "." ++ name

/-- The item of a number at a place. -/
def item (key : KeyPath) (i : Nat) : KeyPath := key ++ "[" ++ toString i ++ "]"

end KeyPath

/-! ## Faults -/

/-- What a place asks for. -/
inductive Expected where
  /-- A mapping. -/
  | object
  /-- A mapping that describes a range. -/
  | rangeObject
  /-- A text. -/
  | string
  /-- A truth value. -/
  | boolean
  /-- An integer. -/
  | integer
  /-- An integer or a double. -/
  | number
  /-- A text or a number. -/
  | scalar
  /-- A list. -/
  | list
  deriving DecidableEq, Repr

/-- What a place asks for, in words. -/
def Expected.message : Expected → String
  | .object => "an object"
  | .rangeObject => "an object with lower/upper/type"
  | .string => "a string"
  | .boolean => "a boolean"
  | .integer => "an integer"
  | .number => "a number"
  | .scalar => "a string or a number"
  | .list => "a list"

/-- What is wrong with a setting of the right type. -/
inductive SettingReason where
  /-- It is none of the names. -/
  | notOneOf (names : List Text)
  /-- It is blank. -/
  | empty
  /-- It is blank although logs go to a file. -/
  | emptyForFile
  /-- It is an empty list of the named things. -/
  | noneOf (thing : String)
  /-- It lists unknown formats. -/
  | unknownFormats (names : List Text)
  deriving DecidableEq, Repr

/-- What is wrong with a setting, in words. -/
def SettingReason.message : SettingReason → String
  | .notOneOf names => "must be one of " ++ Text.shownTexts names
  | .empty => "must not be empty"
  | .emptyForFile => "must not be empty when log.to_file=true"
  | .noneOf thing => "must include at least one " ++ thing
  | .unknownFormats names => "has unknown formats: " ++ Text.shownTexts names

/-- What is wrong with a configuration. -/
inductive Fault where
  /-- A value is not of the type that its place asks for. -/
  | wrongType (key : KeyPath) (expected : Expected)
  /-- A value is missing. -/
  | missing (key : KeyPath)
  /-- A clause has no kind or several. -/
  | notOneKind (key : KeyPath) (kinds : List Text)
  /-- A mapping has unknown keys; a clause names its kind. -/
  | unknownKeys (key : KeyPath) (kind : Option Text) (names : List Text)
  /-- A clause is refused. -/
  | clause (key : KeyPath) (fault : ClauseFault)
  /-- An integer is too large for a weight. -/
  | tooLarge
  /-- An integer has too many digits to be written. -/
  | tooManyDigits
  /-- A setting is refused. -/
  | setting (key : KeyPath) (reason : SettingReason)

/-- The fault in words. -/
def Fault.message : Fault → Text
  | .wrongType key expected => key ++ " must be " ++ expected.message
  | .missing key => "Missing required config: " ++ key
  | .notOneKind key kinds => key ++ " must define exactly one of " ++ Text.shownTexts kinds
  | .unknownKeys key none names => key ++ " has unknown keys: " ++ Text.shownTexts names
  | .unknownKeys key (some kind) names =>
    key ++ " has unknown keys for " ++ kind ++ ": " ++ Text.shownTexts names
  | .clause key fault => key ++ ": " ++ fault.message
  | .tooLarge => ClauseFault.tooLarge.message
  | .tooManyDigits => ClauseFault.tooManyDigits.message
  | .setting key reason => key ++ " " ++ reason.message

end LuceneQuery.Config
