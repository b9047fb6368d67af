import LuceneQuery.Config.Fault
import LuceneQuery.Value.Mapping

/-!
# Reading values of a configuration

Each reader takes a value of one type at a place and refuses any other.  Truth
values are not numbers here, and decimals, dates and times are of no type that
a configuration asks for.
-/

namespace LuceneQuery.Config

/-- Reads a text. -/
def stringAt (key : KeyPath) : Value → Except Fault Text
  | .str s => .ok s
  | _ => .error (.wrongType key .string)

/-- Reads a truth value. -/
def boolAt (key : KeyPath) : Value → Except Fault Bool
  | .bool b => .ok b
  | _ => .error (.wrongType key .boolean)

/-- Reads an integer. -/
def intAt (key : KeyPath) : Value → Except Fault Int
  | .int n => .ok n
  | _ => .error (.wrongType key .integer)

/-- Reads a number as a double. -/
def doubleAt (key : KeyPath) : Value → Except Fault Double
  | .int n =>
    let x := Double.ofInt n
    if x.isFinite then .ok x else .error .tooLarge
  | .double x => .ok x
  | _ => .error (.wrongType key .number)

/-- Reads a text or a number. -/
def scalarAt (key : KeyPath) : Value → Except Fault Value
  | .str s => .ok (.str s)
  | .int n => .ok (.int n)
  | .double x => .ok (.double x)
  | _ => .error (.wrongType key .scalar)

/-- Reads a list. -/
def listAt (key : KeyPath) : Value → Except Fault (List Value)
  | .list items => .ok items
  | _ => .error (.wrongType key .list)

/-- Reads the texts of a list, the first of which has the number `i`. -/
def stringsFrom (key : KeyPath) (i : Nat) : List Value → Except Fault (List Text)
  | [] => .ok []
  | v :: rest => do
    let s ← stringAt (key.item i) v
    let ss ← stringsFrom key (i + 1) rest
    .ok (s :: ss)

/-- Reads a list of texts. -/
def stringsAt (key : KeyPath) (v : Value) : Except Fault (List Text) := do
  stringsFrom key 0 (← listAt key v)

/-- The mapping under a name, which is empty if the name is missing or null
and need not be there. -/
def section? (root : Entries) (name : Text) (required : Bool) : Except Fault Entries :=
  match root.present? name with
  | some (.map entries) => .ok entries
  | some _ => .error (.wrongType name .object)
  | none => if required then .error (.missing name) else .ok []

/-! ## Sets of names -/

/-- A name put in its place in an ascending list without repetitions. -/
def insertName (name : Text) : List Text → List Text
  | [] => [name]
  | x :: rest =>
    if name = x then x :: rest
    else if name < x then name :: x :: rest
    else x :: insertName name rest

/-- The names in ascending order, each once. -/
def sortedNames (names : List Text) : List Text := names.foldr insertName []

/-- The keys of a mapping that are none of the allowed names, as texts in
ascending order, each once. -/
def unknownNames (allowed : List Text) (entries : Entries) : List Text :=
  sortedNames ((entries.keys.map Scalar.text).filter fun s => !allowed.contains s)

/-- Refuses keys of a mapping that are none of the allowed names.  The mapping
may be a clause of a kind. -/
def checkNames (key : KeyPath) (kind : Option Text) (allowed : List Text) (entries : Entries) :
    Except Fault Unit :=
  if entries.keys.all Scalar.isWritable then
    match unknownNames allowed entries with
    | [] => .ok ()
    | unknown => .error (.unknownKeys key kind unknown)
  else .error .tooManyDigits

end LuceneQuery.Config
