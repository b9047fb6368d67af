import LuceneQuery.Clause.Basic
import LuceneQuery.Config.Typed

/-!
# Clauses in a configuration

A clause is a mapping with one of the keys `term`, `phrase`, `range` and
`group`, which says its kind and holds its body.  A term may have a
`fuzziness` and a phrase a `proximity`; every clause may have a `field`, an
`operator` and a `boost`, and null stands for a slot that is not filled.  No
other keys are allowed.

The reader looks at a clause in this order: its kind, its keys, its body with
the clauses inside from first to last, and then its slots.  The first fault on
the way is the one that is reported, and a fault inside a group leaves the
groups around it as it is.
-/

namespace LuceneQuery.Config

/-! ## Kinds -/

/-- The kind of a clause. -/
inductive Kind where
  /-- A token. -/
  | term
  /-- A text between quotes. -/
  | phrase
  /-- Two bounds. -/
  | range
  /-- A group of clauses. -/
  | group
  deriving DecidableEq, Repr

namespace Kind

/-- The key of a kind. -/
def name : Kind → Text
  | .term => "term"
  | .phrase => "phrase"
  | .range => "range"
  | .group => "group"

/-- All kinds. -/
def all : List Kind := [.term, .phrase, .range, .group]

/-- The keys of all kinds in ascending order. -/
def names : List Text := ["group", "phrase", "range", "term"]

/-- The key of the distance of a kind, if it has one. -/
def distanceNames : Kind → List Text
  | .term => ["fuzziness"]
  | .phrase => ["proximity"]
  | .range => []
  | .group => []

end Kind

/-- The one kind of a clause. -/
def kindOf (key : KeyPath) (entries : Entries) : Except Fault Kind :=
  match Kind.all.filter fun kind => (entries.get? kind.name).isSome with
  | [kind] => .ok kind
  | _ => .error (.notOneKind key Kind.names)

/-! ## Slots -/

/-- The keys of the slots. -/
structure SlotNames where
  /-- The key of the field. -/
  field : Text
  /-- The key of the operator. -/
  operator : Text
  /-- The key of the boost. -/
  boost : Text

namespace SlotNames

/-- The keys of the slots of a clause. -/
def ofClause : SlotNames := ⟨"field", "operator", "boost"⟩

/-- The keys of the slots of a query. -/
def ofQuery : SlotNames := ⟨"FIELD", "OPERATOR", "BOOST"⟩

/-- The three keys. -/
def toList (names : SlotNames) : List Text := [names.field, names.operator, names.boost]

end SlotNames

/-- A fault of a clause at its place, if it has one. -/
def atClause {α : Type} (key : KeyPath) : Except ClauseFault α → Except Fault α
  | .ok a => .ok a
  | .error .tooManyDigits => .error .tooManyDigits
  | .error fault => .error (.clause key fault)

/-- Reads the field of a clause. -/
def readField (key : KeyPath) (name : Text) (entries : Entries) : Except Fault Text :=
  match entries.present? name with
  | none => .ok []
  | some v => do .ok (Text.trim (← stringAt (key.field name) v))

/-- Reads the operator of a clause. -/
def readOperator (key : KeyPath) (name : Text) (entries : Entries) : Except Fault Operator :=
  match entries.present? name with
  | none => .ok .optional
  | some v => do atClause key (Operator.ofName (← stringAt (key.field name) v))

/-- Reads the weight of a clause. -/
def readBoost (key : KeyPath) (name : Text) (entries : Entries) : Except Fault Number :=
  match entries.present? name with
  | none => .ok defaultWeight
  | some v => do atClause key (weightOfNumber (.double (← doubleAt (key.field name) v)))

/-- Reads the slots of a clause. -/
def readSlots (key : KeyPath) (names : SlotNames) (entries : Entries) : Except Fault Slots := do
  let field ← readField key names.field entries
  let operator ← readOperator key names.operator entries
  let weight ← readBoost key names.boost entries
  .ok { field, operator, weight }

/-! ## Leaves -/

/-- Reads a distance of a leaf, which is zero if it is not given. -/
def readDistance (key : KeyPath) (name : Text) (check : Value → Except ClauseFault Int)
    (entries : Entries) : Except Fault Int :=
  match entries.get? name with
  | none => .ok 0
  | some v => do atClause key (check (.int (← intAt (key.field name) v)))

/-- Reads a term with its distance. -/
def readTerm (escape : Bool) (key : KeyPath) (body : Value) (entries : Entries) :
    Except Fault Leaf := do
  let v ← scalarAt (key.field "term") body
  let word ← atClause key (wordOf v)
  let token ← atClause key (tokenOf "term" (.str word))
  let fuzziness ← readDistance key "fuzziness" fuzzinessOf entries
  .ok (.term token escape fuzziness)

/-- Reads a phrase with its distance. -/
def readPhrase (escape : Bool) (key : KeyPath) (body : Value) (entries : Entries) :
    Except Fault Leaf := do
  let text ← stringAt (key.field "phrase") body
  let slop ← readDistance key "proximity" slopOf entries
  .ok (.phrase text escape slop)

/-- The keys of a range. -/
def rangeNames : List Text := ["lower", "upper", "type"]

/-- Reads a bound of a range, which is null if it is not given. -/
def readBound (key : KeyPath) (name : Text) (entries : Entries) : Except Fault Value :=
  match entries.present? name with
  | none => .ok .null
  | some v => scalarAt (key.field name) v

/-- Reads a range. -/
def readRange (escape : Bool) (key : KeyPath) (body : Value) : Except Fault Leaf :=
  let place := key.field "range"
  match body with
  | .map entries => do
    checkNames place none rangeNames entries
    let lower ← readBound place "lower" entries
    let upper ← readBound place "upper" entries
    let kind ← stringAt (place.field "type") (Entries.getOr entries "type" (.str "inclusive"))
    atClause key (Leaf.ofRange lower upper (.str kind) escape)
  | _ => .error (.wrongType place .rangeObject)

/-- Reads a leaf of a kind. -/
def readLeaf (escape : Bool) (key : KeyPath) (kind : Kind) (entries : Entries) :
    Except Fault Leaf :=
  let body := (entries.get? kind.name).getD .null
  match kind with
  | .term => readTerm escape key body entries
  | .phrase => readPhrase escape key body entries
  | _ => readRange escape key body

/-! ## Clauses -/

/-- Refuses keys that a clause of a kind does not have. -/
def checkKeys (key : KeyPath) (kind : Kind) (entries : Entries) : Except Fault Unit :=
  let allowed := SlotNames.ofClause.toList ++ kind.distanceNames ++ [kind.name]
  checkNames key (some kind.name) allowed entries

mutual

/-- Reads a clause, whose leaves are escaped or not. -/
def readClause (escape : Bool) (key : KeyPath) : Value → Except Fault Clause
  | .map entries => do
    let kind ← kindOf key entries
    checkKeys key kind entries
    if kind = .group then
      let clauses ← readGroupOf escape key entries
      let slots ← readSlots key .ofClause entries
      .ok (.query slots clauses)
    else
      let leaf ← readLeaf escape key kind entries
      let slots ← readSlots key .ofClause entries
      .ok (.leaf slots leaf)
  | _ => .error (.wrongType key .object)

/-- Reads the clauses under the key of a group. -/
def readGroupOf (escape : Bool) (key : KeyPath) : List (Scalar × Value) → Except Fault (List Clause)
  | [] => .ok []
  | (k, v) :: rest =>
    if k.sameKey (.str Kind.group.name) then readGroup escape (key.field Kind.group.name) v
    else readGroupOf escape key rest

/-- Reads the clauses of a list. -/
def readGroup (escape : Bool) (key : KeyPath) : Value → Except Fault (List Clause)
  | .list items => readClauses escape key 0 items
  | _ => .error (.wrongType key .list)

/-- Reads the clauses of the items of a list, the first of which has the number `i`. -/
def readClauses (escape : Bool) (key : KeyPath) (i : Nat) :
    List Value → Except Fault (List Clause)
  | [] => .ok []
  | v :: rest => do
    let clause ← readClause escape (key.item i) v
    let clauses ← readClauses escape key (i + 1) rest
    .ok (clause :: clauses)

end

/-! ## Queries -/

/-- A query of a configuration with the name that it is shown under. -/
structure LabelledQuery where
  /-- The name, if it has one. -/
  name : Option Text
  /-- The query. -/
  query : Clause

/-- The keys of a query. -/
def queryNames : List Text := "NAME" :: "clauses" :: SlotNames.ofQuery.toList

/-- Reads the name of a query; a blank name is none. -/
def readName (key : KeyPath) (entries : Entries) : Except Fault (Option Text) :=
  match entries.get? "NAME" with
  | none => .ok none
  | some v => do
    let name := Text.trim (← stringAt (key.field "NAME") v)
    .ok (if name.isEmpty then none else some name)

/-- Reads a query with its name. -/
def readQuery (escape : Bool) (key : KeyPath) : Value → Except Fault LabelledQuery
  | .map entries => do
    checkNames key none queryNames entries
    let name ← readName key entries
    let items := Entries.getOr entries "clauses" (.list [])
    let clauses ← readGroup escape (key.field "clauses") items
    let slots ← readSlots key .ofQuery entries
    .ok ⟨name, .query slots clauses⟩
  | _ => .error (.wrongType key .object)

end LuceneQuery.Config
