import LuceneQuery.Clause.Modifier

/-!
# Clauses

A clause is a term, a phrase, a range or a query.  The first three are leaves;
a query is a group of clauses.  Every clause has the same three slots for its
field, its operator and its weight.

A term is one token.  A phrase is any text.  A bound of a range is open if it
is null, blank or `*`, and one token otherwise.  Tokens hold no blanks.
-/

namespace LuceneQuery

/-- The slots of every clause. -/
structure Slots where
  /-- The field, empty for the default field. -/
  field : Text := []
  /-- The operator. -/
  operator : Operator := .optional
  /-- The weight. -/
  weight : Number := defaultWeight

/-- A clause without parts. -/
inductive Leaf where
  /-- One token, with the edit distance allowed in matching it. -/
  | term (text : Text) (escape : Bool) (fuzziness : Int)
  /-- A sequence of words, with the distance allowed between them. -/
  | phrase (text : Text) (escape : Bool) (slop : Int)
  /-- The values between two bounds. -/
  | range (lower upper : Value) (escape : Bool) (kind : RangeKind)

/-- A clause. -/
inductive Clause where
  /-- A clause without parts. -/
  | leaf (slots : Slots) (leaf : Leaf)
  /-- A group of clauses. -/
  | query (slots : Slots) (clauses : List Clause)

/-! ## Tokens -/

/-- A value as a word, or what keeps it from being written. -/
def wordOf (v : Value) : Except ClauseFault Text :=
  if v.isWritable then .ok v.text else .error .tooManyDigits

/-- The token that a value is, or what is wrong with it at the named place. -/
def tokenOf (place : Text) : Value → Except ClauseFault Text
  | .str s =>
    let token := Text.trim s
    if token = [] then .error (.format s (.empty place))
    else if Text.hasBlank token then .error (.format token (.blankInside place))
    else .ok token
  | v => do .error (.format (← wordOf v) (.notAString place v.typeName))

/-- A bound that is open or a token, or what is wrong with it. -/
def boundOf : Value → Except ClauseFault Value
  | .null => .ok .null
  | v => do
    let word ← wordOf v
    if Text.trim word = [] then .ok v
    else
      let _ ← tokenOf "range bound" (.str word)
      .ok v

namespace Leaf

/-- The name of the kind of a leaf. -/
def kindName : Leaf → String
  | .term .. => "Term"
  | .phrase .. => "Phrase"
  | .range .. => "Range"

/-- The term of a value. -/
def ofTerm (text : Value) (escape : Bool) : Except ClauseFault Leaf := do
  .ok (.term (← tokenOf "term" text) escape 0)

/-- The phrase of a text. -/
def ofPhrase (text : Text) (escape : Bool) : Leaf := .phrase text escape 0

/-- The range between two values.  The kind is looked at last. -/
def ofRange (lower upper kind : Value) (escape : Bool) : Except ClauseFault Leaf := do
  let lower ← boundOf lower
  let upper ← boundOf upper
  let kind ← RangeKind.ofValue kind
  .ok (.range lower upper escape kind)

end Leaf

namespace Clause

/-- The slots of a clause. -/
def slots : Clause → Slots
  | .leaf slots _ => slots
  | .query slots _ => slots

/-- The name of the kind of a clause. -/
def kindName : Clause → String
  | .leaf _ l => l.kindName
  | .query .. => "Query"

/-- The clauses directly in a clause. -/
def clauses : Clause → List Clause
  | .leaf .. => []
  | .query _ cs => cs

end Clause

end LuceneQuery
