import LuceneQuery.Number
import LuceneQuery.Text.Basic
import LuceneQuery.Value.Calendar

/-!
# Configuration values

A configuration is a tree of scalars, lists and mappings.  The keys of a
mapping are scalars.  A mapping keeps its entries in the order in which their
keys first came, and holds a key once.  There can be octets, pairs and sets in
the tree as well, though no part of a configuration may be one.  A set holds
scalars, in the order in which it gives them.

Two scalars are one key if they are equal in value: the number 1, the double
1.0 and the truth value true are one key.  What is not a number equals nothing;
a double of this kind is one key with itself, as told by its payload.
-/

namespace LuceneQuery

/-- A value without parts. -/
inductive Scalar where
  /-- No value. -/
  | null
  /-- A truth value. -/
  | bool (b : Bool)
  /-- A number. -/
  | number (n : Number)
  /-- A text. -/
  | str (s : Text)
  /-- Octets. -/
  | bytes (octets : List UInt8)
  /-- A day. -/
  | date (d : Date)
  /-- A time of a day. -/
  | timestamp (t : Timestamp)
  deriving DecidableEq

/-- A value of a configuration. -/
inductive Value where
  /-- A value without parts. -/
  | scalar (s : Scalar)
  /-- A list. -/
  | list (items : List Value)
  /-- Two values in a row. -/
  | pair (first second : Value)
  /-- A set. -/
  | set (members : List Scalar)
  /-- A mapping. -/
  | map (entries : List (Scalar × Value))

/-- The entries of a mapping. -/
abbrev Entries := List (Scalar × Value)

namespace Scalar

instance : Inhabited Scalar := ⟨.null⟩

/-- The number that a scalar counts as when it is a key. -/
def asNumber? : Scalar → Option Number
  | .bool b => some (.int (if b then 1 else 0))
  | .number n => some n
  | _ => none

/-- Whether two scalars are one key of a mapping. -/
def sameKey (a b : Scalar) : Bool :=
  match a.asNumber?, b.asNumber? with
  | some m, some n => m.sameKey n
  | none, none =>
    match a, b with
    | .timestamp s, .timestamp t => s.sameKey t
    | _, _ => a == b
  | _, _ => false

end Scalar

namespace Value

instance : Inhabited Value := ⟨.scalar .null⟩

/-- No value. -/
@[match_pattern] abbrev null : Value := .scalar .null

/-- A truth value. -/
@[match_pattern] abbrev bool (b : Bool) : Value := .scalar (.bool b)

/-- A number. -/
@[match_pattern] abbrev number (n : Number) : Value := .scalar (.number n)

/-- An integer. -/
@[match_pattern] abbrev int (n : Int) : Value := .scalar (.number (.int n))

/-- A double. -/
@[match_pattern] abbrev double (x : Double) : Value := .scalar (.number (.double x))

/-- A decimal. -/
@[match_pattern] abbrev decimal (d : Decimal) : Value := .scalar (.number (.decimal d))

/-- A text. -/
@[match_pattern] abbrev str (s : Text) : Value := .scalar (.str s)

/-- Whether a value stands for nothing: no value, false, zero, an empty text, no
octets, or an empty list, set or mapping. -/
def isBlank : Value → Bool
  | .null => true
  | .bool b => !b
  | .number n => n.isZero
  | .str s => s.isEmpty
  | .scalar (.bytes octets) => octets.isEmpty
  | .scalar _ => false
  | .list items => items.isEmpty
  | .pair .. => false
  | .set members => members.isEmpty
  | .map entries => entries.isEmpty

/-- Whether a value is null. -/
def isNull : Value → Bool
  | .null => true
  | _ => false

/-- The name of the type of a value. -/
def typeName : Value → String
  | .null => "NoneType"
  | .bool _ => "bool"
  | .int _ => "int"
  | .double _ => "float"
  | .decimal _ => "Decimal"
  | .str _ => "str"
  | .scalar (.bytes _) => "bytes"
  | .scalar (.date _) => "date"
  | .scalar (.timestamp _) => "datetime"
  | .list _ => "list"
  | .pair .. => "tuple"
  | .set _ => "set"
  | .map _ => "dict"

/-- The name of the type of a value, after the name of the family of the type if it is in one. -/
def longTypeName (v : Value) : String :=
  match v with
  | .decimal _ => "decimal." ++ v.typeName
  | .scalar (.date _) | .scalar (.timestamp _) => "datetime." ++ v.typeName
  | _ => v.typeName

end Value

end LuceneQuery
