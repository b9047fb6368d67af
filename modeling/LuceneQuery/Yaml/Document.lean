import LuceneQuery.Value.Mapping
import LuceneQuery.Yaml.Node
import LuceneQuery.Yaml.Scalar
import LuceneQuery.Yaml.Token.Lexer

/-!
# The value of a document

A document is read in three steps: its text into tokens, these into a tree, and
the tree into a value.  A fault of an earlier step hides those of later ones.

The tree is evaluated level by level: first the scalars of the outermost list
or mapping, then those of the lists and mappings in it, and so on.  Of several
faults the one of the outermost level counts, and on a level the first one.  A
key can only be a scalar.
-/

namespace LuceneQuery.Yaml

namespace Node

/-- A fault in a tree with its level. -/
structure Misfit where
  /-- How many lists and mappings the faulty part is in, the outermost aside. -/
  level : Nat
  /-- The fault. -/
  fault : Fault

/-- A misfit as the list or mapping around it has it. -/
def Misfit.deeper (m : Misfit) : Misfit := { m with level := m.level + 1 }

/-- The values of two parts.  Of two misfits the outer one counts, or the first. -/
def both {α β γ : Type} (f : α → β → γ) : Except Misfit α → Except Misfit β → Except Misfit γ
  | .ok a, .ok b => .ok (f a b)
  | .error m, .ok _ => .error m
  | .ok _, .error n => .error n
  | .error m, .error n => .error (if n.level < m.level then n else m)

/-- The value of a key. -/
def keyValue : Node → Except Misfit Scalar
  | .plain text => (keyOf text).mapError (⟨0, ·⟩)
  | .quoted text => .ok (.str text)
  | _ => .error ⟨0, .malformed .compositeKey⟩

mutual

/-- The value of a tree. -/
def value : Node → Except Misfit Value
  | .plain text =>
    match plainScalar text with
    | .ok s => .ok (.scalar s)
    | .error f => .error ⟨0, f⟩
  | .quoted text => .ok (.str text)
  | .sequence items => ((values items).map Value.list).mapError Misfit.deeper
  | .mapping pairs =>
    ((entries pairs).map fun es => Value.map (Entries.ofList es)).mapError Misfit.deeper

/-- The values of the items of a list. -/
def values : List Node → Except Misfit (List Value)
  | [] => .ok []
  | n :: rest => both (· :: ·) n.value (values rest)

/-- The keys and values of a mapping. -/
def entries : List (Node × Node) → Except Misfit (List (Scalar × Value))
  | [] => .ok []
  | (k, v) :: rest =>
    both (fun e es => e :: es) (both (fun k v => (k, v)) k.keyValue v.value) (entries rest)

end

end Node

/-- The characters of a document, which may hold no half. -/
def charactersOf (text : Text) : Except Fault (List Char) :=
  match text.chars? with
  | some chars => .ok chars
  | none => .error (.malformed .character)

/-- The value of a document, which is null if there is nothing in it. -/
def read (text : Text) : Except Fault Value := do
  let spots ← spots (← charactersOf text)
  match ← Node.ofTokens? (Token.ofSpots spots) with
  | none => .ok .null
  | some node => node.value.mapError Node.Misfit.fault

end LuceneQuery.Yaml
