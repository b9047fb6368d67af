import LuceneQuery.Clause.Text
import LuceneQuery.Log

/-!
# Shared clauses

A clause can stand in several queries at once, and a change to it shows in
all of them.  A store holds the clauses of a session in cells, one after the
other in the order in which they were made, and a query holds the handles of
its clauses.

A query may not come to contain itself, so the graph of queries has no cycle.
`holds` walks the graph below a query, and `tree` unfolds it into a clause of
its own.  Both take a bound on the depth; a walk without cycles is never
longer than the number of cells.
-/

namespace LuceneQuery

/-- The number of a cell. -/
abbrev Handle := Nat

/-- A clause whose parts are shared. -/
inductive Cell where
  /-- A clause without parts. -/
  | leaf (slots : Slots) (leaf : Leaf)
  /-- A query with the handles of its clauses. -/
  | query (slots : Slots) (clauses : List Handle)

namespace Cell

/-- The slots of a cell. -/
def slots : Cell → Slots
  | .leaf slots _ => slots
  | .query slots _ => slots

/-- A cell with changed slots. -/
def mapSlots (f : Slots → Slots) : Cell → Cell
  | .leaf slots l => .leaf (f slots) l
  | .query slots cs => .query (f slots) cs

/-- A cell with a changed leaf, if it is one. -/
def mapLeaf (f : Leaf → Leaf) : Cell → Cell
  | .leaf slots l => .leaf slots (f l)
  | cell => cell

/-- The handles in a cell. -/
def clauses : Cell → List Handle
  | .leaf .. => []
  | .query _ cs => cs

/-- A cell with one more clause at its end, if it is a query. -/
def append (h : Handle) : Cell → Cell
  | .query slots cs => .query slots (cs ++ [h])
  | cell => cell

/-- The name of the kind of a cell. -/
def kindName : Cell → String
  | .leaf _ l => l.kindName
  | .query .. => "Query"

end Cell

/-- The clauses of a session. -/
structure Store where
  /-- The cells, oldest first. -/
  cells : List Cell := []

namespace Store

/-- The number of cells. -/
def size (s : Store) : Nat := s.cells.length

/-- The cell of a handle. -/
def cell? (s : Store) (h : Handle) : Option Cell := s.cells[h]?

/-- The handles in the cell of a handle. -/
def clauses (s : Store) (h : Handle) : List Handle :=
  match s.cell? h with
  | some cell => cell.clauses
  | none => []

/-- The store with a new cell. -/
def insert (s : Store) (cell : Cell) : Store := ⟨s.cells ++ [cell]⟩

/-- The store with the cell of a handle changed. -/
def modify (s : Store) (h : Handle) (f : Cell → Cell) : Store := ⟨s.cells.modify h f⟩

/-- Whether a clause stands below another one, at most `depth` steps down. -/
def holdsWithin (s : Store) : Nat → Handle → Handle → Bool
  | 0, _, _ => false
  | depth + 1, h, target =>
    (s.clauses h).any fun c => c == target || s.holdsWithin depth c target

/-- Whether a clause stands below another one. -/
def holds (s : Store) (h target : Handle) : Bool := s.holdsWithin s.size h target

/-- The clause of a handle, down to `depth` queries below one another. -/
def treeWithin (s : Store) : Nat → Handle → Clause
  | 0, _ => .query {} []
  | depth + 1, h =>
    match s.cell? h with
    | some (.leaf slots l) => .leaf slots l
    | some (.query slots cs) => .query slots (cs.map (s.treeWithin depth))
    | none => .query {} []

/-- The clause of a handle. -/
def tree (s : Store) (h : Handle) : Clause := s.treeWithin (s.size + 1) h

/-- The text of the clause of a handle. -/
def text (s : Store) (h : Handle) : Text := (s.tree h).text

/-! ## Adding clauses to a query -/

/-- What is given to a query as a clause. -/
inductive Addend where
  /-- A clause. -/
  | clause (h : Handle)
  /-- A value that is no clause. -/
  | other (v : Value)

/-- Why a query does not take what it is given. -/
inductive AddFault where
  /-- It is no clause but a value of the named type. -/
  | notAClause (typeName : String)
  /-- The query would come to contain itself. -/
  | containsItself
  deriving DecidableEq, Repr

/-- The fault in words. -/
def AddFault.message : AddFault → String
  | .notAClause typeName => "Query accepts clauses only, got " ++ typeName
  | .containsItself => "A query cannot contain itself"

/-- What is wrong with a clause for a query, if anything. -/
def refusal? (s : Store) (query : Handle) : Addend → Option AddFault
  | .other v => some (.notAClause v.typeName)
  | .clause h => if h = query ∨ s.holds h query then some .containsItself else none

/-- The record of a clause that has been added as the last of `count`. -/
def addedRecord (s : Store) (h : Handle) (count : Nat) : Log.Record :=
  let kind := match s.cell? h with
    | some cell => cell.kindName
    | none => ""
  ⟨Log.debug, "Query: added " ++ kind ++ " (" ++ toString count ++ " clauses)"⟩

/-- The outcome of adding clauses: the store, the records, and the fault that
ended it, if one did. -/
structure Added where
  /-- The store with the clauses before the fault. -/
  store : Store
  /-- One record for each clause that was added. -/
  records : List Log.Record
  /-- The fault. -/
  fault : Option AddFault

/-- Adds clauses to a query one after the other, up to the first one that is
refused. -/
def add (s : Store) (query : Handle) : List Addend → Added
  | [] => ⟨s, [], none⟩
  | addend :: rest =>
    match s.refusal? query addend, addend with
    | some fault, _ => ⟨s, [], some fault⟩
    | none, .other _ => ⟨s, [], none⟩
    | none, .clause h =>
      let next := s.modify query (·.append h)
      let done := add next query rest
      { done with records := addedRecord next h (next.clauses query).length :: done.records }

end Store

end LuceneQuery
