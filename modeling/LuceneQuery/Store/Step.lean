import LuceneQuery.Store.Basic

/-!
# Sessions

A session is a sequence of steps on a store: making a clause, changing one of
its slots, changing one of its texts without a check, and adding clauses to a
query.  A change that fails leaves the store as it was; clauses that are added
before a refused one stay.
-/

namespace LuceneQuery.Store

/-! ## Making clauses -/

/-- What a clause is made from. -/
inductive Blueprint where
  /-- A term in a field. -/
  | term (text : Value) (field : Text) (escape : Bool)
  /-- A phrase in a field. -/
  | phrase (text : Text) (field : Text) (escape : Bool)
  /-- A range in a field. -/
  | range (lower upper kind : Value) (field : Text) (escape : Bool)
  /-- A query in a field. -/
  | query (field : Text)

/-- The cell that a blueprint describes, or what is wrong with it. -/
def Blueprint.build : Blueprint → Except ClauseFault Cell
  | .term text field escape => do .ok (.leaf { field } (← Leaf.ofTerm text escape))
  | .phrase text field escape => .ok (.leaf { field } (Leaf.ofPhrase text escape))
  | .range lower upper kind field escape => do
    .ok (.leaf { field } (← Leaf.ofRange lower upper kind escape))
  | .query field => .ok (.query { field } [])

/-! ## Changing clauses -/

/-- A change of one slot, with what it is told. -/
inductive Setting where
  /-- The field. -/
  | field (name : Text)
  /-- The operator. -/
  | operator (op : Operator)
  /-- The weight. -/
  | boost (weight : Value)
  /-- The edit distance of a term. -/
  | fuzziness (distance : Value)
  /-- The word distance of a phrase. -/
  | proximity (distance : Value)
  /-- The kind of a range. -/
  | rangeKind (kind : RangeKind)

/-- A term with another edit distance. -/
def withFuzziness (n : Int) : Leaf → Leaf
  | .term text escape _ => .term text escape n
  | l => l

/-- A phrase with another word distance. -/
def withSlop (n : Int) : Leaf → Leaf
  | .phrase text escape _ => .phrase text escape n
  | l => l

/-- A range of another kind. -/
def withKind (kind : RangeKind) : Leaf → Leaf
  | .range lower upper escape _ => .range lower upper escape kind
  | l => l

/-- What a setting does to a cell, or what is wrong with it. -/
def Setting.apply : Setting → Except ClauseFault (Cell → Cell)
  | .field name => .ok (Cell.mapSlots ({ · with field := name }))
  | .operator op => .ok (Cell.mapSlots ({ · with operator := op }))
  | .boost weight => do
    let n ← weightOf weight
    .ok (Cell.mapSlots ({ · with weight := n }))
  | .fuzziness distance => do
    let n ← fuzzinessOf distance
    .ok (Cell.mapLeaf (withFuzziness n))
  | .proximity distance => do
    let n ← slopOf distance
    .ok (Cell.mapLeaf (withSlop n))
  | .rangeKind kind => .ok (Cell.mapLeaf (withKind kind))

/-- A part of a leaf that can be written without a check. -/
inductive Assignment where
  /-- The text of a term or a phrase. -/
  | text (s : Text)
  /-- Whether a leaf is escaped. -/
  | escape (b : Bool)
  /-- The lower bound of a range. -/
  | lower (v : Value)
  /-- The upper bound of a range. -/
  | upper (v : Value)

/-- What an assignment does to a leaf. -/
def Assignment.apply : Assignment → Leaf → Leaf
  | .text s, .term _ escaped n => .term s escaped n
  | .text s, .phrase _ escaped n => .phrase s escaped n
  | .escape b, .term token _ n => .term token b n
  | .escape b, .phrase words _ n => .phrase words b n
  | .escape b, .range low high _ kind => .range low high b kind
  | .lower v, .range _ high escaped kind => .range v high escaped kind
  | .upper v, .range low _ escaped kind => .range low v escaped kind
  | _, l => l

/-! ## Steps -/

/-- A step of a session. -/
inductive Step where
  /-- Makes a clause. -/
  | create (blueprint : Blueprint)
  /-- Fills a slot of a clause. -/
  | set (h : Handle) (setting : Setting)
  /-- Writes a part of a clause without a check. -/
  | assign (h : Handle) (assignment : Assignment)
  /-- Adds clauses to a query. -/
  | add (query : Handle) (addends : List Addend)

/-- What a step comes to. -/
inductive Outcome where
  /-- The step is done. -/
  | done
  /-- A clause has been made. -/
  | created (h : Handle)
  /-- The step failed on a clause. -/
  | refused (fault : ClauseFault)
  /-- A query did not take what it was given. -/
  | notAdded (fault : AddFault)

/-- A store after a step, with what the step came to and what it logged. -/
structure Result where
  /-- The store. -/
  store : Store
  /-- What the step came to. -/
  outcome : Outcome
  /-- The records of the step. -/
  records : List Log.Record := []

/-- A step of a session. -/
def step (s : Store) : Step → Result
  | .create blueprint =>
    match blueprint.build with
    | .ok cell => { store := s.insert cell, outcome := .created s.size }
    | .error fault => { store := s, outcome := .refused fault }
  | .set h setting =>
    match setting.apply with
    | .ok change => { store := s.modify h change, outcome := .done }
    | .error fault => { store := s, outcome := .refused fault }
  | .assign h assignment =>
    { store := s.modify h (Cell.mapLeaf assignment.apply), outcome := .done }
  | .add query addends =>
    let added := s.add query addends
    { store := added.store
      outcome := match added.fault with
        | some fault => .notAdded fault
        | none => .done
      records := added.records }

/-- The store after a sequence of steps. -/
def run (s : Store) (steps : List Step) : Store := steps.foldl (fun s x => (s.step x).store) s

end LuceneQuery.Store
