import LuceneQuery.Clause.Text
import LuceneQuery.Output.Sink

/-!
# Rendering all queries

The queries of a configuration are rendered in order.  The log tells of each
one before it is rendered, and warns of one that renders to nothing.  A query
that cannot be written or a fault of the output ends the command, and the log
says so.
-/

namespace LuceneQuery.Command

namespace Render

/-- The name of the command, which its files bear. -/
def action : Text := "render"

/-- The entry of a query. -/
def entryOf (q : Config.LabelledQuery) : Output.Entry := ⟨q.name, q.query.text⟩

/-- The number of a query among all. -/
def position (i total : Nat) : String := "query " ++ toString i ++ "/" ++ toString total

/-- The record of a query that is about to be rendered. -/
def announced (i total : Nat) (q : Config.LabelledQuery) : Log.Record :=
  ⟨Log.debug, "Rendering " ++ position i total ++ " name=" ++ q.name.getD "None" ++ " clauses="
    ++ toString q.query.clauses.length⟩

/-- The name of a query for a warning. -/
def nameOr (default : Text) : Option Text → Text
  | some name => if name = [] then default else name
  | none => default

/-- The warning of a query that renders to nothing. -/
def warned (i total : Nat) (q : Config.LabelledQuery) : List Log.Record :=
  if q.query.text = [] then
    [⟨Log.warning, "Query " ++ toString i ++ "/" ++ toString total ++ " ("
      ++ nameOr "unnamed" q.name ++ ") rendered empty"⟩]
  else []

/-! ## One query after another -/

/-- What has come of some queries. -/
structure Progress where
  /-- What is logged. -/
  records : List Log.Record := []
  /-- What the sinks keep until the end. -/
  kept : List Output.Entry := []

/-- Logs records. -/
def Progress.log (p : Progress) (records : List Log.Record) : Progress :=
  { p with records := p.records ++ records }

/-- Hands a rendered query to the sinks. -/
def Progress.hand (p : Progress) (sinks : List Output.Sink) (e : Output.Entry) : Progress where
  records := p.records ++ Output.Sink.takeAll sinks e
  kept := p.kept ++ Output.Sink.keepAll sinks e

/-- Whether a query can be written. -/
def isWritable (q : Config.LabelledQuery) : Bool := q.query.isWritable

/-- Renders queries, the first of which has the number `i`, and hands them to the
sinks.  Stops at a query that cannot be written. -/
def renderFrom (sinks : List Output.Sink) (total i : Nat) (p : Progress) :
    List Config.LabelledQuery → Progress × Option Output.Fault
  | [] => (p, none)
  | q :: rest =>
    let p := p.log [announced i total q]
    if isWritable q then
      renderFrom sinks total (i + 1) ((p.log (warned i total q)).hand sinks (entryOf q)) rest
    else (p, some (.query .tooManyDigits))

/-! ## All queries -/

/-- What has come of rendering. -/
structure Report extends Progress where
  /-- Why the output failed, if it did. -/
  fault : Option Output.Fault

/-- The record of a fault. -/
def failed (f : Output.Fault) : Log.Record := ⟨Log.error, "Render failed: " ++ f.message⟩

/-- The report of a fault behind some progress. -/
def Report.ofFault (p : Progress) (f : Output.Fault) : Report := ⟨p.log [failed f], some f⟩

/-- The record of the end. -/
def done (total : Nat) : Log.Record := ⟨Log.debug, "Rendered " ++ toString total ++ " queries"⟩

/-- Renders the queries of a configuration. -/
def run {m : Type → Type} [Monad m] (disk : Disk m) (settings : Config.Settings) (stamp : Text) :
    m Report :=
  match Output.Sink.choose settings.output.formats with
  | .error f => pure (.ofFault {} f)
  | .ok sinks =>
    let total := settings.queries.length
    match renderFrom sinks total 1 {} settings.queries with
    | (p, some f) => pure (.ofFault p f)
    | (p, none) => do
      match ← Output.finish disk sinks settings.output.baseDir action stamp p.kept with
      | .error f => pure (.ofFault p f)
      | .ok saved => pure ⟨p.log (saved ++ [done total]), none⟩

end Render

end LuceneQuery.Command
