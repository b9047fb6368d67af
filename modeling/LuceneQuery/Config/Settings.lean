import LuceneQuery.Config.Clause

/-!
# Settings

A configuration has four parts: `log`, `render`, `output` and `queries`.  All
but the last may be missing or null, and so may every entry in them.  All parts
are read before any of them is checked, so that a value of a wrong type is
reported before a value out of place.
-/

namespace LuceneQuery.Config

/-! ## The log -/

/-- Where and what the program logs. -/
structure LogSettings where
  /-- The least level that is shown, in upper case. -/
  level : Text
  /-- Whether the log goes to a file too. -/
  toFile : Bool
  /-- The directory of log files. -/
  dir : Text

namespace LogSettings

/-- The levels that may be asked for, in ascending order. -/
def levelNames : List Text := ["CRITICAL", "DEBUG", "ERROR", "INFO", "WARNING"]

/-- Reads the part `log`. -/
def read (root : Entries) : Except Fault LogSettings := do
  let entries ← section? root "log" false
  let level ← stringAt "log.level" (entries.getOr "level" (.str "INFO"))
  let toFile ← boolAt "log.to_file" (entries.getOr "to_file" (.bool false))
  let dir ← stringAt "log.dir" (entries.getOr "dir" (.str "log"))
  .ok { level := Text.uppercase level, toFile, dir }

/-- Checks the part `log`. -/
def check (s : LogSettings) : Except Fault Unit := do
  if !levelNames.contains s.level then throw (.setting "log.level" (.notOneOf levelNames))
  if s.toFile && (Text.trim s.dir).isEmpty then throw (.setting "log.dir" .emptyForFile)

end LogSettings

/-! ## Rendering -/

/-- Reads the part `render`: whether clauses are escaped. -/
def readEscape (root : Entries) : Except Fault Bool := do
  let entries ← section? root "render" false
  boolAt "render.escape" (entries.getOr "escape" (.bool false))

/-! ## Output -/

/-- Where the rendered queries go. -/
structure OutputSettings where
  /-- The directory of output files. -/
  baseDir : Text
  /-- The formats, in lower case. -/
  formats : List Text

namespace OutputSettings

/-- The format that logs each query. -/
def console : Text := "console"

/-- The format that writes all queries to a file. -/
def json : Text := "json"

/-- Reads the part `output`. -/
def read (root : Entries) : Except Fault OutputSettings := do
  let entries ← section? root "output" false
  let formats ← stringsAt "output.formats" (entries.getOr "formats" (.list [.str console]))
  let baseDir ← stringAt "output.base_dir" (entries.getOr "base_dir" (.str "output"))
  .ok { baseDir, formats := formats.map fun s => Text.lowercase (Text.trim s) }

/-- Checks the part `output`. -/
def check (s : OutputSettings) : Except Fault Unit := do
  if s.formats = [] then throw (.setting "output.formats" (.noneOf "format"))
  let unknown := sortedNames (s.formats.filter fun f => f ≠ console ∧ f ≠ json)
  if unknown ≠ [] then throw (.setting "output.formats" (.unknownFormats unknown))
  if s.formats.contains json && (Text.trim s.baseDir).isEmpty then
    throw (.setting "output.base_dir" .empty)

end OutputSettings

/-! ## Queries -/

/-- Reads the queries of the items of a list, the first of which has the number `i`. -/
def readQueriesFrom (escape : Bool) (i : Nat) : List Value → Except Fault (List LabelledQuery)
  | [] => .ok []
  | v :: rest => do
    let query ← readQuery escape (KeyPath.item "queries" i) v
    let queries ← readQueriesFrom escape (i + 1) rest
    .ok (query :: queries)

/-- Reads the part `queries`. -/
def readQueries (escape : Bool) (root : Entries) : Except Fault (List LabelledQuery) :=
  match root.present? "queries" with
  | none => .error (.missing "queries")
  | some v => do readQueriesFrom escape 0 (← listAt "queries" v)

/-- Checks that the queries from number `i` on have clauses. -/
def requireClausesFrom (i : Nat) : List LabelledQuery → Except Fault Unit
  | [] => .ok ()
  | q :: rest =>
    if q.query.clauses.isEmpty then
      .error (.setting ((KeyPath.item "queries" i).field "clauses") (.noneOf "clause"))
    else requireClausesFrom (i + 1) rest

/-- Checks the part `queries`. -/
def requireClauses (queries : List LabelledQuery) : Except Fault Unit :=
  if queries.isEmpty then .error (.setting "queries" (.noneOf "query"))
  else requireClausesFrom 0 queries

/-! ## The whole -/

/-- A configuration. -/
structure Settings where
  /-- The log. -/
  log : LogSettings
  /-- Whether clauses are escaped. -/
  escape : Bool
  /-- The output. -/
  output : OutputSettings
  /-- The queries. -/
  queries : List LabelledQuery

/-- Reads and checks a configuration. -/
def Settings.read (root : Entries) : Except Fault Settings := do
  let log ← LogSettings.read root
  let escape ← readEscape root
  let output ← OutputSettings.read root
  let queries ← readQueries escape root
  log.check
  output.check
  requireClauses queries
  .ok { log, escape, output, queries }

end LuceneQuery.Config
