import TableGraph.DuckDb.Rows
import TableGraph.Reader
import TableGraph.Text.Blank

/-!
Reading the tables of one schema of a DuckDB database. The reader runs its queries on a worker, which it
starts with its first query and stops when it is released; the connection is not its own.
-/

namespace TableGraph.DuckDb

/-- The connection's state, and whether the reader holds a worker. -/
structure ReaderState (κ : Type) where
  connection : κ
  working : Bool := false

abbrev Querying (κ α : Type) :=
  ExceptT Failure (StateM (κ × Log)) α

namespace Querying

def ask (connection : Connection κ) (query : Query) : Querying κ (List Row) :=
  fun (state, log) =>
    let lines : Log :=
      if query.asksForRows then
        [⟨.debug, .introspection, "Introspection query: " ++ Text.collapse query.sql⟩]
      else
        []
    let (outcome, state) := connection.execute query state
    (outcome, (state, log ++ lines))

def expect : Except Malformed α → Querying κ α
  | .ok value => return value
  | .error malformed => throw malformed.failure

def names (otherwise : String → Malformed) (program : Querying κ (List Cell)) : Querying κ (List String) := do
  let cells ← program
  expect (cells.mapM (Cell.asText otherwise))

def reply (program : Querying κ α) (state : ReaderState κ) : Reply α × ReaderState κ :=
  let (outcome, connection, log) := program.run (state.connection, [])
  (⟨outcome, log⟩, ⟨connection, true⟩)

end Querying

def useDatabase (connection : Connection κ) (database : String) : Querying κ Unit := do
  let rows ← Querying.ask connection .currentDatabase
  let current ← Querying.expect (onlyCell rows)
  if !database.isEmpty && Cell.textIn? current != some database then
    let _ ← Querying.ask connection (.use database)

def listTables (connection : Connection κ) (schema : String) : Querying κ (List Cell) := do
  let rows ← Querying.ask connection (.tableNames schema)
  Querying.expect (firstColumn rows)

def describeTable (connection : Connection κ) (schema table : String) :
    Querying κ (List Column) := do
  let rows ← Querying.ask connection (.columns table)
  if rows.isEmpty then
    throw (Malformed.noTable table).failure
  let keys ← Querying.ask connection (.foreignKeys table schema)
  let foreign ← Querying.expect (keyColumnNames keys)
  Querying.expect (columnsOfRows foreign rows)

def referencingTables (connection : Connection κ) (schema table : String) :
    Querying κ (List Cell) := do
  let rows ← Querying.ask connection (.referencing schema table)
  Querying.expect (firstColumn rows)

def reader (connection : Connection κ) (schema : String) : Reader (ReaderState κ) where
  begin database := (useDatabase connection database).reply
  listTables _ := ((listTables connection schema).names (.lacks · "replace")).reply
  describeTable table := (describeTable connection schema table).reply
  referencingTables table := ((referencingTables connection schema table).names .noText).reply
  finish state := (⟨.ok (), []⟩, { state with working := false })

end TableGraph.DuckDb
