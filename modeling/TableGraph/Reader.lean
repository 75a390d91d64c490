import TableGraph.Column
import TableGraph.Fault.Failure
import TableGraph.Log

/-!
Readers of table descriptions, and sessions with a reader: what was called in which order, and what was
logged.
-/

namespace TableGraph

inductive ReaderCall where
  | begin (database : String)
  | listTables (database : String)
  | describeTable (table : String)
  | referencingTables (table : String)
  | finish
  deriving DecidableEq, Repr

namespace ReaderCall

def name : ReaderCall → String
  | .begin _ => "begin"
  | .listTables _ => "list_tables"
  | .describeTable _ => "describe_table"
  | .referencingTables _ => "get_referencing_tables"
  | .finish => "end"

def argument? : ReaderCall → Option String
  | .begin database => some database
  | .listTables database => some database
  | .describeTable table => some table
  | .referencingTables table => some table
  | .finish => none

end ReaderCall

structure Reply (α : Type) where
  outcome : Except Failure α
  log : Log := []

/-- A source of table descriptions; every call may change its state. -/
structure Reader (σ : Type) where
  begin (database : String) : σ → Reply Unit × σ
  listTables (database : String) : σ → Reply (List String) × σ
  describeTable (table : String) : σ → Reply (List Column) × σ
  referencingTables (table : String) : σ → Reply (List String) × σ
  finish : σ → Reply Unit × σ

structure Session (σ : Type) where
  state : σ
  calls : List ReaderCall := []
  log : Log := []

abbrev Reading (σ α : Type) :=
  ExceptT Failure (StateM (Session σ)) α

namespace Reading

def call (made : ReaderCall) (run : σ → Reply α × σ) : Reading σ α :=
  fun session =>
    let (reply, state) := run session.state
    (reply.outcome, ⟨state, session.calls ++ [made], session.log ++ reply.log⟩)

def say (lines : Log) : Reading σ Unit :=
  fun session => (.ok (), { session with log := session.log ++ lines })

/-- Runs a program to its outcome, which does not interrupt what follows. -/
def observe (program : Reading σ α) : Reading σ (Except Failure α) :=
  fun session =>
    let (outcome, session) := program.run session
    (.ok outcome, session)

def resume (outcome : Except Failure α) : Reading σ α :=
  fun session => (outcome, session)

/-- Runs a program and then the last one, whether or not the first one failed. A failure of the last one
counts before one of the first. -/
def thenFinally (program : Reading σ α) (last : Reading σ Unit) : Reading σ α := do
  let outcome ← observe program
  last
  resume outcome

end Reading

namespace Reader

/-! The calls of a reader as programs. -/

def callBegin (reader : Reader σ) (database : String) : Reading σ Unit :=
  .call (.begin database) (reader.begin database)

def callListTables (reader : Reader σ) (database : String) : Reading σ (List String) :=
  .call (.listTables database) (reader.listTables database)

def callDescribeTable (reader : Reader σ) (table : String) : Reading σ (List Column) :=
  .call (.describeTable table) (reader.describeTable table)

def callReferencingTables (reader : Reader σ) (table : String) : Reading σ (List String) :=
  .call (.referencingTables table) (reader.referencingTables table)

def callFinish (reader : Reader σ) : Reading σ Unit :=
  .call .finish reader.finish

end Reader

end TableGraph
