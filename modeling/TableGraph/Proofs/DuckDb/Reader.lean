import TableGraph.DuckDb.Reader
import TableGraph.Proofs.DuckDb.Rows
import TableGraph.Proofs.Reader.Log

/-!
What the programs of the reader come to: the answers of the connection, one query after the other, and what their
rows say.
-/

namespace TableGraph
namespace DuckDb

variable {κ α : Type}

namespace Querying

def asked (query : Query) : Log :=
  if query.asksForRows then
    [⟨.debug, .introspection, "Introspection query: " ++ Text.collapse query.sql⟩]
  else
    []

theorem run_ask (connection : Connection κ) (query : Query) (state : κ) (log : Log) :
    (ask connection query).run (state, log)
      =
    ((connection.execute query state).1, ((connection.execute query state).2, log ++ asked query)) :=
  rfl

def content (rows : Except Malformed α) : Except Failure α :=
  rows.mapError Malformed.failure

theorem run_expect (rows : Except Malformed α) (state : κ × Log) :
    (expect rows).run state = (content rows, state) := by
  cases rows with
  | ok value => rfl
  | error malformed => rfl

theorem run_names (otherwise : String → Malformed) (program : Querying κ (List Cell)) (state : κ × Log) :
    ((names otherwise program).run state).1
      =
    (program.run state).1 >>= fun cells => content (cells.mapM (Cell.asText otherwise)) := by
  unfold names
  rw [outcome_bind]
  congr 1
  funext cells
  rw [run_expect]

theorem outcome_reply (program : Querying κ α) (state : ReaderState κ) :
    (reply program state).1.outcome = (program.run (state.connection, [])).1 :=
  rfl

end Querying

open Querying

def Connection.answer (connection : Connection κ) (query : Query) (state : κ) : Except Failure (List Row) :=
  (connection.execute query state).1

def Connection.after (connection : Connection κ) (query : Query) (state : κ) : κ :=
  (connection.execute query state).2

/-- A connection describes a table: it answers with the table's columns and with the keys that mark some of them. -/
structure Connection.Describes (connection : Connection κ) (schema table : String) (state : κ) (rows : List Row)
    (columns : List Column) : Prop where
  answered : connection.answer (.columns table) state = .ok rows
  nonempty : rows ≠ []
  told : ∃ keys foreign,
    connection.answer (.foreignKeys table schema) (connection.after (.columns table) state) = .ok keys ∧
    keyColumnNames keys = .ok foreign ∧
    columnsOfRows foreign rows = .ok columns

/-! What each program comes to. -/

theorem run_useDatabase (connection : Connection κ) (database : String) (state : κ) (log : Log) :
    ((useDatabase connection database).run (state, log)).1
      =
    (do
      let rows ← connection.answer .currentDatabase state
      let current ← content (onlyCell rows)
      if !database.isEmpty && Cell.textIn? current != some database then
        let _ ← connection.answer (.use database) (connection.after .currentDatabase state)) := by
  unfold useDatabase Connection.answer Connection.after
  rw [outcome_bind, run_ask]
  congr 1
  funext rows
  rw [outcome_bind, run_expect]
  congr 1
  funext current
  split
  . rw [outcome_bind, run_ask]
    rfl
  . rfl

theorem begin_of_current (connection : Connection κ) (schema database : String) (state : ReaderState κ)
    {current : String} (hcurrent : connection.answer .currentDatabase state.connection = .ok [[.text current]]) :
    let asked := connection.after .currentDatabase state.connection
    let begun := (reader connection schema).begin database state
    (begun.1.outcome, begun.2.connection)
      =
    if database = "" ∨ database = current then (.ok (), asked)
    else ((connection.answer (.use database) asked).map fun _ => (), connection.after (.use database) asked) := by
  change (((useDatabase connection database).run (state.connection, [])).1,
    ((useDatabase connection database).run (state.connection, [])).2.1) = _
  have hanswered : (ask connection .currentDatabase).run (state.connection, []) =
      (.ok [[.text current]], (connection.after .currentDatabase state.connection, asked .currentDatabase)) := by
    rw [run_ask, ← hcurrent]
    rfl
  have hstays : (!database.isEmpty && Cell.textIn? (.text current) != some database) = true ↔
      ¬(database = "" ∨ database = current) := by
    change (!database.isEmpty && some current != some database) = true ↔ _
    have hcurrent : current ≠ database ↔ ¬database = current := not_congr eq_comm
    simp [hcurrent]
  unfold useDatabase
  rw [run_bind_of_ok hanswered, run_bind_of_ok (run_expect (onlyCell [[.text current]]) _)]
  split
  . next hother =>
    rw [if_neg (hstays.mp hother), run_bind, run_ask]
    unfold Connection.answer Connection.after
    cases (connection.execute (.use database) _).1 with
    | ok rows => rfl
    | error failure => rfl
  . next hsame =>
    rw [if_pos (not_not.mp (mt hstays.mpr hsame))]
    rfl

theorem run_listTables (connection : Connection κ) (schema : String) (state : κ) (log : Log) :
    ((listTables connection schema).run (state, log)).1
      =
    connection.answer (.tableNames schema) state >>= fun rows => content (firstColumn rows) := by
  unfold listTables Connection.answer
  rw [outcome_bind, run_ask]
  congr 1
  funext rows
  rw [run_expect]

theorem run_referencingTables (connection : Connection κ) (schema table : String) (state : κ) (log : Log) :
    ((referencingTables connection schema table).run (state, log)).1
      =
    connection.answer (.referencing schema table) state >>= fun rows => content (firstColumn rows) := by
  unfold referencingTables Connection.answer
  rw [outcome_bind, run_ask]
  congr 1
  funext rows
  rw [run_expect]

theorem run_describeTable (connection : Connection κ) (schema table : String) (state : κ) (log : Log) :
    ((describeTable connection schema table).run (state, log)).1
      =
    (do
      let rows ← connection.answer (.columns table) state
      if rows.isEmpty then
        throw (Malformed.noTable table).failure
      let keys ← connection.answer (.foreignKeys table schema) (connection.after (.columns table) state)
      let foreign ← content (keyColumnNames keys)
      content (columnsOfRows foreign rows)) := by
  unfold describeTable Connection.answer Connection.after
  rw [outcome_bind, run_ask]
  congr 1
  funext rows
  cases rows with
  | nil => rfl
  | cons row rows =>
    change ((ask connection (.foreignKeys table schema) >>= _).run _).1 = _ >>= _
    rw [outcome_bind, run_ask]
    congr 1
    funext keys
    rw [outcome_bind, run_expect]
    congr 1
    funext foreign
    rw [run_expect]

theorem content_eq_ok_iff {rows : Except Malformed α} {value : α} : content rows = .ok value ↔ rows = .ok value := by
  cases rows with
  | ok value => rw [content, Except.mapError, Except.ok.injEq, Except.ok.injEq]
  | error malformed => simp [content, Except.mapError]

variable {connection : Connection κ} {schema table : String} {state : κ} {log : Log} {columns : List Column}

theorem run_describeTable_eq_ok_iff :
    ((describeTable connection schema table).run (state, log)).1 = .ok columns
      ↔
    ∃ rows, connection.Describes schema table state rows columns := by
  rw [run_describeTable, bind_eq_ok_iff]
  constructor
  . rintro ⟨rows, hanswered, hrun⟩
    cases rows with
    | nil => cases hrun
    | cons row rows =>
      obtain ⟨keys, hkeys, hrun⟩ := bind_eq_ok_iff.mp hrun
      obtain ⟨foreign, hforeign, hcolumns⟩ := bind_eq_ok_iff.mp hrun
      exact ⟨_, hanswered, List.cons_ne_nil _ _, keys, foreign, hkeys, content_eq_ok_iff.mp hforeign,
        content_eq_ok_iff.mp hcolumns⟩
  . rintro ⟨rows, hanswered, hnonempty, keys, foreign, hkeys, hforeign, hcolumns⟩
    refine ⟨rows, hanswered, ?_⟩
    cases rows with
    | nil => contradiction
    | cons row rows =>
      refine bind_eq_ok_iff.mpr ⟨keys, hkeys, bind_eq_ok_iff.mpr ⟨foreign, content_eq_ok_iff.mpr hforeign, ?_⟩⟩
      exact content_eq_ok_iff.mpr hcolumns

theorem reader_describeTable_eq_ok_iff {state : ReaderState κ} :
    ((reader connection schema).describeTable table state).1.outcome = .ok columns
      ↔
    ∃ rows, connection.Describes schema table state.connection rows columns :=
  run_describeTable_eq_ok_iff

/-! The programs write to the log what nobody sees who does not ask for it. -/

def IsQuiet (state : κ × Log) : Prop :=
  ∀ line ∈ state.2, line.level = .debug

theorem keeps_ask (connection : Connection κ) (query : Query) : Keeps IsQuiet (ask connection query) := by
  rintro ⟨state, log⟩ hlog
  rw [run_ask]
  unfold IsQuiet asked
  rw [List.forall_mem_append]
  refine ⟨hlog, ?_⟩
  split
  . rw [List.forall_mem_singleton]
  . exact fun _ hmem => absurd hmem List.not_mem_nil

theorem keeps_expect (rows : Except Malformed α) : Keeps IsQuiet (expect rows : Querying κ α) := by
  intro state hlog
  rwa [run_expect]

theorem keeps_useDatabase (connection : Connection κ) (database : String) :
    Keeps IsQuiet (useDatabase connection database) := by
  unfold useDatabase
  apply (keeps_ask connection _).bind
  intro rows
  apply (keeps_expect _).bind
  intro current
  split
  . exact (keeps_ask connection _).bind fun _ => .pure _
  . exact .pure _

theorem keeps_names {program : Querying κ (List Cell)} (hprogram : Keeps IsQuiet program)
    (otherwise : String → Malformed) : Keeps IsQuiet (names otherwise program) :=
  hprogram.bind fun _ => keeps_expect _

theorem keeps_listTables (connection : Connection κ) (schema : String) :
    Keeps IsQuiet (listTables connection schema) :=
  (keeps_ask connection _).bind fun _ => keeps_expect _

theorem keeps_referencingTables (connection : Connection κ) (schema table : String) :
    Keeps IsQuiet (referencingTables connection schema table) :=
  (keeps_ask connection _).bind fun _ => keeps_expect _

theorem keeps_describeTable (connection : Connection κ) (schema table : String) :
    Keeps IsQuiet (describeTable connection schema table) := by
  have htold (rows : List Row) : Keeps IsQuiet (do
      let keys ← ask connection (.foreignKeys table schema)
      let foreign ← expect (keyColumnNames keys)
      expect (columnsOfRows foreign rows)) :=
    (keeps_ask connection _).bind fun _ => (keeps_expect _).bind fun _ => keeps_expect _
  unfold describeTable
  apply (keeps_ask connection _).bind
  intro rows
  split
  . exact .throw _
  . exact htold rows

theorem reader_logs {line : LogLine} (hlogs : (reader connection schema).Logs line) : line.level = .debug := by
  have hreply {α : Type} {program : Querying κ α} (hprogram : Keeps IsQuiet program) (state : ReaderState κ) :
      ∀ line ∈ (reply program state).1.log, line.level = .debug :=
    hprogram (state.connection, []) fun _ hmem => absurd hmem List.not_mem_nil
  obtain ⟨made, state, hline⟩ := hlogs
  cases made with
  | begin database => exact hreply (keeps_useDatabase connection database) state line hline
  | listTables database => exact hreply (keeps_names (keeps_listTables connection schema) _) state line hline
  | describeTable table => exact hreply (keeps_describeTable connection schema table) state line hline
  | referencingTables table =>
    exact hreply (keeps_names (keeps_referencingTables connection schema table) _) state line hline
  | finish => exact absurd hline List.not_mem_nil

end DuckDb
end TableGraph
