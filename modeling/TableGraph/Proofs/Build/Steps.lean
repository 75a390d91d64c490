import TableGraph.Build
import TableGraph.Proofs.Reader.Session

/-!
What each part of a build does to a session with a reader: its outcome, the calls that it makes and the
lines that it logs.
-/

namespace TableGraph
namespace Build

open Reading

variable {σ α : Type} {id : String} {made : ReaderCall} {program : Reading σ α}
  {session after : Session σ}

theorem run_guarding_of_ok {value : α} (hrun : program.run session = (.ok value, after)) :
    (guarding id made program).run session = (.ok value, after) := by
  unfold guarding
  rw [run_bind_of_ok (run_observe program session), hrun]
  apply run_pure

theorem run_guarding_of_error {failure : Failure}
    (hrun : program.run session = (.error failure, after)) :
    (guarding id made program).run session
      =
    (.error (.fault (callFault id made failure)),
      { after with log := after.log ++ callFailed id made failure }) := by
  unfold guarding
  rw [run_bind_of_ok (run_observe program session), hrun]
  exact (run_bind_of_ok (run_say _ after)).trans (run_throw _ _)

def tableRead (id : String) (table : Table) : Log :=
  progress id .debug
    ("Table '" ++ table.name ++ "': " ++ toString table.columns.length ++ " columns, referenced by " ++
      (Json.list (table.references.map .text)).nested)

variable {reader : Reader σ} {options : BuildOptions} {name : String} {state described : σ}
  {columns : List Column} {references : List String} {log referringLog : Log} {failure : Failure}

theorem run_readTable_of_not_described
    (hdescribe : reader.describeTable name session.state = (⟨.error failure, log⟩, state)) :
    (readTable reader options id name).run session
      =
    (.error (.fault (callFault id (.describeTable name) failure)),
      ⟨state, session.calls ++ [.describeTable name],
        session.log ++ log ++ callFailed id (.describeTable name) failure⟩) := by
  have hrun := run_call (.describeTable name) (reader.describeTable name) session
  rw [hdescribe] at hrun
  unfold readTable Reader.callDescribeTable
  rw [run_bind_of_error (run_guarding_of_error hrun)]

theorem run_readTable_of_described
    (hdescribe : reader.describeTable name session.state = (⟨.ok columns, log⟩, described)) :
    (readTable reader options id name).run session
      =
    ((guarding id (.referencingTables name) (reader.callReferencingTables name)) >>=
      fun references => do
        Reading.say (tableRead id ⟨name, columns, references⟩)
        Reading.say (Table.warnings ⟨name, columns, references⟩ options.strict)
        match Table.types ⟨name, columns, references⟩ options.toTableOptions with
        | .ok types => return types
        | .error fault => throw (.fault (fault.stamp id))).run
      ⟨described, session.calls ++ [.describeTable name], session.log ++ log⟩ := by
  have hrun := run_call (.describeTable name) (reader.describeTable name) session
  rw [hdescribe] at hrun
  unfold readTable Reader.callDescribeTable
  rw [run_bind_of_ok (run_guarding_of_ok hrun)]
  rfl

theorem run_readTable_of_not_referenced
    (hdescribe : reader.describeTable name session.state = (⟨.ok columns, log⟩, described))
    (hrefer : reader.referencingTables name described = (⟨.error failure, referringLog⟩, state)) :
    (readTable reader options id name).run session
      =
    (.error (.fault (callFault id (.referencingTables name) failure)),
      ⟨state, session.calls ++ [.describeTable name, .referencingTables name],
        session.log ++ log ++ referringLog ++
          callFailed id (.referencingTables name) failure⟩) := by
  have hrun := run_call (.referencingTables name) (reader.referencingTables name)
    ⟨described, session.calls ++ [.describeTable name], session.log ++ log⟩
  rw [hrefer, List.append_assoc] at hrun
  rw [run_readTable_of_described hdescribe]
  unfold Reader.callReferencingTables
  rw [run_bind_of_error (run_guarding_of_error hrun)]
  rfl

theorem run_readTable_of_read
    (hdescribe : reader.describeTable name session.state = (⟨.ok columns, log⟩, described))
    (hrefer : reader.referencingTables name described = (⟨.ok references, referringLog⟩, state)) :
    (readTable reader options id name).run session
      =
    (match Table.types ⟨name, columns, references⟩ options.toTableOptions with
      | .ok types => .ok types
      | .error fault => .error (.fault (fault.stamp id)),
      ⟨state, session.calls ++ [.describeTable name, .referencingTables name],
        session.log ++ log ++ referringLog ++ tableRead id ⟨name, columns, references⟩ ++
          Table.warnings ⟨name, columns, references⟩ options.strict⟩) := by
  have hrun := run_call (.referencingTables name) (reader.referencingTables name)
    ⟨described, session.calls ++ [.describeTable name], session.log ++ log⟩
  rw [hrefer, List.append_assoc] at hrun
  rw [run_readTable_of_described hdescribe]
  unfold Reader.callReferencingTables
  rw [run_bind_of_ok (run_guarding_of_ok hrun)]
  rw [run_bind_of_ok (run_say _ _), run_bind_of_ok (run_say _ _)]
  dsimp only
  cases Table.types ⟨name, columns, references⟩ options.toTableOptions with
  | ok types => rfl
  | error fault => rfl

theorem run_beginWith_of_begun {database : String}
    (hbegin : reader.begin database session.state = (⟨.ok (), log⟩, state)) :
    (beginWith reader id database).run session
      =
    (.ok (), ⟨state, session.calls ++ [.begin database], session.log ++ log⟩) := by
  have hrun := run_call (.begin database) (reader.begin database) session
  rw [hbegin] at hrun
  unfold beginWith Reader.callBegin
  rw [run_bind_of_ok (run_observe _ session), hrun]
  rfl

/-- A reader that did not begin is released, and a failure to release it is what is left to tell. -/
theorem run_beginWith_of_not_begun {database : String}
    (hbegin : reader.begin database session.state = (⟨.error failure, log⟩, state)) :
    (beginWith reader id database).run session
      =
    (match (reader.finish state).1.outcome with
      | .ok () => .error (.fault (callFault id (.begin database) failure))
      | .error last => .error last,
      ⟨(reader.finish state).2, session.calls ++ [.begin database] ++ [.finish],
        session.log ++ log ++ callFailed id (.begin database) failure ++
          (reader.finish state).1.log⟩) := by
  have hrun := run_call (.begin database) (reader.begin database) session
  rw [hbegin] at hrun
  unfold beginWith Reader.callBegin Reader.callFinish
  rw [run_bind_of_ok (run_observe _ session), hrun]
  dsimp only
  rw [run_bind_of_ok (run_say _ _)]
  have hfinish := run_call .finish reader.finish
    ⟨state, session.calls ++ [.begin database],
      session.log ++ log ++ callFailed id (.begin database) failure⟩
  dsimp only at hfinish
  generalize reader.finish state = answer at *
  rcases answer with ⟨⟨last | _, _⟩, _⟩
  . rw [run_bind_of_error hfinish]
  . rw [run_bind_of_ok hfinish]
    rfl

theorem run_checkDocument (options : BuildOptions) (id : String) (document : Document)
    (session : Session σ) :
    (checkDocument options id document).run session
      =
    if options.validate then
      match document.failure? with
      | none => (.ok (), session)
      | some (.fault fault) =>
        (.error (.fault (fault.stamp id)),
          { session with log := session.log ++ validationFailed id fault })
      | some failure => (.error failure, session)
    else
      (.ok (), session) := by
  unfold checkDocument
  cases options.validate with
  | false => rfl
  | true =>
    rcases document.failure? with _ | ⟨fault⟩ | ⟨className, text⟩
    . rfl
    . rfl
    . rfl

theorem run_assemble_of_empty (options : BuildOptions) (id database : String) (session : Session σ) :
    (assemble options id database []).run session
      =
    (.error (.fault ((emptyFault database).stamp id)), session) := by
  rfl

theorem run_assemble (options : BuildOptions) (id database : String) {tables : List TableTypes}
    (htables : tables ≠ []) (session : Session σ) :
    (assemble options id database tables).run session
      =
    let document := Document.ofTables tables
    match (checkDocument options id document).run
      { session with log := session.log ++ [Document.assembled tables] } with
    | (.error failure, session) => (.error failure, session)
    | (.ok (), session) =>
      (.ok ⟨database, tables, document⟩,
        { session with
          log := session.log ++ progress id .info
            ("Built schema with " ++ toString document.length ++ " definitions for " ++
              toString tables.length ++ " tables") }) := by
  cases tables with
  | nil => contradiction
  | cons types tables =>
    unfold assemble
    dsimp only
    rw [if_neg (by simp)]
    rw [run_bind_of_ok (run_say _ _), run_bind]
    split
    . next hcheck =>
      rw [hcheck]
      rfl
    . next hcheck =>
      rw [hcheck]

end Build
end TableGraph
