import TableGraph.Proofs.Build.Steps
import TableGraph.Proofs.Reader.Log

/-!
The log of a build: every line that a build writes about its own progress begins with its correlation id.
-/

namespace TableGraph

namespace Build

open Reading

variable {σ α : Type} {reader : Reader σ} {id : String}

/-- What is asked of the lines of a build is true of all that it may write. -/
structure Admits (reader : Reader σ) (id : String) (strict : Bool) (p : LogLine → Prop) : Prop where
  logs : ∀ {line}, reader.Logs line → p line
  progress : ∀ {level}, level ≠ .warning → ∀ message, ∀ line ∈ progress id level message, p line
  warnings : ∀ table : Table, ∀ line ∈ table.warnings strict, p line
  assembled : ∀ tables, p (Document.assembled tables)

namespace Admits

variable {options : BuildOptions} {p : LogLine → Prop} (hp : Admits reader id options.strict p)

include hp

theorem callBegin (database : String) : Writes p (reader.callBegin database) :=
  .call fun state _ hline => hp.logs ⟨.begin database, state, hline⟩

theorem callListTables (database : String) : Writes p (reader.callListTables database) :=
  .call fun state _ hline => hp.logs ⟨.listTables database, state, hline⟩

theorem callDescribeTable (table : String) : Writes p (reader.callDescribeTable table) :=
  .call fun state _ hline => hp.logs ⟨.describeTable table, state, hline⟩

theorem callReferencingTables (table : String) : Writes p (reader.callReferencingTables table) :=
  .call fun state _ hline => hp.logs ⟨.referencingTables table, state, hline⟩

theorem callFinish : Writes p reader.callFinish :=
  .call fun state _ hline => hp.logs ⟨.finish, state, hline⟩

theorem guarding (made : ReaderCall) {program : Reading σ α} (hprogram : Writes p program) :
    Writes p (guarding id made program) := by
  unfold Build.guarding
  apply Writes.bind hprogram.observe
  intro outcome
  cases outcome with
  | ok answer => apply Writes.pure
  | error failure =>
    apply Writes.bind
    . exact .say (hp.progress (by simp) _)
    . intro _
      apply Writes.throw

theorem readTable (name : String) : Writes p (readTable reader options id name) := by
  unfold Build.readTable
  apply Writes.bind (hp.guarding _ (hp.callDescribeTable name))
  intro columns
  apply Writes.bind (hp.guarding _ (hp.callReferencingTables name))
  intro references
  apply Writes.bind (.say (hp.progress (by simp) _))
  intro _
  apply Writes.bind (.say (hp.warnings _))
  intro _
  split
  . apply Writes.pure
  . apply Writes.throw

theorem readEach (names : List String) : Writes p (readEach reader options id names) := by
  induction names with
  | nil => apply Writes.pure
  | cons name names ih =>
    unfold Build.readEach
    apply Writes.bind (hp.readTable name)
    intro types
    apply Writes.bind ih
    intro rest
    apply Writes.pure

theorem readTables (database : String) : Writes p (readTables reader options id database) := by
  unfold Build.readTables
  apply Writes.bind (hp.guarding _ (hp.callListTables database))
  intro names
  apply hp.readEach

theorem beginWith (database : String) : Writes p (beginWith reader id database) := by
  unfold Build.beginWith
  apply Writes.bind (hp.callBegin database).observe
  intro outcome
  cases outcome with
  | ok _ => apply Writes.pure
  | error failure =>
    apply Writes.bind (.say (hp.progress (by simp) _))
    intro _
    apply Writes.bind hp.callFinish
    intro _
    apply Writes.throw

theorem checkDocument (document : Document) :
    Writes p (checkDocument options id document : Reading σ Unit) := by
  unfold Build.checkDocument
  split
  . split
    . apply Writes.pure
    . apply Writes.bind (.say (hp.progress (by simp) _))
      intro _
      apply Writes.throw
    . apply Writes.throw
  . apply Writes.pure

theorem assemble (database : String) (tables : List TableTypes) :
    Writes p (assemble options id database tables : Reading σ Build) := by
  cases tables with
  | nil =>
    intro session
    rw [run_assemble_of_empty]
    exact ⟨[], (List.append_nil _).symm, by simp⟩
  | cons types tables =>
    unfold Build.assemble
    rw [if_neg (by simp)]
    apply Writes.bind
    . apply Writes.say
      rw [List.forall_mem_singleton]
      apply hp.assembled
    . intro _
      apply Writes.bind (hp.checkDocument _)
      intro _
      apply Writes.bind (.say (hp.progress (by simp) _))
      intro _
      apply Writes.pure

variable (options) in
theorem run (database : String) (session : Session σ) :
    ∃ lines,
      ((run reader options id database).run session).2.log =
        session.log ++ Build.progress id .info ("Building schema for database '" ++ database ++ "'") ++ lines ∧
      ∀ line ∈ lines, p line := by
  have hwrites : Writes p (do
      Build.beginWith reader id database
      let tables ← (Build.readTables reader options id database).thenFinally reader.callFinish
      Build.assemble options id database tables) := by
    apply Writes.bind (hp.beginWith database)
    intro _
    apply Writes.bind ((hp.readTables database).thenFinally hp.callFinish)
    intro tables
    apply hp.assemble
  unfold Build.run
  rw [run_bind_of_ok (run_say _ session)]
  exact hwrites _

end Admits

variable (reader id) (options : BuildOptions) (database : String) (session : Session σ)

end Build
end TableGraph
