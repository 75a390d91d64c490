import TableGraph.Proofs.Build.Steps
import TableGraph.Proofs.Reader.Plan

/-!
The calls of a build: it begins with the database and, if that succeeds, lists the tables and reads them
one after the other up to the first call or table that ends the build. Whatever happens, the last call
releases the reader, and no other call does.
-/

namespace TableGraph
namespace Build

open Reading

variable {σ α β : Type} {reader : Reader σ} {options : TableOptions} {plan rest made : List ReaderCall}
  {session : Session σ}

/-- What was run in a session made the calls of a plan as far as one can go on, and it failed exactly if
one cannot go on after them. -/
structure Follows (reader : Reader σ) (options : TableOptions) (plan made : List ReaderCall)
    (session : Session σ) (result : Except Failure α × Session σ) : Prop where
  state_eq : result.2.state = reader.afterAll made session.state
  calls_eq : result.2.calls = session.calls ++ made
  cut : CutAfterFirst (reader.Halts options session.state) plan made
  halts_iff : reader.Halts options session.state made ↔ ∃ failure, result.1 = .error failure

theorem Follows.bind {program : Reading σ α} {next : α → Reading σ β}
    (hfirst : Follows reader options plan made session (program.run session))
    (hplan : ∀ table earlier, plan ≠ earlier ++ [.describeTable table])
    (hnext : ∀ value after, program.run session = (.ok value, after) →
      ∃ made, Follows reader options rest made after ((next value).run after)) :
    ∃ made, Follows reader options (plan ++ rest) made session ((program >>= next).run session) := by
  generalize hrun : program.run session = result at hfirst
  rcases result with ⟨failure | value, after⟩
  . -- nothing of the second plan is reached, so the calls of the first are all that is made
    rw [run_bind_of_error hrun]
    have hhalts := hfirst.halts_iff.mpr ⟨failure, rfl⟩
    exact ⟨made, hfirst.state_eq, hfirst.calls_eq, hfirst.cut.of_halts hhalts, by simpa using hhalts⟩
  . rw [run_bind_of_ok hrun]
    have hgoesOn : ¬reader.Halts options session.state made := by
      rw [hfirst.halts_iff]
      simp
    obtain rfl := hfirst.cut.complete.resolve_right hgoesOn
    obtain ⟨later, hlater⟩ := hnext value after hrun
    have hstate : after.state = reader.afterAll made session.state := hfirst.state_eq
    refine ⟨made ++ later, ?_, ?_, ?_, ?_⟩
    . rw [hlater.state_eq, hstate, Reader.afterAll_append]
    . rw [hlater.calls_eq, ← List.append_assoc]
      exact congrArg (· ++ later) hfirst.calls_eq
    . apply hfirst.cut.append hgoesOn hlater.cut (Reader.not_halts_nil _)
      intro calls hcalls
      rw [hstate]
      exact Reader.halts_append hplan hcalls
    . rw [← hlater.halts_iff, hstate]
      -- `halts_append` is about what follows the first plan, so there has to be something
      by_cases hcalls : later = []
      . rw [hcalls, List.append_nil]
        simp [hgoesOn, Reader.not_halts_nil]
      . exact Reader.halts_append hplan hcalls

theorem Follows.map {program : Reading σ α} (f : α → β)
    (hprogram : Follows reader options plan made session (program.run session)) :
    Follows reader options plan made session ((do return f (← program)).run session) := by
  generalize hrun : program.run session = result at hprogram
  rcases result with ⟨failure | value, after⟩
  . rw [run_bind_of_error hrun]
    exact ⟨hprogram.state_eq, hprogram.calls_eq, hprogram.cut, by simpa using hprogram.halts_iff⟩
  . rw [run_bind_of_ok hrun, run_pure]
    exact ⟨hprogram.state_eq, hprogram.calls_eq, hprogram.cut, by simpa using hprogram.halts_iff⟩

def tableCalls (table : String) : List ReaderCall :=
  [.describeTable table, .referencingTables table]

theorem tableCalls_ne_describeTable (table other : String) (earlier : List ReaderCall) :
    tableCalls table ≠ earlier ++ [.describeTable other] := by
  intro heq
  have hlast := congrArg List.getLast? heq
  simp [tableCalls] at hlast

theorem cutAfterFirst_singleton {state : σ} (call : ReaderCall) :
    CutAfterFirst (reader.Halts options state) [call] [call] where
  isPrefix := List.prefix_rfl
  goesOn := by
    intro before hstart hne
    rcases List.prefix_cons_iff.mp hstart with rfl | ⟨tail, rfl, htail⟩
    . apply Reader.not_halts_nil
    . rw [List.prefix_nil.mp htail] at hne
      contradiction
  complete := .inl rfl

theorem cutAfterFirst_tableCalls {state : σ} {table : String}
    (hdescribed : ¬reader.Halts options state [.describeTable table]) :
    CutAfterFirst (reader.Halts options state) (tableCalls table) (tableCalls table) where
  isPrefix := List.prefix_rfl
  goesOn := by
    intro before hstart hne
    rcases List.prefix_cons_iff.mp hstart with rfl | ⟨tail, rfl, htail⟩
    . apply Reader.not_halts_nil
    . rcases List.prefix_cons_iff.mp htail with rfl | ⟨last, rfl, hlast⟩
      . exact hdescribed
      . rw [List.prefix_nil.mp hlast] at hne
        contradiction
  complete := .inl rfl

theorem readTable_follows (reader : Reader σ) (options : BuildOptions) (id table : String)
    (session : Session σ) :
    ∃ made, Follows reader options.toTableOptions (tableCalls table) made session
      ((readTable reader options id table).run session) := by
  rcases hdescribe : reader.describeTable table session.state with ⟨⟨failure | columns, log⟩, described⟩
  . rw [run_readTable_of_not_described hdescribe]
    have hhalts : reader.Halts options.toTableOptions session.state [.describeTable table] := by
      simp [Reader.halts_singleton, Reader.failure?, Reader.failure?.failureOf, hdescribe]
    refine ⟨[.describeTable table], ?_, rfl, ?_, ?_⟩
    . simp [Reader.afterAll, Reader.after, hdescribe]
    . exact (cutAfterFirst_singleton _).of_halts hhalts
    . simp [hhalts]
  . have hafter : reader.after (.describeTable table) session.state = described := by
      simp [Reader.after, hdescribe]
    have hgoesOn : ¬reader.Halts options.toTableOptions session.state [.describeTable table] := by
      simp [Reader.halts_singleton, Reader.failure?, Reader.failure?.failureOf, hdescribe]
    rcases hrefer : reader.referencingTables table described with ⟨⟨failure | references, log⟩, state⟩
    . rw [run_readTable_of_not_referenced hdescribe hrefer]
      refine ⟨tableCalls table, ?_, rfl, cutAfterFirst_tableCalls hgoesOn, ?_⟩
      . simp [tableCalls, Reader.afterAll, Reader.after, hdescribe, hrefer]
      . unfold tableCalls
        rw [Reader.halts_described, hafter]
        simp [Reader.failure?, Reader.failure?.failureOf, hrefer]
    . -- both calls succeed, and whether one can go on is up to the types of the table
      rw [run_readTable_of_read hdescribe hrefer]
      refine ⟨tableCalls table, ?_, rfl, cutAfterFirst_tableCalls hgoesOn, ?_⟩
      . simp [tableCalls, Reader.afterAll, Reader.after, hdescribe, hrefer]
      . unfold tableCalls
        rw [Reader.halts_described, hafter]
        unfold Reader.Refuses
        rw [hdescribe, hafter, hrefer]
        cases htypes : Table.types ⟨table, columns, references⟩ options.toTableOptions with
        | ok types => simp [Reader.failure?, Reader.failure?.failureOf, hrefer, htypes]
        | error fault => simp [htypes]

theorem readEach_follows (reader : Reader σ) (options : BuildOptions) (id : String) (tables : List String)
    (session : Session σ) :
    ∃ made, Follows reader options.toTableOptions (tables.flatMap tableCalls) made session
      ((readEach reader options id tables).run session) := by
  induction tables generalizing session with
  | nil =>
    unfold readEach
    refine ⟨[], rfl, (List.append_nil _).symm, .nil, ?_⟩
    simp [run_pure, Reader.not_halts_nil]
  | cons table tables ih =>
    obtain ⟨made, hfirst⟩ := readTable_follows reader options id table session
    unfold readEach
    rw [List.flatMap_cons]
    apply hfirst.bind
    . exact tableCalls_ne_describeTable table
    . intro types after _
      obtain ⟨later, hrest⟩ := ih after
      exact ⟨later, hrest.map _⟩

theorem guarding_follows {id : String} {call : ReaderCall} {answer : σ → Reply α × σ}
    (hafter : reader.after call session.state = (answer session.state).2)
    (hfailure : reader.failure? call session.state =
      Reader.failure?.failureOf (answer session.state).1.outcome) :
    Follows reader options [call] [call] session ((guarding id call (.call call answer)).run session) := by
  have hrun := run_call call answer session
  generalize answer session.state = result at *
  rcases result with ⟨⟨failure | value, log⟩, state⟩
  . rw [run_guarding_of_error hrun]
    refine ⟨hafter.symm, rfl, cutAfterFirst_singleton call, ?_⟩
    rw [Reader.halts_singleton, hfailure]
    simp [Reader.failure?.failureOf]
  . rw [run_guarding_of_ok hrun]
    refine ⟨hafter.symm, rfl, cutAfterFirst_singleton call, ?_⟩
    rw [Reader.halts_singleton, hfailure]
    simp [Reader.failure?.failureOf]

theorem readTables_follows (reader : Reader σ) (options : BuildOptions) (id database : String)
    (session : Session σ) :
    ∃ made, Follows reader options.toTableOptions
      (.listTables database :: (reader.listed database session.state).flatMap tableCalls) made session
      ((readTables reader options id database).run session) := by
  unfold readTables Reader.callListTables
  rw [← List.singleton_append]
  apply (guarding_follows rfl rfl).bind
  . simp [List.singleton_eq_append_iff]
  . intro names after hrun
    have hlisted : reader.listed database session.state = names := by
      have hcall := run_call (.listTables database) (reader.listTables database) session
      unfold Reader.listed
      generalize reader.listTables database session.state = answer at *
      rcases answer with ⟨⟨failure | listed, log⟩, state⟩
      . rw [run_guarding_of_error hcall] at hrun
        cases hrun
      . rw [run_guarding_of_ok hcall] at hrun
        cases hrun
        rfl
    rw [hlisted]
    apply readEach_follows

theorem checkDocument_calls (options : BuildOptions) (id : String) (document : Document)
    (session : Session σ) :
    ((checkDocument options id document).run session).2.calls = session.calls := by
  rw [run_checkDocument]
  split
  . split
    . rfl
    . rfl
    . rfl
  . rfl

theorem assemble_calls (options : BuildOptions) (id database : String) (tables : List TableTypes)
    (session : Session σ) :
    ((assemble options id database tables).run session).2.calls = session.calls := by
  by_cases htables : tables = []
  . rw [htables, run_assemble_of_empty]
  . rw [run_assemble options id database htables]
    have hcheck := checkDocument_calls options id (Document.ofTables tables)
      { session with log := session.log ++ [Document.assembled tables] }
    dsimp only
    split
    . next heq =>
      rw [heq] at hcheck
      exact hcheck
    . next heq =>
      rw [heq] at hcheck
      exact hcheck

theorem finish_not_mem {database : String} {tables : List String}
    (hstart : made <+: .listTables database :: tables.flatMap tableCalls) : .finish ∉ made := by
  intro hmem
  have hplan := hstart.subset hmem
  simp [tableCalls] at hplan

end Build
end TableGraph
