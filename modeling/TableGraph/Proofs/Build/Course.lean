import TableGraph.Proofs.Build.Calls
import TableGraph.Proofs.TableTypes

/-!
The course of a build, told by the answers of its reader. A build opens its database, has each table
described, makes the types of each and checks their document; it succeeds if nothing goes wrong on the way,
and otherwise it ends with the first thing that does. A failure to release the reader goes before both.
-/

namespace TableGraph

namespace Reader

variable {σ : Type}

structure DescribesTable (reader : Reader σ) (state : σ) (table : Table) : Prop where
  columns : (reader.describeTable table.name state).1.outcome = .ok table.columns
  references :
    (reader.referencingTables table.name (reader.after (.describeTable table.name) state)).1.outcome =
      .ok table.references

def afterTables (reader : Reader σ) (tables : List Table) (state : σ) : σ :=
  reader.afterAll ((tables.map (·.name)).flatMap Build.tableCalls) state

def Describes (reader : Reader σ) : σ → List Table → Prop
  | _, [] => True
  | state, table :: tables =>
    reader.DescribesTable state table ∧ reader.Describes (reader.afterTables [table] state) tables

structure Opens (reader : Reader σ) (database : String) (state : σ) (names : List String) : Prop where
  begun : reader.failure? (.begin database) state = none
  listed : (reader.listTables database (reader.after (.begin database) state)).1.outcome = .ok names

def opened (reader : Reader σ) (database : String) (state : σ) : σ :=
  reader.afterAll [.begin database, .listTables database] state

theorem afterTables_cons (reader : Reader σ) (table : Table) (tables : List Table) (state : σ) :
    reader.afterTables (table :: tables) state
      =
    reader.afterTables tables (reader.afterTables [table] state) := by
  unfold afterTables
  rw [List.map_cons, List.flatMap_cons, afterAll_append]
  rfl

end Reader

namespace Build

inductive Cause where
  | call (made : ReaderCall) (failure : Failure)
  | table (fault : Fault)
  | noTables
  | document (failure : Failure)

def Cause.failure (id database : String) : Cause → Failure
  | .call made failure => .fault (callFault id made failure)
  | .table fault => .fault (fault.stamp id)
  | .noTables => .fault ((emptyFault database).stamp id)
  | .document (.fault fault) => .fault (fault.stamp id)
  | .document failure => failure

section Causes

variable {σ : Type} (reader : Reader σ)

inductive TableCause (options : TableOptions) (state : σ) (name : String) : Cause → Prop
  | describe {failure : Failure}
      (hfailure : reader.failure? (.describeTable name) state = some failure) :
      TableCause options state name (.call (.describeTable name) failure)
  | refer {failure : Failure}
      (hdescribed : reader.failure? (.describeTable name) state = none)
      (hfailure : reader.failure? (.referencingTables name) (reader.after (.describeTable name) state) =
        some failure) :
      TableCause options state name (.call (.referencingTables name) failure)
  | refuse {table : Table} {fault : Fault} (hname : table.name = name)
      (hdescribed : reader.DescribesTable state table) (htypes : table.types options = .error fault) :
      TableCause options state name (.table fault)

/-- What goes wrong first when tables are read in order: all before a certain one are described and
accepted, and that one is not. -/
inductive TablesCause (options : TableOptions) (state : σ) : List String → Cause → Prop
  | mk (earlier : List Table) {types : List TableTypes} {name : String} {later : List String}
      {cause : Cause} (hdescribed : reader.Describes state earlier)
      (haccepted : earlier.mapM (·.types options) = .ok types)
      (hcause : TableCause reader options (reader.afterTables earlier state) name cause) :
      TablesCause options state (earlier.map (·.name) ++ name :: later) cause

structure Reads (options : TableOptions) (database : String) (state : σ) (tables : List Table)
    (types : List TableTypes) : Prop where
  opens : reader.Opens database state (tables.map (·.name))
  described : reader.Describes (reader.opened database state) tables
  accepted : tables.mapM (·.types options) = .ok types

/-- What goes wrong first in a build: a call, or a table that is refused; or, after all tables were described
and accepted, that there is none, or that their document is refused. -/
inductive FirstCause (options : BuildOptions) (database : String) (state : σ) : Cause → Prop
  | begin {failure : Failure} (hfailure : reader.failure? (.begin database) state = some failure) :
      FirstCause options database state (.call (.begin database) failure)
  | list {failure : Failure} (hbegun : reader.failure? (.begin database) state = none)
      (hfailure : reader.failure? (.listTables database) (reader.after (.begin database) state) =
        some failure) :
      FirstCause options database state (.call (.listTables database) failure)
  | table {names : List String} {cause : Cause} (hopens : reader.Opens database state names)
      (hcause : TablesCause reader options.toTableOptions (reader.opened database state) names cause) :
      FirstCause options database state cause
  | noTables (hopens : reader.Opens database state []) : FirstCause options database state .noTables
  | document {tables : List Table} {types : List TableTypes} {failure : Failure}
      (hreads : Reads reader options.toTableOptions database state tables types) (htables : tables ≠ [])
      (hvalidate : options.validate = true)
      (hfailure : (Document.ofTables types).failure? = some failure) :
      FirstCause options database state (.document failure)

structure Completes (options : BuildOptions) (database : String) (state : σ) (tables : List Table)
    (types : List TableTypes) : Prop extends
    Reads reader options.toTableOptions database state tables types where
  nonempty : tables ≠ []
  checked : options.validate = true → (Document.ofTables types).failure? = none

/-- An outcome follows from the answers of the reader alone: it is told by what goes wrong first, or else by
the tables. -/
structure Settles (options : BuildOptions) (id database : String) (state : σ)
    (outcome : Except Failure Build) : Prop where
  failed : ∀ {cause}, FirstCause reader options database state cause →
    outcome = .error (cause.failure id database)
  completed : ∀ {tables types}, Completes reader options database state tables types →
    outcome = .ok ⟨database, types, .ofTables types⟩

end Causes

open Reading

variable {σ : Type} {reader : Reader σ} {session : Session σ}

theorem Reads.types_ne_nil {options : TableOptions} {database : String} {state : σ} {tables : List Table}
    {types : List TableTypes} (hreads : Reads reader options database state tables types)
    (htables : tables ≠ []) : types ≠ [] := by
  obtain ⟨-, rfl⟩ := Table.mapM_types_eq_ok_iff.mp hreads.accepted
  simpa using htables

section Tables

variable (options : BuildOptions) (id : String)

theorem readTable_of_describes {table : Table} (htable : reader.DescribesTable session.state table) :
    ∃ after,
      (readTable reader options id table.name).run session
        =
      (match table.types options.toTableOptions with
        | .ok types => .ok types
        | .error fault => .error (.fault (fault.stamp id)), after) ∧
      after.state = reader.afterTables [table] session.state := by
  have hcolumns := htable.columns
  have hreferences := htable.references
  rcases hdescribe : reader.describeTable table.name session.state with ⟨⟨outcome, log⟩, described⟩
  have hafter : reader.after (.describeTable table.name) session.state = described :=
    congrArg Prod.snd hdescribe
  rw [hdescribe] at hcolumns
  cases hcolumns
  rcases hrefer : reader.referencingTables table.name described with ⟨⟨outcome, referringLog⟩, state⟩
  rw [hafter, hrefer] at hreferences
  cases hreferences
  refine ⟨_, run_readTable_of_read hdescribe hrefer, ?_⟩
  simp [Reader.afterTables, Reader.afterAll, Reader.after, tableCalls, hdescribe, hrefer]

theorem readTable_of_cause (database : String) {name : String} {cause : Cause}
    (hcause : TableCause reader options.toTableOptions session.state name cause) :
    ((readTable reader options id name).run session).1 = .error (cause.failure id database) := by
  cases hcause with
  | describe hfailure =>
    have hanswer := Reader.failureOf_eq_some_iff.mp hfailure
    rcases hdescribe : reader.describeTable name session.state with ⟨⟨outcome, log⟩, described⟩
    rw [hdescribe] at hanswer
    cases hanswer
    rw [run_readTable_of_not_described hdescribe]
    rfl
  | refer hdescribed hfailure =>
    obtain ⟨columns, hcolumns⟩ := Reader.failureOf_eq_none_iff.mp hdescribed
    rcases hdescribe : reader.describeTable name session.state with ⟨⟨outcome, log⟩, described⟩
    have hafter : reader.after (.describeTable name) session.state = described :=
      congrArg Prod.snd hdescribe
    rw [hdescribe] at hcolumns
    cases hcolumns
    rw [hafter] at hfailure
    have hanswer := Reader.failureOf_eq_some_iff.mp hfailure
    rcases hrefer : reader.referencingTables name described with ⟨⟨outcome, referringLog⟩, state⟩
    rw [hrefer] at hanswer
    cases hanswer
    rw [run_readTable_of_not_referenced hdescribe hrefer]
    rfl
  | refuse hname hdescribed htypes =>
    obtain ⟨after, hrun, -⟩ := readTable_of_describes options id hdescribed
    rw [hname, htypes] at hrun
    rw [hrun]
    rfl

theorem readEach_append {earlier : List Table} {types : List TableTypes}
    (hdescribed : reader.Describes session.state earlier)
    (haccepted : earlier.mapM (·.types options.toTableOptions) = .ok types) (names : List String) :
    ∃ after : Session σ,
      after.state = reader.afterTables earlier session.state ∧
      ((readEach reader options id (earlier.map (·.name) ++ names)).run session).1
        =
      ((readEach reader options id names).run after).1.map (types ++ ·) := by
  obtain ⟨hfaults, rfl⟩ := Table.mapM_types_eq_ok_iff.mp haccepted
  clear haccepted
  induction earlier generalizing session with
  | nil =>
    refine ⟨session, rfl, ?_⟩
    rw [List.map_nil, List.nil_append]
    cases ((readEach reader options id names).run session).1 with
    | ok rest => rfl
    | error failure => rfl
  | cons table earlier ih =>
    obtain ⟨htable, hrest⟩ := hdescribed
    rw [List.forall_mem_cons] at hfaults
    obtain ⟨middle, hrun, hmiddle⟩ := readTable_of_describes options id htable
    rw [Table.types_eq_ok_iff.mpr ⟨hfaults.left, rfl⟩] at hrun
    rw [← hmiddle] at hrest
    obtain ⟨after, hafter, hlater⟩ := ih hrest hfaults.right
    refine ⟨after, ?_, ?_⟩
    . rw [hafter, hmiddle, ← Reader.afterTables_cons]
    . rw [List.map_cons, List.cons_append, readEach, run_bind_of_ok hrun, run_map, hlater]
      cases ((readEach reader options id names).run after).1 with
      | ok rest => rfl
      | error failure => rfl

theorem readEach_of_describes {tables : List Table} {types : List TableTypes}
    (hdescribed : reader.Describes session.state tables)
    (haccepted : tables.mapM (·.types options.toTableOptions) = .ok types) :
    ((readEach reader options id (tables.map (·.name))).run session).1 = .ok types := by
  obtain ⟨after, -, hrun⟩ := readEach_append options id hdescribed haccepted []
  rw [List.append_nil] at hrun
  rw [hrun]
  exact congrArg Except.ok (List.append_nil types)

theorem readEach_of_cause (database : String) {names : List String} {cause : Cause}
    (hcause : TablesCause reader options.toTableOptions session.state names cause) :
    ((readEach reader options id names).run session).1 = .error (cause.failure id database) := by
  obtain ⟨earlier, hdescribed, haccepted, hcause⟩ := hcause
  obtain ⟨after, hafter, hrun⟩ := readEach_append options id hdescribed haccepted (_ :: _)
  rw [← hafter] at hcause
  have htable := readTable_of_cause options id database hcause
  rw [hrun, readEach, run_bind]
  generalize (readTable reader options id _).run after = result at htable
  obtain ⟨outcome, rest⟩ := result
  cases htable
  rfl

theorem describes_or_cause (reader : Reader σ) (options : TableOptions) (names : List String) (state : σ) :
    (∃ tables types, names = tables.map Table.name ∧ reader.Describes state tables ∧
      tables.mapM (·.types options) = .ok types) ∨
    ∃ cause, TablesCause reader options state names cause := by
  induction names generalizing state with
  | nil => exact .inl ⟨[], [], rfl, trivial, rfl⟩
  | cons name names ih =>
    have hfirst : ∀ {cause}, TableCause reader options state name cause →
        TablesCause reader options state (name :: names) cause :=
      fun hcause => .mk [] trivial rfl hcause
    cases hdescribe : reader.failure? (.describeTable name) state with
    | some failure => exact .inr ⟨_, hfirst (.describe hdescribe)⟩
    | none =>
      cases hrefer : reader.failure? (.referencingTables name)
          (reader.after (.describeTable name) state) with
      | some failure => exact .inr ⟨_, hfirst (.refer hdescribe hrefer)⟩
      | none =>
        obtain ⟨columns, hcolumns⟩ := Reader.failureOf_eq_none_iff.mp hdescribe
        obtain ⟨references, hreferences⟩ := Reader.failureOf_eq_none_iff.mp hrefer
        let table : Table := ⟨name, columns, references⟩
        have htable : reader.DescribesTable state table := ⟨hcolumns, hreferences⟩
        cases htypes : table.types options with
        | error fault => exact .inr ⟨_, hfirst (.refuse rfl htable htypes)⟩
        | ok first =>
          rcases ih (reader.afterTables [table] state) with
            ⟨tables, types, rfl, hdescribed, haccepted⟩ | ⟨cause, earlier, hdescribed, haccepted, hcause⟩
          . left
            exact ⟨table :: tables, first :: types, rfl, ⟨htable, hdescribed⟩,
              Table.mapM_types_cons htypes haccepted⟩
          . right
            rw [← Reader.afterTables_cons] at hcause
            exact ⟨cause, .mk (table :: earlier) ⟨htable, hdescribed⟩
              (Table.mapM_types_cons htypes haccepted) hcause⟩

end Tables

section Outcome

variable (options : BuildOptions) (id : String) {database : String}

theorem readTables_of_not_listed {failure : Failure} {started : Session σ}
    (hlisted : (reader.listTables database started.state).1.outcome = .error failure) :
    ((readTables reader options id database).run started).1
      =
    .error ((Cause.call (.listTables database) failure).failure id database) := by
  have hcall := run_call (.listTables database) (reader.listTables database) started
  rw [hlisted] at hcall
  exact congrArg Prod.fst (run_bind_of_error (run_guarding_of_error hcall))

theorem assemble_fst (tables : List TableTypes) (session : Session σ) :
    ((assemble options id database tables).run session).1
      =
    if tables = [] then
      .error (Cause.noTables.failure id database)
    else
      match if options.validate then (Document.ofTables tables).failure? else none with
      | none => .ok ⟨database, tables, .ofTables tables⟩
      | some failure => .error ((Cause.document failure).failure id database) := by
  by_cases htables : tables = []
  . rw [if_pos htables, htables, run_assemble_of_empty]
    rfl
  . rw [if_neg htables, run_assemble options id database htables]
    dsimp only
    rw [run_checkDocument]
    cases options.validate with
    | false => rfl
    | true =>
      rcases (Document.ofTables tables).failure? with _ | ⟨fault⟩ | ⟨className, text⟩
      . rfl
      . rfl
      . rfl

section Read

variable {state : σ} {started : Session σ}
variable (hstarted : started.state = reader.after (.begin database) state)

include hstarted

theorem readTables_of_opens {names : List String} (hopens : reader.Opens database state names) :
    ∃ listing : Session σ,
      listing.state = reader.opened database state ∧
      (readTables reader options id database).run started
        =
      (readEach reader options id names).run listing := by
  have hlisted := hopens.listed
  rw [← hstarted] at hlisted
  have hcall := run_call (.listTables database) (reader.listTables database) started
  rw [hlisted] at hcall
  refine ⟨_, ?_, run_bind_of_ok (run_guarding_of_ok hcall)⟩
  dsimp only
  rw [hstarted]
  rfl

theorem readTables_of_reads {tables : List Table} {types : List TableTypes}
    (hreads : Reads reader options.toTableOptions database state tables types) :
    ((readTables reader options id database).run started).1 = .ok types := by
  obtain ⟨listing, hlisting, hrun⟩ := readTables_of_opens options id hstarted hreads.opens
  rw [hrun]
  apply readEach_of_describes options id _ hreads.accepted
  rw [hlisting]
  exact hreads.described

theorem readTables_of_cause {names : List String} {cause : Cause}
    (hopens : reader.Opens database state names)
    (hcause : TablesCause reader options.toTableOptions (reader.opened database state) names cause) :
    ((readTables reader options id database).run started).1 = .error (cause.failure id database) := by
  obtain ⟨listing, hlisting, hrun⟩ := readTables_of_opens options id hstarted hopens
  rw [hrun]
  apply readEach_of_cause
  rw [hlisting]
  exact hcause

end Read

theorem run_opening (database : String) (session : Session σ) :
    ∃ opening : Session σ,
      opening.state = session.state ∧
      opening.calls = session.calls ∧
      (run reader options id database).run session
        =
      (do
        beginWith reader id database
        let tables ← (readTables reader options id database).thenFinally reader.callFinish
        assemble options id database tables).run opening := by
  unfold run
  rw [run_bind_of_ok (run_say _ session)]
  refine ⟨_, ?_, ?_, rfl⟩
  . rfl
  . rfl

theorem run_of_not_begun {failure : Failure}
    (hbegin : reader.failure? (.begin database) session.state = some failure) :
    ((run reader options id database).run session).2.calls =
      session.calls ++ [.begin database] ++ [.finish] ∧
    ((run reader options id database).run session).1
      =
    match reader.failure? .finish (reader.after (.begin database) session.state) with
    | some last => .error last
    | none => .error ((Cause.call (.begin database) failure).failure id database) := by
  obtain ⟨opening, hstate, hcalls, hrun⟩ := run_opening options id database session
  rw [hrun, ← hcalls]
  rw [← hstate] at hbegin ⊢
  have hanswer := Reader.failureOf_eq_some_iff.mp hbegin
  rcases hreply : reader.begin database opening.state with ⟨⟨outcome, log⟩, ready⟩
  rw [hreply] at hanswer
  cases hanswer
  have hready : reader.after (.begin database) opening.state = ready := congrArg Prod.snd hreply
  rw [run_bind, run_beginWith_of_not_begun hreply, hready]
  unfold Reader.failure?
  dsimp only
  cases (reader.finish ready).1.outcome with
  | ok => exact ⟨rfl, rfl⟩
  | error => exact ⟨rfl, rfl⟩

theorem run_of_begun (hbegin : reader.failure? (.begin database) session.state = none) :
    ∃ started : Session σ,
      started.state = reader.after (.begin database) session.state ∧
      started.calls = session.calls ++ [.begin database] ∧
      ((run reader options id database).run session).2.calls =
        ((readTables reader options id database).run started).2.calls ++ [.finish] ∧
      ((run reader options id database).run session).1
        =
      match reader.failure? .finish ((readTables reader options id database).run started).2.state with
      | some last => .error last
      | none => ((readTables reader options id database).run started).1 >>= fun tables =>
        ((assemble options id database tables).run started).1 := by
  obtain ⟨opening, hstate, hcalls, hrun⟩ := run_opening options id database session
  rw [hrun, ← hcalls]
  rw [← hstate] at hbegin ⊢
  obtain ⟨⟨⟩, hanswer⟩ := Reader.failureOf_eq_none_iff.mp hbegin
  rcases hreply : reader.begin database opening.state with ⟨⟨outcome, log⟩, ready⟩
  rw [hreply] at hanswer
  cases hanswer
  rw [run_bind_of_ok (run_beginWith_of_begun hreply), run_bind, run_thenFinally]
  refine ⟨⟨ready, opening.calls ++ [.begin database], opening.log ++ log⟩,
    (congrArg Prod.snd hreply).symm, rfl, ?_⟩
  generalize (readTables reader options id database).run _ = reading
  unfold Reader.callFinish Reader.failure?
  dsimp only
  rw [run_call]
  cases (reader.finish reading.2.state).1.outcome with
  | error last => exact ⟨rfl, rfl⟩
  | ok =>
    rcases reading with ⟨failure | tables, after⟩
    . exact ⟨rfl, rfl⟩
    . dsimp only
      rw [assemble_calls]
      refine ⟨rfl, ?_⟩
      -- what assembling comes to does not depend on the session
      exact (assemble_fst options id tables _).trans (assemble_fst options id tables _).symm

theorem settles_of_not_begun {state : σ} {failure : Failure}
    (hbegin : reader.failure? (.begin database) state = some failure) :
    Settles reader options id database state
      (.error ((Cause.call (.begin database) failure).failure id database)) := by
  have hopens : ∀ {names}, ¬reader.Opens database state names := by
    intro names hopens
    have hbegun := hopens.begun
    rw [hbegin] at hbegun
    cases hbegun
  constructor
  . intro cause hcause
    cases hcause with
    | begin hfailure =>
      rw [hbegin] at hfailure
      cases hfailure
      rfl
    | list hbegun =>
      rw [hbegin] at hbegun
      cases hbegun
    | table hnames => exact absurd hnames hopens
    | noTables hnames => exact absurd hnames hopens
    | document hreads => exact absurd hreads.opens hopens
  . intro tables types hcompletes
    exact absurd hcompletes.opens hopens

theorem settles_of_begun {state : σ} (hbegin : reader.failure? (.begin database) state = none)
    {started : Session σ} (hstarted : started.state = reader.after (.begin database) state) :
    Settles reader options id database state
      (((readTables reader options id database).run started).1 >>= fun tables =>
        ((assemble options id database tables).run started).1) := by
  constructor
  . intro cause hcause
    cases hcause with
    | begin hfailure =>
      rw [hbegin] at hfailure
      cases hfailure
    | list _ hfailure =>
      rw [← hstarted] at hfailure
      rw [readTables_of_not_listed options id (Reader.failureOf_eq_some_iff.mp hfailure)]
      rfl
    | table hopens hcause =>
      rw [readTables_of_cause options id hstarted hopens hcause]
      rfl
    | noTables hopens =>
      have hreads : Reads reader options.toTableOptions database state [] [] := ⟨hopens, trivial, rfl⟩
      rw [readTables_of_reads options id hstarted hreads]
      exact assemble_fst options id [] started
    | document hreads htables hvalidate hfailure =>
      rw [readTables_of_reads options id hstarted hreads]
      refine (assemble_fst options id _ started).trans ?_
      rw [if_neg (hreads.types_ne_nil htables), if_pos hvalidate, hfailure]
  . intro tables types hcompletes
    have hcheck : (if options.validate then (Document.ofTables types).failure? else none) = none := by
      split
      . next hvalidate => exact hcompletes.checked hvalidate
      . rfl
    rw [readTables_of_reads options id hstarted hcompletes.toReads]
    refine (assemble_fst options id types started).trans ?_
    rw [if_neg (hcompletes.types_ne_nil hcompletes.nonempty), hcheck]

/--
A build fails as the release of its reader does, if that fails. Otherwise its outcome follows from the
answers of the reader.
-/
theorem run_outcome (reader : Reader σ) (database : String) (session : Session σ) :
    ∃ made,
      ((run reader options id database).run session).2.calls =
        session.calls ++ [.begin database] ++ made ++ [.finish] ∧
      .finish ∉ made ∧
      match reader.failure? .finish (reader.afterAll (.begin database :: made) session.state) with
      | some last => ((run reader options id database).run session).1 = .error last
      | none => Settles reader options id database session.state
          ((run reader options id database).run session).1 := by
  cases hbegin : reader.failure? (.begin database) session.state with
  | some failure =>
    obtain ⟨hcalls, houtcome⟩ := run_of_not_begun options id hbegin
    refine ⟨[], by rw [hcalls, List.append_nil], List.not_mem_nil, ?_⟩
    rw [houtcome]
    change match reader.failure? .finish (reader.after (.begin database) session.state) with
      | some _ => _
      | none => _
    cases reader.failure? .finish (reader.after (.begin database) session.state) with
    | some last => rfl
    | none => exact settles_of_not_begun options id hbegin
  | none =>
    obtain ⟨started, hstarted, hcalls, hlast, houtcome⟩ := run_of_begun options id hbegin
    obtain ⟨made, hmade⟩ := readTables_follows reader options id database started
    have hreleased : ((readTables reader options id database).run started).2.state =
        reader.afterAll (.begin database :: made) session.state := by
      rw [hmade.state_eq, hstarted]
      rfl
    refine ⟨made, by rw [hlast, hmade.calls_eq, hcalls], finish_not_mem hmade.cut.isPrefix, ?_⟩
    rw [houtcome, hreleased]
    cases reader.failure? .finish (reader.afterAll (.begin database :: made) session.state) with
    | some last => rfl
    | none => exact settles_of_begun options id hbegin hstarted

end Outcome

/-- Either nothing goes wrong in a build or something is the first to do so. -/
theorem completes_or_cause (reader : Reader σ) (options : BuildOptions) (database : String) (state : σ) :
    (∃ tables types, Completes reader options database state tables types) ∨
    ∃ cause, FirstCause reader options database state cause := by
  cases hbegin : reader.failure? (.begin database) state with
  | some failure => exact .inr ⟨_, .begin hbegin⟩
  | none =>
    cases hlist : reader.failure? (.listTables database) (reader.after (.begin database) state) with
    | some failure => exact .inr ⟨_, .list hbegin hlist⟩
    | none =>
      obtain ⟨names, hlisted⟩ := Reader.failureOf_eq_none_iff.mp hlist
      have hopens : reader.Opens database state names := ⟨hbegin, hlisted⟩
      rcases describes_or_cause reader options.toTableOptions names (reader.opened database state) with
        ⟨tables, types, rfl, hdescribed, haccepted⟩ | ⟨cause, hcause⟩
      . by_cases htables : tables = []
        . subst htables
          exact .inr ⟨_, .noTables hopens⟩
        . cases hcheck : if options.validate then (Document.ofTables types).failure? else none with
          | some failure =>
            obtain ⟨hvalidate, hfailure⟩ := Option.ite_none_right_eq_some.mp hcheck
            exact .inr ⟨_, .document ⟨hopens, hdescribed, haccepted⟩ htables hvalidate hfailure⟩
          | none =>
            left
            refine ⟨tables, types, ⟨hopens, hdescribed, haccepted⟩, htables, ?_⟩
            intro hvalidate
            rwa [if_pos hvalidate] at hcheck
      . exact .inr ⟨cause, .table hopens hcause⟩

namespace Settles

variable {options : BuildOptions} {id database : String} {state : σ} {outcome : Except Failure Build}
variable (hsettles : Settles reader options id database state outcome)

include hsettles

theorem completes {build : Build} (hbuild : outcome = .ok build) :
    ∃ tables, Completes reader options database state tables build.tables ∧
      build = ⟨database, build.tables, .ofTables build.tables⟩ := by
  rcases completes_or_cause reader options database state with ⟨tables, types, hcompletes⟩ | ⟨cause, hcause⟩
  . rw [hsettles.completed hcompletes] at hbuild
    cases hbuild
    exact ⟨tables, hcompletes, rfl⟩
  . rw [hsettles.failed hcause] at hbuild
    cases hbuild

end Settles

end Build
end TableGraph
