import TableGraph.Proofs.Build.Course
import TableGraph.Proofs.Build.Log
import TableGraph.Proofs.Fault.Table
import TableGraph.Proofs.Reader.Given

/-!
What the options of a build do. They only decide which builds are refused: a build that asks for keys or
checks its document comes, if it returns, to the same as one that does not.
-/

namespace TableGraph

/-- A release fails after the one calls as it does after the other ones. -/
def Reader.ReleasesAlike (reader : Reader σ) (state : σ) (made others : List ReaderCall) : Prop :=
  reader.failure? .finish (reader.afterAll made state) = reader.failure? .finish (reader.afterAll others state)

theorem Reader.describes_append_iff {reader : Reader σ} {earlier later : List Table} {state : σ} :
    reader.Describes state (earlier ++ later)
      ↔
    reader.Describes state earlier ∧ reader.Describes (reader.afterTables earlier state) later := by
  induction earlier generalizing state with
  | nil => exact (iff_of_eq (true_and _)).symm
  | cons table earlier ih =>
    rw [List.cons_append, Reader.Describes, Reader.Describes, ih, and_assoc,
      Reader.afterTables_cons reader table earlier]

theorem Reader.Describes.unique {reader : Reader σ} {tables others : List Table} {state : σ}
    (htables : reader.Describes state tables) (hothers : reader.Describes state others)
    (hnames : tables.map (·.name) = others.map (·.name)) : tables = others := by
  induction tables generalizing others state with
  | nil => exact (List.map_eq_nil_iff.mp hnames.symm).symm
  | cons table tables ih =>
    cases others with
    | nil => cases hnames
    | cons other others =>
      obtain ⟨hname, hrest⟩ := List.cons.inj hnames
      obtain ⟨htable, htables⟩ := htables
      obtain ⟨hother, hothers⟩ := hothers
      have heq : table = other := by
        obtain ⟨name, columns, references⟩ := table
        obtain ⟨otherName, otherColumns, otherReferences⟩ := other
        obtain rfl : name = otherName := hname
        obtain rfl := Except.ok.inj (htable.columns.symm.trans hother.columns)
        obtain rfl := Except.ok.inj (htable.references.symm.trans hother.references)
        rfl
      subst heq
      rw [ih htables hothers hrest]

namespace Build

open Reading

variable {σ : Type} {reader : Reader σ}

/-! What is read under one set of options is read under another one that refuses less. -/

section Carries

variable (reader) (options : BuildOptions) (id : String)

theorem readTable_carries (name : String) :
    Carries (readTable reader { options with strict := true } id name)
      (readTable reader { options with strict := false } id name) := by
  unfold readTable
  apply Carries.bind (.refl _)
  intro columns
  apply Carries.bind (.refl _)
  intro references
  apply Carries.bind (.refl _)
  intro _ session after types hrun
  rw [run_bind_of_ok (run_say _ _)] at hrun ⊢
  dsimp only at hrun ⊢
  generalize Table.mk name columns references = table at hrun ⊢
  cases htypes : table.types { options.toTableOptions with strict := true } with
  | error fault =>
    rw [htypes] at hrun
    cases hrun
  | ok accepted =>
    obtain ⟨hfaults, heq⟩ := Table.types_eq_ok_iff.mp htypes
    obtain ⟨hlenient, hkeyed⟩ := Table.faults_strict_eq_nil_iff.mp hfaults
    have hsame : table.types { options.toTableOptions with strict := false } = .ok accepted :=
      Table.types_eq_ok_iff.mpr ⟨hlenient, heq⟩
    rw [htypes, Table.warnings_of_isKeyed hkeyed] at hrun
    rw [hsame, Table.warnings_of_isKeyed hkeyed]
    exact hrun

theorem readEach_carries (names : List String) :
    Carries (readEach reader { options with strict := true } id names)
      (readEach reader { options with strict := false } id names) := by
  induction names with
  | nil => exact .refl _
  | cons name names ih =>
    unfold readEach
    apply Carries.bind (readTable_carries reader options id name)
    intro types
    exact ih.bind fun _ => .refl _

theorem run_carries (database : String) :
    Carries (run reader { options with strict := true } id database)
      (run reader { options with strict := false } id database) := by
  have htables : Carries (readTables reader { options with strict := true } id database)
      (readTables reader { options with strict := false } id database) := by
    unfold readTables
    exact Carries.bind (.refl _) fun names => readEach_carries reader options id names
  unfold run
  apply Carries.bind (.refl _)
  intro _
  apply Carries.bind (.refl _)
  intro _
  -- the tables are put together and checked without regard to their keys
  exact (htables.thenFinally _).bind fun _ => .refl _

end Carries

theorem Reads.unique {options : TableOptions} {database : String} {state : σ} {tables others : List Table}
    {types otherTypes : List TableTypes} (hreads : Reads reader options database state tables types)
    (hothers : Reads reader options database state others otherTypes) : tables = others :=
  hreads.described.unique hothers.described
    (Except.ok.inj (hreads.opens.listed.symm.trans hothers.opens.listed))

structure Returns (reader : Reader σ) (options : BuildOptions) (database : String) (state : σ)
    (tables : List Table) (build : Build) : Prop extends
    Completes reader options database state tables build.tables where
  released : reader.failure? .finish (reader.afterTables tables (reader.opened database state)) = none
  build_eq : build = ⟨database, build.tables, .ofTables build.tables⟩

section Returns

variable {options : BuildOptions} {id database : String} {session : Session σ} {build : Build}

theorem readTables_state_of_reads {state : σ} {started : Session σ}
    (hstarted : started.state = reader.after (.begin database) state) {tables : List Table}
    {types : List TableTypes} (hreads : Reads reader options.toTableOptions database state tables types) :
    ((readTables reader options id database).run started).2.state =
      reader.afterTables tables (reader.opened database state) := by
  obtain ⟨made, hmade⟩ := readTables_follows reader options id database started
  have hgoesOn : ¬reader.Halts options.toTableOptions started.state made := by
    rw [hmade.halts_iff, readTables_of_reads options id hstarted hreads]
    simp
  obtain rfl := hmade.cut.complete.resolve_right hgoesOn
  have hlisted : reader.listed database started.state = tables.map (·.name) := by
    unfold Reader.listed
    rw [hstarted, hreads.opens.listed]
  rw [hmade.state_eq, hlisted, hstarted]
  rfl

/-- What a build returns depends on the answers of its reader only, not on its id or on earlier builds. -/
theorem run_eq_ok_iff :
    ((run reader options id database).run session).1 = .ok build
      ↔
    ∃ tables, Returns reader options database session.state tables build := by
  cases hbegin : reader.failure? (.begin database) session.state with
  | some failure =>
    constructor
    . intro hrun
      rw [(run_of_not_begun options id hbegin).right] at hrun
      split at hrun
      . cases hrun
      . cases hrun
    . rintro ⟨tables, hreturns⟩
      rw [hreturns.opens.begun] at hbegin
      cases hbegin
  | none =>
    obtain ⟨started, hstarted, -, -, houtcome⟩ := run_of_begun options id hbegin
    have hsettles := settles_of_begun options id hbegin hstarted
    rw [houtcome]
    constructor
    . intro hrun
      split at hrun
      . cases hrun
      . next hreleased =>
        obtain ⟨tables, hcompletes, hbuild⟩ := hsettles.completes hrun
        rw [readTables_state_of_reads hstarted hcompletes.toReads] at hreleased
        exact ⟨tables, hcompletes, hreleased, hbuild⟩
    . rintro ⟨tables, hreturns⟩
      rw [readTables_state_of_reads hstarted hreturns.toReads, hreturns.released]
      rw [hreturns.build_eq]
      exact hsettles.completed hreturns.toCompletes

end Returns

namespace Returns

variable {options : BuildOptions} {database : String} {state : σ} {tables : List Table} {build : Build}

theorem of_options {options other : BuildOptions}
    (hreturns : Returns reader options database state tables build)
    (hoverrides : other.overrides = options.overrides)
    (hfaults : ∀ table ∈ tables, table.faults options.strict = [] → table.faults other.strict = [])
    (hvalidate : other.validate = true → options.validate = true) :
    Returns reader other database state tables build where
  opens := hreturns.opens
  described := hreturns.described
  accepted := by
    obtain ⟨haccepted, htypes⟩ := Table.mapM_types_eq_ok_iff.mp hreturns.accepted
    refine Table.mapM_types_eq_ok_iff.mpr ⟨?_, ?_⟩
    . exact fun table htable => hfaults table htable (haccepted table htable)
    . rw [hoverrides]
      exact htypes
  nonempty := hreturns.nonempty
  checked := fun hother => hreturns.checked (hvalidate hother)
  released := hreturns.released
  build_eq := hreturns.build_eq

theorem faults_eq_nil (hreturns : Returns reader options database state tables build) :
    ∀ table ∈ tables, table.faults options.strict = [] :=
  (Table.mapM_types_eq_ok_iff.mp hreturns.accepted).left

theorem run_strict_of_not_isKeyed
    (hreturns : Returns reader { options with strict := false } database state tables build)
    {earlier later : List Table} {table : Table} (htables : tables = earlier ++ table :: later)
    (hearlier : ∀ table ∈ earlier, table.IsKeyed) (hkeyed : ¬table.IsKeyed) (id : String) {session : Session σ}
    (hstate : session.state = state)
    (hreleased : ∀ made,
      ((run reader { options with strict := true } id database).run session).2.calls =
        session.calls ++ made ++ [.finish] →
      reader.failure? .finish (reader.afterAll made state) = none) :
    ∃ fault : Fault,
      ((run reader { options with strict := true } id database).run session).1 =
        .error (.fault (fault.stamp id)) ∧
      fault.kind = .primaryKey ∧ fault.details.lookup "table" = some (.text table.name) := by
  subst htables hstate
  have hfaults := hreturns.faults_eq_nil
  rw [List.forall_mem_append, List.forall_mem_cons] at hfaults
  obtain ⟨hdescribed, htable, -⟩ := Reader.describes_append_iff.mp hreturns.described
  have htypes := Table.types_strict_eq_error hfaults.right.left hkeyed options.overrides
  have haccepted : earlier.mapM (·.types ⟨true, options.overrides⟩) = .ok _ :=
    Table.mapM_types_eq_ok_iff.mpr
      ⟨fun table hmem => Table.faults_strict_eq_nil_iff.mpr ⟨hfaults.left table hmem, hearlier table hmem⟩, rfl⟩
  have hopens := hreturns.opens
  rw [List.map_append, List.map_cons] at hopens
  have hcause : FirstCause reader { options with strict := true } database session.state
      (.table (.ofKey table.name table.keyColumns)) :=
    .table hopens (.mk earlier hdescribed haccepted (.refuse rfl htable htypes))
  obtain ⟨made, hcalls, -, houtcome⟩ := run_outcome { options with strict := true } id reader database session
  rw [hreleased (.begin database :: made) (by simpa using hcalls)] at houtcome
  exact ⟨_, houtcome.failed hcause, rfl, rfl⟩

end Returns

theorem exists_first {α : Type} {p : α → Prop} [DecidablePred p] {list : List α} {item : α}
    (hmem : item ∈ list) (hitem : ¬p item) :
    ∃ earlier first later, list = earlier ++ first :: later ∧ (∀ item ∈ earlier, p item) ∧ ¬p first := by
  obtain ⟨first, hfirst⟩ := Option.isSome_iff_exists.mp
    (List.find?_isSome (p := fun item => !decide (p item)) |>.mpr ⟨item, hmem, by simpa using hitem⟩)
  obtain ⟨hnot, earlier, later, heq, hearlier⟩ := List.find?_eq_some_iff_append.mp hfirst
  exact ⟨earlier, first, later, heq, by simpa using hearlier, by simpa using hnot⟩

theorem admits_unwarned (reader : Reader σ) (id : String) :
    Admits reader id true fun line => line.level = .warning → reader.Logs line where
  logs hlogs := fun _ => hlogs
  progress hlevel message := by
    unfold progress
    rw [List.forall_mem_singleton]
    exact fun hwarning => absurd hwarning hlevel
  warnings table := by simp [Table.warnings]
  assembled tables := by simp [Document.assembled]

theorem released_of_run_eq_ok {options : BuildOptions} {id database : String} {session : Session σ} {build : Build}
    (hrun : ((run reader options id database).run session).1 = .ok build) :
    ∃ made,
      ((run reader options id database).run session).2.calls = session.calls ++ made ++ [.finish] ∧
      reader.failure? .finish (reader.afterAll made session.state) = none := by
  obtain ⟨made, hcalls, -, houtcome⟩ := run_outcome options id reader database session
  refine ⟨.begin database :: made, by simpa using hcalls, ?_⟩
  cases hlast : reader.failure? .finish (reader.afterAll (.begin database :: made) session.state) with
  | none => rfl
  | some last =>
    rw [hlast, hrun] at houtcome
    cases houtcome

/--
Asking for keys and checking the document only refuse builds. What a build returns that asks for keys, one that does
not returns as well, and it writes no warning of its own. What a build returns that does not ask for keys, one that
does returns exactly if each table has one primary key column, as long as the reader's release does not tell the calls
of the two builds apart; else it is refused with a fault that names the first table that has not. And what a build
returns that checks its document, one that does not returns as well.
-/
theorem run_options (reader : Reader σ) (options : BuildOptions) (id other database : String)
    (session again : Session σ) (hstate : again.state = session.state) (build : Build) :
    (((run reader { options with strict := true } id database).run session).1 = .ok build →
      ∃ after lines,
        (run reader { options with strict := false } other database).run again = (.ok build, after) ∧
        after.log = again.log ++ lines ∧
        ∀ line ∈ lines, line.level = .warning → reader.Logs line) ∧
    (((run reader { options with strict := false } id database).run session).1 = .ok build →
      (∀ made others,
        ((run reader { options with strict := false } id database).run session).2.calls =
          session.calls ++ made ++ [.finish] →
        ((run reader { options with strict := true } other database).run again).2.calls =
          again.calls ++ others ++ [.finish] →
        reader.ReleasesAlike session.state made others) →
      ∃ tables,
        Reads reader ⟨false, options.overrides⟩ database session.state tables build.tables ∧
        (((run reader { options with strict := true } other database).run again).1 = .ok build
          ↔
          ∀ table ∈ tables, table.IsKeyed) ∧
        ∀ earlier table later, tables = earlier ++ table :: later →
          (∀ table ∈ earlier, table.IsKeyed) → ¬table.IsKeyed →
            ∃ fault : Fault,
              ((run reader { options with strict := true } other database).run again).1 =
                .error (.fault (fault.stamp other)) ∧
              fault.kind = .primaryKey ∧ fault.details.lookup "table" = some (.text table.name)) ∧
    (((run reader { options with validate := true } id database).run session).1 = .ok build →
      ((run reader { options with validate := false } other database).run again).1 = .ok build) := by
  refine ⟨?_, ?_, ?_⟩
  . intro hrun
    obtain ⟨tables, hreturns⟩ := run_eq_ok_iff.mp hrun
    rw [← hstate] at hreturns
    have hstrict : ((run reader { options with strict := true } other database).run again).1 = .ok build :=
      run_eq_ok_iff.mpr ⟨tables, hreturns⟩
    obtain ⟨lines, hlog, hlines⟩ :=
      (admits_unwarned reader other).run { options with strict := true } database again
    rcases hrun : (run reader { options with strict := true } other database).run again with
      ⟨outcome, after⟩
    rw [hrun] at hstrict hlog
    cases hstrict
    rw [List.append_assoc] at hlog
    refine ⟨after, _, run_carries reader options other database _ _ _ hrun, hlog, ?_⟩
    rw [List.forall_mem_append]
    exact ⟨(admits_unwarned reader other).progress (by simp) _, hlines⟩
  . intro hrun halike
    obtain ⟨tables, hreturns⟩ := run_eq_ok_iff.mp hrun
    have hreleased : ∀ others,
        ((run reader { options with strict := true } other database).run again).2.calls =
          again.calls ++ others ++ [.finish] →
        reader.failure? .finish (reader.afterAll others session.state) = none := by
      obtain ⟨made, hcalls, hmade⟩ := released_of_run_eq_ok hrun
      intro others hothers
      exact (halike _ others hcalls hothers).symm.trans hmade
    refine ⟨tables, hreturns.toReads, ?_, ?_⟩
    . constructor
      . intro hstrict
        by_contra hall
        obtain ⟨table, htable, hkeyed⟩ := not_forall₂.mp hall
        obtain ⟨earlier, first, later, htables, hearlier, hfirst⟩ := exists_first htable hkeyed
        obtain ⟨fault, hfault, -⟩ :=
          hreturns.run_strict_of_not_isKeyed htables hearlier hfirst other hstate hreleased
        rw [hstrict] at hfault
        cases hfault
      . intro hkeyed
        rw [← hstate] at hreturns
        refine run_eq_ok_iff.mpr ⟨tables, hreturns.of_options ?_ ?_ ?_⟩
        . rfl
        . exact fun table htable hfaults =>
            Table.faults_strict_eq_nil_iff.mpr ⟨hfaults, hkeyed table htable⟩
        . exact fun hvalidate => hvalidate
    . intro earlier table later htables hearlier hkeyed
      exact hreturns.run_strict_of_not_isKeyed htables hearlier hkeyed other hstate hreleased
  . intro hrun
    obtain ⟨tables, hreturns⟩ := run_eq_ok_iff.mp hrun
    rw [← hstate] at hreturns
    refine run_eq_ok_iff.mpr ⟨tables, hreturns.of_options ?_ ?_ ?_⟩
    . rfl
    . exact fun _ _ hfaults => hfaults
    . exact fun hvalidate => nomatch hvalidate

theorem run_options_sampleTables :
    (∃ build after lines,
      ((run (.given (sampleTables.take 2)) {} "b1" "shop").run ⟨(), [], []⟩).1 = .ok build ∧
      (run (.given (sampleTables.take 2)) { strict := false } "b2" "shop").run ⟨(), [], []⟩ =
        (.ok build, after) ∧
      after.log = [] ++ lines ∧
      (∀ line ∈ lines, line.level = .warning → (Reader.given (sampleTables.take 2)).Logs line) ∧
      ((run (.given (sampleTables.take 2)) { validate := false } "b2" "shop").run ⟨(), [], []⟩).1 = .ok build) ∧
    ∃ build, ∃ fault : Fault,
      ((run (.given sampleTables) ⟨⟨false, []⟩, false⟩ "b1" "shop").run ⟨(), [], []⟩).1 = .ok build ∧
      ((run (.given sampleTables) ⟨⟨true, []⟩, false⟩ "b2" "shop").run ⟨(), [], []⟩).1 =
        .error (.fault (fault.stamp "b2")) ∧
      fault.kind = .primaryKey ∧ fault.details.lookup "table" = some (.text "mention") := by
  have hkeyed : ((run (.given (sampleTables.take 2)) {} "b1" "shop").run ⟨(), [], []⟩).1.isOk := by
    decide +kernel
  have hkeyless :
      ((run (.given sampleTables) ⟨⟨false, []⟩, false⟩ "b1" "shop").run ⟨(), [], []⟩).1.isOk := by
    decide +kernel
  refine ⟨?_, ?_⟩
  . cases hrun : ((run (.given (sampleTables.take 2)) {} "b1" "shop").run ⟨(), [], []⟩).1 with
    | error failure =>
      rw [hrun] at hkeyed
      cases hkeyed
    | ok build =>
      obtain ⟨hstrict, -, hvalidate⟩ :=
        run_options (.given (sampleTables.take 2)) {} "b1" "b2" "shop" ⟨(), [], []⟩ ⟨(), [], []⟩ rfl build
      obtain ⟨after, lines, hlenient, hlog, hlines⟩ := hstrict hrun
      exact ⟨build, after, lines, rfl, hlenient, hlog, hlines, hvalidate hrun⟩
  . cases hrun : ((run (.given sampleTables) ⟨⟨false, []⟩, false⟩ "b1" "shop").run ⟨(), [], []⟩).1 with
    | error failure =>
      rw [hrun] at hkeyless
      cases hkeyless
    | ok build =>
      obtain ⟨-, hlenient, -⟩ :=
        run_options (.given sampleTables) ⟨⟨true, []⟩, false⟩ "b1" "b2" "shop" ⟨(), [], []⟩ ⟨(), [], []⟩ rfl build
      obtain ⟨tables, hreads, -, hrefused⟩ := hlenient hrun fun _ _ _ _ => rfl
      have hsample : Reads (.given sampleTables) ⟨false, []⟩ "shop" () sampleTables _ :=
        ⟨⟨rfl, rfl⟩, ⟨⟨rfl, rfl⟩, ⟨rfl, rfl⟩, ⟨rfl, rfl⟩, trivial⟩, mapM_types_sampleTables⟩
      obtain rfl := hreads.unique hsample
      obtain ⟨fault, houtcome, htold⟩ :=
        hrefused (sampleTables.take 2) (sampleTables.getLast (by decide)) [] rfl (by decide) (by decide)
      exact ⟨build, fault, rfl, houtcome, htold⟩

end Build
end TableGraph
