import TableGraph.Proofs.Build.Options
import TableGraph.Proofs.DuckDb.Catalog

/-!
Builds of opened files. What a build returns follows from what the file tells of its tables, and the name of the
database is in it as no more than that.
-/

namespace TableGraph

open DuckDb

namespace Build

structure Accepts (options : BuildOptions) (tables : List Table) (types : List TableTypes) : Prop where
  accepted : tables.mapM (·.types options.toTableOptions) = .ok types
  nonempty : tables ≠ []
  checked : options.validate = true → (Document.ofTables types).failure? = none

variable {catalog : Catalog} {schema database : String} {options : BuildOptions}

theorem describesTable_iff {state : ReaderState Unit} {table : Table} :
    (reader catalog.connection schema).DescribesTable state table
      ↔
    catalog.describe schema table.name = .ok table := by
  constructor
  . intro htable
    have hcolumns := htable.columns
    have hreferences := htable.references
    rw [catalog.reader_describeTable] at hcolumns
    rw [catalog.reader_referencingTables] at hreferences
    obtain ⟨name, columns, references⟩ := table
    dsimp only at hcolumns hreferences ⊢
    cases hdescribe : catalog.describe schema name with
    | error failure =>
      rw [hdescribe] at hcolumns
      cases hcolumns
    | ok told =>
      obtain ⟨found, -, -, rfl⟩ := Catalog.describe_eq_ok_iff.mp hdescribe
      rw [hdescribe] at hcolumns
      obtain rfl := Except.ok.inj hcolumns
      obtain rfl := Except.ok.inj hreferences
      rfl
  . intro htable
    refine ⟨?_, ?_⟩
    . rw [catalog.reader_describeTable, htable]
      rfl
    . rw [catalog.reader_referencingTables]
      obtain ⟨found, -, -, heq⟩ := Catalog.describe_eq_ok_iff.mp htable
      rw [heq]
      rfl

theorem describes_iff {state : ReaderState Unit} {tables : List Table} :
    (reader catalog.connection schema).Describes state tables
      ↔
    (tables.map (·.name)).mapM (catalog.describe schema) = .ok tables := by
  rw [mapM_eq_ok_iff, List.forall₂_map_left_iff, List.forall₂_same]
  induction tables generalizing state with
  | nil => simp [Reader.Describes]
  | cons table tables ih =>
    rw [Reader.Describes, ih, List.forall_mem_cons, describesTable_iff]

theorem opens_iff {state : ReaderState Unit} {names : List String} :
    (reader catalog.connection schema).Opens database state names
      ↔
    catalog.select database = .ok () ∧ catalog.listed schema = .ok names := by
  constructor
  . intro hopens
    obtain ⟨_, hbegun⟩ := Reader.failureOf_eq_none_iff.mp hopens.begun
    have hlisted := hopens.listed
    rw [catalog.reader_begin] at hbegun
    rw [catalog.reader_listTables] at hlisted
    exact ⟨hbegun, hlisted⟩
  . rintro ⟨hselect, hlisted⟩
    refine ⟨Reader.failureOf_eq_none_iff.mpr ⟨(), ?_⟩, ?_⟩
    . rw [catalog.reader_begin, hselect]
    . rw [catalog.reader_listTables, hlisted]

theorem returns_iff {state : ReaderState Unit} {tables : List Table} {build : Build} :
    Returns (reader catalog.connection schema) options database state tables build
      ↔
    catalog.describeAll database schema = .ok tables ∧ Accepts options tables build.tables ∧
      build = ⟨database, build.tables, .ofTables build.tables⟩ := by
  unfold Catalog.describeAll
  rw [bind_eq_ok_iff]
  constructor
  . intro hreturns
    obtain ⟨hselect, hlisted⟩ := opens_iff.mp hreturns.opens
    refine ⟨⟨(), hselect, bind_eq_ok_iff.mpr ⟨_, hlisted, describes_iff.mp hreturns.described⟩⟩, ?_, hreturns.build_eq⟩
    exact ⟨hreturns.accepted, hreturns.nonempty, hreturns.checked⟩
  . rintro ⟨⟨_, hselect, hlisted⟩, haccepts, hbuild⟩
    obtain ⟨names, hlisted, htables⟩ := bind_eq_ok_iff.mp hlisted
    obtain ⟨rfl, -⟩ := Catalog.describe_of_mapM htables
    exact {
      opens := opens_iff.mpr ⟨hselect, hlisted⟩
      described := describes_iff.mpr htables
      accepted := haccepts.accepted
      nonempty := haccepts.nonempty
      checked := haccepts.checked
      released := rfl
      build_eq := hbuild }

section Run

variable {id : String} {session : Session (ReaderState Unit)}

theorem toOption_run_eq_some_iff {build : Build} :
    ((run (reader catalog.connection schema) options id database).run session).1.toOption = some build
      ↔
    ∃ tables types, (catalog.describeAll database schema).toOption = some tables ∧ Accepts options tables types ∧
      build = ⟨database, types, .ofTables types⟩ := by
  rw [toOption_eq_some_iff, run_eq_ok_iff]
  constructor
  . rintro ⟨tables, hreturns⟩
    obtain ⟨htables, haccepts, hbuild⟩ := returns_iff.mp hreturns
    exact ⟨tables, build.tables, toOption_eq_some_iff.mpr htables, haccepts, hbuild⟩
  . rintro ⟨tables, types, htables, haccepts, rfl⟩
    exact ⟨tables, returns_iff.mpr ⟨toOption_eq_some_iff.mp htables, haccepts, rfl⟩⟩

theorem toOption_run_eq_none (hdescribed : (catalog.describeAll database schema).toOption = none) :
    ((run (reader catalog.connection schema) options id database).run session).1.toOption = none := by
  rw [Option.eq_none_iff_forall_ne_some]
  intro build hbuild
  obtain ⟨tables, -, htables, -, -⟩ := toOption_run_eq_some_iff.mp hbuild
  rw [hdescribed] at htables
  cases htables

theorem toOption_run_eq {copy : Catalog} {other : String}
    (hdescribed : (copy.describeAll other schema).toOption = (catalog.describeAll database schema).toOption) :
    ((run (reader copy.connection schema) options id other).run session).1.toOption
      =
    ((run (reader catalog.connection schema) options id database).run session).1.toOption.map
      fun build => { build with database := other } := by
  apply Option.ext
  intro build
  rw [toOption_run_eq_some_iff, Option.map_eq_some_iff, hdescribed]
  constructor
  . rintro ⟨tables, types, htables, haccepts, rfl⟩
    refine ⟨⟨database, types, .ofTables types⟩, ?_, rfl⟩
    exact toOption_run_eq_some_iff.mpr ⟨tables, types, htables, haccepts, rfl⟩
  . rintro ⟨build, hbuild, rfl⟩
    obtain ⟨tables, types, htables, haccepts, rfl⟩ := toOption_run_eq_some_iff.mp hbuild
    exact ⟨tables, types, htables, haccepts, rfl⟩

end Run

end Build

end TableGraph
