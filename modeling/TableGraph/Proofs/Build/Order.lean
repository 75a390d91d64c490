import TableGraph.Proofs.Build.Options
import TableGraph.Proofs.Reader.Given
import TableGraph.Proofs.Schema.Order

/-!
The order of a build: its tables are those that the reader listed and described, and its document has their
definitions in that order.
-/

namespace TableGraph

theorem Table.names_of_mapM_types {options : TableOptions} {tables : List Table} {types : List TableTypes}
    (htypes : tables.mapM (·.types options) = .ok types) : types.map (·.table) = tables.map (·.name) := by
  obtain ⟨-, rfl⟩ := mapM_types_eq_ok_iff.mp htypes
  rw [List.map_map]
  rfl

theorem Reader.Describes.describesTable {reader : Reader σ} {tables : List Table} {state : σ}
    (hdescribes : reader.Describes state tables) {place : Nat} {table : Table} (htable : tables[place]? = some table) :
    reader.DescribesTable (reader.afterTables (tables.take place) state) table := by
  obtain ⟨hlength, rfl⟩ := List.getElem?_eq_some_iff.mp htable
  rw [← List.take_append_drop place tables, Reader.describes_append_iff, List.drop_eq_getElem_cons hlength]
    at hdescribes
  exact hdescribes.right.left

theorem Build.Reads.exists_table {reader : Reader σ} {options : TableOptions} {database : String} {state : σ}
    {tables : List Table} {types : List TableTypes} (hreads : Reads reader options database state tables types)
    {place : Nat} {made : TableTypes} (hplace : types[place]? = some made) :
    ∃ table : Table,
      table.types options = .ok made ∧
      reader.DescribesTable (reader.afterTables (tables.take place) (reader.opened database state)) table := by
  obtain ⟨hfaults, rfl⟩ := Table.mapM_types_eq_ok_iff.mp hreads.accepted
  rw [List.getElem?_map] at hplace
  obtain ⟨table, htable, rfl⟩ := Option.map_eq_some_iff.mp hplace
  exact ⟨table, Table.types_eq_ok_iff.mpr ⟨hfaults table (List.mem_of_getElem? htable), rfl⟩,
    hreads.described.describesTable htable⟩

namespace Build

variable {σ : Type} {reader : Reader σ} {options : BuildOptions} {id database : String}
  {session : Session σ} {build : Build}

/--
If a build returns, it has the tables that the reader listed, each with the types of the table that the
reader described in its place. The document has the definitions of the tables and the fields of the root
types in the same order, and each directive of it names one mutation, which returns what the field does.
-/
theorem run_order (hrun : ((run reader options id database).run session).1 = .ok build) :
    ∃ tables,
      Reads reader options.toTableOptions database session.state tables build.tables ∧
      (reader.listTables database (reader.after (.begin database) session.state)).1.outcome =
        .ok build.tableNames ∧
      List.Forall₂ (fun table types => table.types options.toTableOptions = .ok types)
        tables build.tables ∧
      build.document.IsOrdered build.tables ∧
      ∀ type, .object type ∈ build.document → ∀ field ∈ type.fields, ∀ mutations ∈ field.subscriptions,
        build.document.FollowsOne field mutations := by
  obtain ⟨tables, hreturns⟩ := run_eq_ok_iff.mp hrun
  have hnames : build.tableNames = tables.map (·.name) := Table.names_of_mapM_types hreturns.accepted
  have hdocument : build.document = .ofTables build.tables := by rw [hreturns.build_eq]
  refine ⟨tables, hreturns.toReads, ?_, mapM_eq_ok_iff.mp hreturns.accepted, ?_, ?_⟩
  . rw [hnames]
    exact hreturns.opens.listed
  . rw [hdocument]
    exact Document.isOrdered_ofTables build.tables
  . intro type htype field hfield mutations hmutations
    rw [hdocument] at htype ⊢
    apply Document.followsOne_ofTables _ htype hfield hmutations
    obtain ⟨-, htypes⟩ := Table.mapM_types_eq_ok_iff.mp hreturns.accepted
    rw [htypes, List.forall_mem_map]
    intro table _
    exact table.subscriptions_entity _

theorem run_order_sampleTables :
    ∃ build,
      ((run (.given sampleTables) { strict := false } "b1" "shop").run ⟨(), [], []⟩).1 = .ok build ∧
      ∃ tables, Reads (.given sampleTables) ⟨false, []⟩ "shop" () tables build.tables ∧
        build.document.IsOrdered build.tables := by
  have hok : ((run (.given sampleTables) { strict := false } "b1" "shop").run ⟨(), [], []⟩).1.isOk := by
    decide +kernel
  cases hrun : ((run (.given sampleTables) { strict := false } "b1" "shop").run ⟨(), [], []⟩).1 with
  | error failure =>
    rw [hrun] at hok
    cases hok
  | ok build =>
    obtain ⟨tables, hreads, -, -, hordered, -⟩ := run_order hrun
    exact ⟨build, rfl, tables, hreads, hordered⟩

end Build
end TableGraph
