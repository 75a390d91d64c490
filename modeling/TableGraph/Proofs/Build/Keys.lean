import TableGraph.Proofs.Build.Course
import TableGraph.Proofs.Reader.Given
import TableGraph.Proofs.Schema.Acceptance
import TableGraph.Proofs.TypeSystem.Signatures

/-!
The keys of a build whose document was checked. A table has a key exactly if it has one primary key column;
the key is that column, and it has one type wherever the document asks for it or gives it.
-/

namespace TableGraph

namespace Table

variable {table : Table} {overrides : Overrides}

theorem isSome_key?_iff :
    (table.key? overrides).isSome ↔ (table.columns.filter (·.isPrimaryKey)).length = 1 := by
  unfold key? keyColumn? keyColumns
  cases hprimary : table.columns.filter (·.isPrimaryKey) with
  | nil => simp
  | cons column others =>
    cases others with
    | cons other others => simp
    | nil =>
      have hmem : column ∈ table.columns := by
        apply List.mem_of_mem_filter
        rw [hprimary]
        exact List.mem_singleton_self column
      simp only [List.map_cons, List.map_nil, Option.bind_some, Option.isSome_map,
        List.find?_isSome, List.length_singleton, iff_true]
      exact ⟨column, List.mem_reverse.mpr hmem, beq_self_eq_true column.name⟩

theorem key?_eq_some (hcolumns : (table.columns.map (·.name)).Nodup) {key : Key}
    (hkey : table.key? overrides = some key) :
    ∃ column, table.columns.filter (·.isPrimaryKey) = [column] ∧
      key = ⟨column.name, scalarOf overrides column⟩ := by
  obtain ⟨column, hprimary⟩ := List.length_eq_one_iff.mp (isSome_key?_iff.mp (Option.isSome_of_eq_some hkey))
  obtain ⟨other, hother, hname, hscalar⟩ := mem_columns_of_key? hkey
  have hmem : column ∈ table.columns := by
    apply List.mem_of_mem_filter
    rw [hprimary]
    exact List.mem_singleton_self column
  have hcolumn : column.name = key.column := by
    obtain ⟨found, hfound, hrole, heq⟩ := exists_primary_of_key? hkey
    have hsole : found ∈ table.columns.filter (·.isPrimaryKey) := List.mem_filter.mpr ⟨hfound, hrole⟩
    rw [hprimary, List.mem_singleton] at hsole
    rw [← hsole, heq]
  have hsame : other = column :=
    List.inj_on_of_nodup_map hcolumns hother hmem (hname.trans hcolumn.symm)
  refine ⟨column, hprimary, ?_⟩
  rw [← hsame, hname, hscalar]

end Table

namespace TableTypes

theorem name_not_mem {tables : List TableTypes} {fields : TableTypes → List Field} {name : String}
    (hne : ∀ types ∈ tables, ∀ field ∈ fields types, field.name ≠ name) :
    name ∉ (tables.flatMap fields).map (·.name) := by
  intro hname
  obtain ⟨field, hfield, heq⟩ := List.mem_map.mp hname
  obtain ⟨types, htypes, hfield⟩ := List.mem_flatMap.mp hfield
  exact hne types htypes field hfield heq

variable {tables : List TableTypes} (hnames : (tables.map (·.table)).Nodup) {types : TableTypes}
  (hmem : types ∈ tables) (hkey : types.key? = none)

include hnames hmem hkey

theorem not_keyed {other : TableTypes} (hother : other ∈ tables) {key : Key}
    (hotherKey : other.key? = some key) : other.table ≠ types.table := by
  intro heq
  rw [List.inj_on_of_nodup_map hnames hother hmem heq, hkey] at hotherKey
  cases hotherKey

theorem getFieldName_not_mem : getFieldName types.table ∉ (tables.flatMap (·.queries)).map (·.name) := by
  apply name_not_mem
  intro other hother
  rw [forall_mem_queries]
  refine ⟨(getFieldName_ne_listFieldName types.table other.table).symm, ?_⟩
  intro key hotherKey
  exact mt getFieldName_inj.mp (not_keyed hnames hmem hkey hother hotherKey)

theorem updateFieldName_not_mem :
    updateFieldName types.table ∉ (tables.flatMap (·.mutations)).map (·.name) := by
  apply name_not_mem
  intro other hother
  rw [forall_mem_mutations]
  refine ⟨createFieldName_ne_updateFieldName other.table types.table, ?_⟩
  intro key hotherKey
  refine ⟨deleteFieldName_ne_updateFieldName other.table types.table, ?_⟩
  exact mt updateFieldName_inj.mp (not_keyed hnames hmem hkey hother hotherKey)

theorem deleteFieldName_not_mem :
    deleteFieldName types.table ∉ (tables.flatMap (·.mutations)).map (·.name) := by
  apply name_not_mem
  intro other hother
  rw [forall_mem_mutations]
  refine ⟨(deleteFieldName_ne_createFieldName types.table other.table).symm, ?_⟩
  intro key hotherKey
  refine ⟨?_, (deleteFieldName_ne_updateFieldName types.table other.table).symm⟩
  exact mt deleteFieldName_inj.mp (not_keyed hnames hmem hkey hother hotherKey)

end TableTypes

namespace Document

structure UsesKey (document : Document) (table : String) (key : Key) : Prop where
  get : document.signatures "Query" (getFieldName table) =
    [⟨[⟨key.column, .nonNull (.named key.scalar)⟩], .named table⟩]
  delete : document.signatures "Mutation" (deleteFieldName table) =
    [⟨[⟨key.column, .nonNull (.named key.scalar)⟩], .named table⟩]
  entity : document.signatures table key.column = [⟨[], .nonNull (.named key.scalar)⟩]
  createInput : document.signatures (createInputName table) key.column =
    [⟨[], .nonNull (.named key.scalar)⟩]
  updateInput : document.signatures (updateInputName table) key.column =
    [⟨[], .nonNull (.named key.scalar)⟩]

structure UsesNoKey (document : Document) (table : String) : Prop where
  get : document.signatures "Query" (getFieldName table) = []
  update : document.signatures "Mutation" (updateFieldName table) = []
  delete : document.signatures "Mutation" (deleteFieldName table) = []

section Sound

variable {tables : List Table} {overrides : Overrides}
  (hviolations : violations (ofTables (tables.map (·.typesWith overrides))) = [])
  {table : Table} (htable : table ∈ tables)

include hviolations htable

theorem columns_nodup : (table.columns.map (·.name)).Nodup := by
  obtain ⟨-, hfields, -⟩ := (violations_eq_nil_iff _).mp hviolations
  have hentity := (TableTypes.forall_mem_definitions.mp
    ((forall_mem_ofTables.mp hfields).left _ (List.mem_map_of_mem htable))).right.right.left
  rw [Definition.fieldNames, Table.entity_fieldNames] at hentity
  exact hentity.of_append_left

theorem usesKey {key : Key} (hkey : table.key? overrides = some key) :
    (ofTables (tables.map (·.typesWith overrides))).UsesKey table.name key := by
  obtain ⟨⟨htypes, -⟩, hfields, -⟩ := (violations_eq_nil_iff _).mp hviolations
  obtain ⟨hdefinitions, hmutation, hquery, -, -⟩ := mem_ofTables (tables.map (·.typesWith overrides))
  have htypesMem : table.typesWith overrides ∈ tables.map (·.typesWith overrides) :=
    List.mem_map_of_mem htable
  obtain ⟨-, hcreate, hentity, hupdate⟩ := TableTypes.forall_mem_definitions.mp (hdefinitions _ htypesMem)
  obtain ⟨column, hprimary, rfl⟩ := Table.key?_eq_some (columns_nodup hviolations htable) hkey
  obtain ⟨hcolumn, hrole⟩ : column ∈ table.columns ∧ column.isPrimaryKey = true := by
    rw [← List.mem_filter, hprimary]
    exact List.mem_singleton_self column
  have hfieldType : Table.fieldType overrides column = .nonNull (.named (Table.scalarOf overrides column)) := by
    simp [Table.fieldType, hrole]
  have hupdateType : Table.updateType overrides column = .nonNull (.named (Table.scalarOf overrides column)) := by
    simp [Table.updateType, hrole]
  constructor
  . apply signatures_eq_singleton htypes hquery rfl (hfields _ hquery)
    refine List.mem_map.mpr ⟨(table.typesWith overrides).getField _, ?_, rfl⟩
    refine List.mem_flatMap.mpr ⟨_, htypesMem, ?_⟩
    rw [TableTypes.queries_of_key hkey]
    exact List.mem_cons_self
  . apply signatures_eq_singleton htypes hmutation rfl (hfields _ hmutation)
    refine List.mem_map.mpr ⟨(table.typesWith overrides).deleteField _, ?_, rfl⟩
    refine List.mem_flatMap.mpr ⟨_, htypesMem, ?_⟩
    rw [TableTypes.mutations_of_key hkey]
    exact List.mem_cons_self
  . apply signatures_eq_singleton htypes hentity rfl (hfields _ hentity)
    rw [← hfieldType]
    refine List.mem_map.mpr ⟨{ name := column.name, type := Table.fieldType overrides column }, ?_, rfl⟩
    exact List.mem_append_left _ (List.mem_map_of_mem hcolumn)
  . apply signatures_eq_singleton htypes hcreate rfl (hfields _ hcreate)
    rw [← hfieldType]
    exact List.mem_map.mpr ⟨⟨column.name, _⟩, List.mem_map_of_mem hcolumn, rfl⟩
  . apply signatures_eq_singleton htypes hupdate rfl (hfields _ hupdate)
    rw [← hupdateType]
    exact List.mem_map.mpr ⟨⟨column.name, _⟩, List.mem_map_of_mem hcolumn, rfl⟩

theorem usesNoKey (hkey : table.key? overrides = none) :
    (ofTables (tables.map (·.typesWith overrides))).UsesNoKey table.name := by
  obtain ⟨htypes, -, -⟩ := (violations_eq_nil_iff _).mp hviolations
  obtain ⟨-, hmutation, hquery, -, -⟩ := mem_ofTables (tables.map (·.typesWith overrides))
  have htypesMem : table.typesWith overrides ∈ tables.map (·.typesWith overrides) :=
    List.mem_map_of_mem htable
  have hnames : ((tables.map (·.typesWith overrides)).map (·.table)).Nodup := by
    rw [List.map_map]
    exact (typeNames_fresh_iff.mp htypes).left
  constructor
  . exact signatures_eq_nil htypes.left hquery rfl (TableTypes.getFieldName_not_mem hnames htypesMem hkey)
  . exact signatures_eq_nil htypes.left hmutation rfl
      (TableTypes.updateFieldName_not_mem hnames htypesMem hkey)
  . exact signatures_eq_nil htypes.left hmutation rfl
      (TableTypes.deleteFieldName_not_mem hnames htypesMem hkey)

end Sound

end Document

namespace Build

variable {σ : Type} {reader : Reader σ} {options : BuildOptions} {id database : String}
  {session after : Session σ} {build : Build}

structure KeyFollows (overrides : Overrides) (document : Document) (table : Table) (types : TableTypes) :
    Prop where
  isSome_iff : types.key?.isSome ↔ (table.columns.filter (·.isPrimaryKey)).length = 1
  keyed : ∀ key, types.key? = some key →
    (∃ column, table.columns.filter (·.isPrimaryKey) = [column] ∧
      key = ⟨column.name, Table.scalarOf overrides column⟩) ∧
    document.UsesKey table.name key
  keyless : types.key? = none → document.UsesNoKey table.name

/--
If a build that checks its document returns, the reader has described tables of which the build knows
exactly those keys that are the only primary key column of a table. Such a key is asked for by that column's
name and has that column's scalar in all fields that use it; a table without one has no such fields.
-/
theorem run_keys (hvalidate : options.validate = true)
    (hrun : (run reader options id database).run session = (.ok build, after)) :
    ∃ tables, Reads reader options.toTableOptions database session.state tables build.tables ∧
      List.Forall₂ (KeyFollows options.overrides.byBaseName build.document) tables build.tables := by
  obtain ⟨made, -, -, houtcome⟩ := run_outcome options id reader database session
  rw [hrun] at houtcome
  cases hlast : reader.failure? .finish (reader.afterAll (.begin database :: made) session.state) with
  | some last =>
    rw [hlast] at houtcome
    cases houtcome
  | none =>
    rw [hlast] at houtcome
    obtain ⟨tables, hcompletes, hbuild⟩ := houtcome.completes rfl
    refine ⟨tables, hcompletes.toReads, ?_⟩
    have hviolations := Document.violations_eq_nil_of_failure? (hcompletes.checked hvalidate)
    obtain ⟨-, htypes⟩ := Table.mapM_types_eq_ok_iff.mp hcompletes.accepted
    have hdocument : build.document = .ofTables build.tables := by rw [hbuild]
    rw [htypes] at hviolations
    rw [hdocument, htypes, List.forall₂_map_right_iff, List.forall₂_same]
    intro table htable
    refine ⟨Table.isSome_key?_iff, ?_, Document.usesNoKey hviolations htable⟩
    intro key hkey
    exact ⟨Table.key?_eq_some (Document.columns_nodup hviolations htable) hkey,
      Document.usesKey hviolations htable hkey⟩

theorem run_keys_sampleTables :
    ∃ build after,
      (run (.given sampleTables) { strict := false } "b1" "shop").run ⟨(), [], []⟩ = (.ok build, after) ∧
      ∃ tables, Reads (.given sampleTables) ⟨false, []⟩ "shop" () tables build.tables ∧
        List.Forall₂ (KeyFollows [] build.document) tables build.tables := by
  have hok : ((run (.given sampleTables) { strict := false } "b1" "shop").run ⟨(), [], []⟩).1.isOk := by
    decide +kernel
  rcases hrun : (run (.given sampleTables) { strict := false } "b1" "shop").run ⟨(), [], []⟩ with
    ⟨failure | build, after⟩
  . rw [hrun] at hok
    cases hok
  . exact ⟨build, after, rfl, run_keys rfl hrun⟩

end Build
end TableGraph
