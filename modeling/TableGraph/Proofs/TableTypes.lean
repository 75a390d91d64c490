import TableGraph.Proofs.Name
import TableGraph.Proofs.Program
import TableGraph.TableTypes

/-!
The types of tables, and of several tables with the same options.
-/

namespace TableGraph

structure Table.IsNamed (table : Table) : Prop where
  name : IsName table.name
  columns : ∀ column ∈ table.columns, IsName column.name
  references : ∀ reference ∈ table.references, IsName reference

instance (table : Table) : Decidable table.IsNamed :=
  decidable_of_iff
    (IsName table.name ∧ (∀ column ∈ table.columns, IsName column.name) ∧
      ∀ reference ∈ table.references, IsName reference)
    ⟨fun ⟨name, columns, references⟩ => ⟨name, columns, references⟩,
     fun ⟨name, columns, references⟩ => ⟨name, columns, references⟩⟩

namespace Table

variable {options : TableOptions}

theorem nameFaults_eq_nil_iff {table : Table} {name : String} {column? : Option String} :
    table.nameFaults name column? = [] ↔ isAcceptedName name = true := by
  unfold nameFaults
  split
  . next haccepted => simp [haccepted]
  . next haccepted => simp [haccepted]

theorem faults_eq_nil_iff {table : Table} {strict : Bool} :
    table.faults strict = []
      ↔
    ((isAcceptedName table.name = true ∧ table.keyFaults strict = []) ∧
      ∀ column ∈ table.columns, isAcceptedName column.name = true) ∧
    ∀ reference ∈ table.references, isAcceptedName reference = true := by
  unfold faults
  simp only [List.append_eq_nil_iff, List.flatMap_eq_nil_iff, nameFaults_eq_nil_iff]

theorem IsNamed.faults_eq_nil {table : Table} (hnamed : table.IsNamed) {strict : Bool}
    (hkey : table.keyFaults strict = []) : table.faults strict = [] := by
  have haccepted : ∀ {name : String}, IsName name → isAcceptedName name = true := fun hname => by
    rw [isAcceptedName, hname, Bool.true_or]
  exact faults_eq_nil_iff.mpr ⟨⟨⟨haccepted hnamed.name, hkey⟩, fun column hcolumn =>
    haccepted (hnamed.columns column hcolumn)⟩, fun reference hreference =>
    haccepted (hnamed.references reference hreference)⟩

theorem types_eq_ok_iff {table : Table} {types : TableTypes} :
    table.types options = .ok types
      ↔
    table.faults options.strict = [] ∧ types = table.typesWith options.overrides.byBaseName := by
  unfold Table.types
  split
  . next hfaults =>
    rw [hfaults, Except.ok.injEq, eq_comm]
    simp
  . next hfaults =>
    rw [hfaults]
    simp

theorem mapM_types_cons {table : Table} {tables : List Table} {types : TableTypes}
    {rest : List TableTypes} (htable : table.types options = .ok types)
    (hrest : tables.mapM (·.types options) = .ok rest) :
    (table :: tables).mapM (·.types options) = .ok (types :: rest) := by
  exact mapM_eq_ok_iff.mpr (.cons htable (mapM_eq_ok_iff.mp hrest))

theorem mapM_types_eq_ok_iff {tables : List Table} {types : List TableTypes} :
    tables.mapM (·.types options) = .ok types
      ↔
    (∀ table ∈ tables, table.faults options.strict = []) ∧
      types = tables.map (·.typesWith options.overrides.byBaseName) := by
  simp only [mapM_eq_ok_iff, types_eq_ok_iff, List.forall₂_and_left]
  apply and_congr_right'
  rw [eq_comm, ← List.forall₂_eq_eq_eq, List.forall₂_map_left_iff]
  simp only [eq_comm]

section Types

variable (table : Table) (overrides : Overrides)

@[simp]
theorem typesWith_table : (table.typesWith overrides).table = table.name := rfl

@[simp]
theorem typesWith_key? : (table.typesWith overrides).key? = table.key? overrides := rfl

@[simp]
theorem columnNames_typesWith : (table.typesWith overrides).columnNames = table.columns.map (·.name) := by
  apply List.map_map

theorem entity_fieldNames :
    (table.typesWith overrides).entity.fields.map (·.name)
      =
    table.columns.map (·.name) ++ table.references := by
  unfold typesWith
  rw [List.map_append, List.map_map, List.map_map]
  simp [Function.comp_def]

theorem updateInput_fieldNames :
    (table.typesWith overrides).updateInput.fields.map (·.name) = table.columns.map (·.name) := by
  apply List.map_map

theorem fieldType_name (column : Column) : (fieldType overrides column).name = scalarOf overrides column := by
  unfold fieldType
  dsimp only
  split
  . rfl
  . rfl

theorem updateType_name (column : Column) :
    (updateType overrides column).name = scalarOf overrides column := by
  unfold updateType
  dsimp only
  split
  . rfl
  . rfl

end Types

theorem mem_columns_of_key? {table : Table} {overrides : Overrides} {key : Key}
    (hkey : table.key? overrides = some key) :
    ∃ column ∈ table.columns, column.name = key.column ∧ scalarOf overrides column = key.scalar := by
  unfold Table.key? at hkey
  obtain ⟨name, -, hmap⟩ := Option.bind_eq_some_iff.mp hkey
  obtain ⟨column, hfind, rfl⟩ := Option.map_eq_some_iff.mp hmap
  have hname : column.name = name := by simpa using List.find?_some hfind
  exact ⟨column, List.mem_reverse.mp (List.mem_of_find?_eq_some hfind), hname, rfl⟩

theorem of_key? {table : Table} {p : String → Prop} (hcolumns : ∀ column ∈ table.columns, p column.name)
    {overrides : Overrides} {key : Key} (hkey : table.key? overrides = some key) : p key.column := by
  obtain ⟨column, hcolumn, hname, -⟩ := mem_columns_of_key? hkey
  rw [← hname]
  exact hcolumns column hcolumn

theorem IsNamed.key {table : Table} (hnamed : table.IsNamed) {overrides : Overrides} {key : Key}
    (hkey : table.key? overrides = some key) : IsName key.column :=
  of_key? hnamed.columns hkey

theorem exists_primary_of_key? {table : Table} {overrides : Overrides} {key : Key}
    (hkey : table.key? overrides = some key) :
    ∃ column ∈ table.columns, column.isPrimaryKey = true ∧ column.name = key.column := by
  unfold Table.key? at hkey
  obtain ⟨name, hname, hmap⟩ := Option.bind_eq_some_iff.mp hkey
  obtain ⟨_, -, rfl⟩ := Option.map_eq_some_iff.mp hmap
  have hmem : name ∈ table.keyColumns := by
    unfold keyColumn? at hname
    split at hname
    . next heq =>
      cases hname
      rw [heq]
      exact List.mem_singleton_self name
    . cases hname
  obtain ⟨column, hcolumn, rfl⟩ := List.mem_map.mp hmem
  exact ⟨column, List.mem_of_mem_filter hcolumn, (List.mem_filter.mp hcolumn).right, rfl⟩

end Table

/-- Three tables: one that another one refers to, that one, and one without a key. -/
def sampleTables : List Table := [
  { name := "author"
    columns := [⟨"id", "INTEGER", false, .primary⟩, ⟨"name", "varchar(80)", true, .none⟩]
    references := ["book"] },
  { name := "book"
    columns := [
      ⟨"id", "INTEGER", false, .primary⟩, ⟨"title", "VARCHAR", false, .none⟩,
      ⟨"author_id", "INTEGER", true, .foreignIndex⟩] },
  { name := "mention"
    columns := [⟨"page", "INT", true, .none⟩] }]

theorem mapM_types_sampleTables :
    sampleTables.mapM (·.types ⟨false, []⟩) = .ok (sampleTables.map (·.typesWith [])) :=
  Table.mapM_types_eq_ok_iff.mpr ⟨by decide, rfl⟩

end TableGraph
