import TableGraph.DuckDb.Answer
import TableGraph.Proofs.DuckDb.Lookup
import TableGraph.Proofs.DuckDb.Reader
import TableGraph.TableTypes

/-!
What the reader tells about an opened file. The names of tables, their foreign keys and their references are those
of its schema. The columns and the primary key are those of the table that is found for a name, wherever it is.
-/

namespace TableGraph
namespace DuckDb

def CatalogTable.isKey (table : CatalogTable) (column : CatalogColumn) : Bool :=
  table.primaryKey.any (sameName column.name)

namespace Catalog

open Querying

def inOrder (names : List String) : List String :=
  names.eraseDups.mergeSort (· ≤ ·)

def baseTables (catalog : Catalog) (schema : String) : List String :=
  inOrder ((catalog.tables.filter fun table => table.schema == schema && !table.isView).map (·.name))

def referring (catalog : Catalog) (schema name : String) : List String :=
  inOrder ((catalog.tables.filter fun table =>
    table.schema == schema && table.foreignKeys.any (·.table == name)).map (·.name))

def foreignKeysOf (catalog : Catalog) (schema name : String) : List (List String) :=
  (catalog.tables.filter fun table => table.name == name && table.schema == schema).flatMap fun table =>
    table.foreignKeys.map (keyColumns table)

def columnOf (foreign : List String) (table : CatalogTable) (column : CatalogColumn) : Column where
  name := column.name
  sqlType := commonType column.type
  nullable := !(column.required || table.isKey column)
  role :=
    if table.isKey column then .primary
    else if foreign.contains column.name then .foreignIndex
    else .none

def described (catalog : Catalog) (schema name : String) (found : CatalogTable) : Table where
  name
  columns := found.columns.map (columnOf (catalog.foreignKeysOf schema name).flatten found)
  references := catalog.referring schema name

def describe (catalog : Catalog) (schema name : String) : Except Failure Table :=
  match catalog.findText name with
  | .ok found =>
    if found.columns.isEmpty then .error (Malformed.noTable name).failure
    else .ok (catalog.described schema name found)
  | .error failure => .error (withExcerpt (.columns name) failure)

def listed (catalog : Catalog) (schema : String) : Except Failure (List String) :=
  match catalog.ambiguity? "information_schema" with
  | some failure => .error failure
  | none => .ok (catalog.baseTables schema)

/-- Another database than the one of the file cannot be made the current one. -/
def select (catalog : Catalog) (database : String) : Except Failure Unit :=
  if database.isEmpty then .ok () else (catalog.answer (.use database)).map fun _ => ()

def describeAll (catalog : Catalog) (database schema : String) : Except Failure (List Table) := do
  catalog.select database
  let names ← catalog.listed schema
  names.mapM (catalog.describe schema)

variable (catalog : Catalog) (schema name : String)

theorem firstColumn_sorted (names : List String) : firstColumn (sorted names) = .ok ((inOrder names).map .text) := by
  unfold sorted inOrder
  rw [firstColumn_eq_ok_iff, List.forall₂_map_left_iff, List.forall₂_map_right_iff, List.forall₂_same]
  intro name _
  rfl

theorem names_sorted (otherwise : String → Malformed) (names : List String) :
    (content (firstColumn (sorted names)) >>= fun cells => content (cells.mapM (Cell.asText otherwise)))
      =
    .ok (inOrder names) := by
  rw [firstColumn_sorted]
  change content (((inOrder names).map Json.text).mapM (Cell.asText otherwise)) = _
  rw [Cell.mapM_asText]
  rfl

theorem keyColumnNames_lists (keys : List (List String)) :
    keyColumnNames (keys.map fun key => [.list (key.map .text)]) = .ok keys.flatten := by
  induction keys with
  | nil => rfl
  | cons key keys ih =>
    rw [List.map_cons, keyColumnNames, ih, Cell.asNames, Cell.namesIn_text]
    rfl

theorem answer_foreignKeys :
    catalog.answer (.foreignKeys name schema)
      =
    .ok ((catalog.foreignKeysOf schema name).map fun key => [.list (key.map .text)]) := by
  unfold answer foreignKeysOf
  rw [List.map_flatMap]
  simp only [List.map_map]
  rfl

theorem columnsOfRows_columnRows (foreign : List String) (table : CatalogTable) :
    columnsOfRows foreign (columnRows table) = .ok (table.columns.map (columnOf foreign table)) := by
  have hcolumns : table.columns.map (columnOf foreign table) =
      table.columns.zipIdx.map (columnOf foreign table ∘ Prod.fst) := by
    rw [← List.map_map, List.zipIdx_map_fst]
  rw [hcolumns, columnsOfRows_eq_ok_iff, columnRows, List.forall₂_map_left_iff, List.forall₂_map_right_iff,
    List.forall₂_same]
  rintro ⟨column, index⟩ _
  rfl

theorem columnRows_isEmpty (table : CatalogTable) : (columnRows table).isEmpty = table.columns.isEmpty := by
  unfold columnRows
  rw [List.isEmpty_map]
  cases table.columns with
  | nil => rfl
  | cons column columns => rfl

/-! The calls of the reader of a schema, in any state. -/

variable (state : ReaderState Unit)

theorem reader_begin (database : String) :
    ((reader catalog.connection schema).begin database state).1.outcome = catalog.select database := by
  refine (outcome_reply (useDatabase catalog.connection database) state).trans ?_
  rw [run_useDatabase]
  change (if (!database.isEmpty && some catalog.database != some database) = true then _ else _) = _
  unfold select
  cases hempty : database.isEmpty with
  | true => rfl
  | false =>
    by_cases hcurrent : database = catalog.database
    . rw [hcurrent, if_neg (by simp), answer, if_pos (beq_self_eq_true _)]
      rfl
    . rw [if_pos (by simp [Ne.symm hcurrent])]
      change (catalog.answer (.use database) >>= _) = _
      cases catalog.answer (.use database) with
      | ok rows => rfl
      | error failure => rfl

theorem reader_listTables (database : String) :
    ((reader catalog.connection schema).listTables database state).1.outcome = catalog.listed schema := by
  refine (outcome_reply (names _ (listTables catalog.connection schema)) state).trans ?_
  rw [run_names, run_listTables]
  change ((catalog.answer (.tableNames schema) >>= _) >>= _) = _
  unfold listed answer
  cases catalog.ambiguity? "information_schema" with
  | some failure => rfl
  | none => exact names_sorted _ _

theorem reader_describeTable :
    ((reader catalog.connection schema).describeTable name state).1.outcome
      =
    (catalog.describe schema name).map (·.columns) := by
  refine (outcome_reply (DuckDb.describeTable catalog.connection schema name) state).trans ?_
  rw [run_describeTable]
  change (catalog.answer (.columns name) >>= _) = _
  unfold describe
  rw [answer]
  cases catalog.findText name with
  | error failure => rfl
  | ok found =>
    change (if (columnRows found).isEmpty = true then _ else catalog.answer (.foreignKeys name schema) >>= _) = _
    rw [columnRows_isEmpty, answer_foreignKeys]
    dsimp only
    split
    . rfl
    . change (content (keyColumnNames _) >>= _) = _
      rw [keyColumnNames_lists]
      change content (columnsOfRows _ _) = _
      rw [columnsOfRows_columnRows]
      rfl

theorem reader_referencingTables :
    ((reader catalog.connection schema).referencingTables name state).1.outcome
      =
    .ok (catalog.referring schema name) := by
  refine (outcome_reply (names _ (referencingTables catalog.connection schema name)) state).trans ?_
  rw [run_names, run_referencingTables]
  exact names_sorted _ _

/-! What is told when all tables can be described. -/

section Described

variable {catalog} {schema name} {database : String} {table : Table} {tables : List Table} {found : CatalogTable}

theorem describe_eq_ok_iff :
    catalog.describe schema name = .ok table
      ↔
    ∃ found, catalog.findText name = .ok found ∧ found.columns ≠ [] ∧ table = catalog.described schema name found := by
  unfold describe
  cases catalog.findText name with
  | error failure => simp
  | ok found =>
    dsimp only
    constructor
    . intro htable
      split at htable
      . cases htable
      . next hcolumns =>
        cases htable
        exact ⟨found, rfl, by simpa using hcolumns, rfl⟩
    . rintro ⟨found, ⟨⟩, hcolumns, rfl⟩
      rw [if_neg (by simpa using hcolumns)]

theorem name_of_describe (htable : catalog.describe schema name = .ok table) : table.name = name := by
  obtain ⟨found, -, -, rfl⟩ := describe_eq_ok_iff.mp htable
  rfl

theorem describe_of_mapM {names : List String} (htables : names.mapM (catalog.describe schema) = .ok tables) :
    tables.map (·.name) = names ∧ ∀ table ∈ tables, catalog.describe schema table.name = .ok table := by
  induction mapM_eq_ok_iff.mp htables with
  | nil => exact ⟨rfl, fun _ hmem => absurd hmem List.not_mem_nil⟩
  | cons htable hrest ih =>
    obtain ⟨hnames, hdescribed⟩ := ih (mapM_eq_ok_iff.mpr hrest)
    obtain rfl := name_of_describe htable
    rw [List.map_cons, hnames, List.forall_mem_cons]
    exact ⟨rfl, htable, hdescribed⟩

theorem describe_of_describeAll (htables : catalog.describeAll database schema = .ok tables) :
    tables.map (·.name) = catalog.baseTables schema ∧
    ∀ table ∈ tables, catalog.describe schema table.name = .ok table := by
  obtain ⟨_, -, hlisted⟩ := bind_eq_ok_iff.mp htables
  obtain ⟨names, hnames, htables⟩ := bind_eq_ok_iff.mp hlisted
  unfold listed at hnames
  split at hnames
  . cases hnames
  . cases hnames
    exact describe_of_mapM htables

theorem mem_baseTables_iff :
    name ∈ catalog.baseTables schema
      ↔
    ∃ own ∈ catalog.tables, own.schema = schema ∧ own.isView = false ∧ own.name = name := by
  unfold baseTables inOrder
  rw [List.mem_mergeSort, List.mem_eraseDups]
  simp [and_assoc]

theorem keyColumns_described :
    (catalog.described schema name found).keyColumns = (found.columns.filter found.isKey).map (·.name) := by
  have hkey (foreign : List String) : (·.isPrimaryKey) ∘ columnOf foreign found = found.isKey := by
    funext column
    unfold columnOf Column.isPrimaryKey
    dsimp only [Function.comp_apply]
    cases found.isKey column with
    | true => rfl
    | false =>
      cases foreign.contains column.name with
      | true => rfl
      | false => rfl
  unfold Table.keyColumns described
  rw [List.filter_map, hkey, List.map_map]
  rfl

theorem describeAll_main (hordinary : catalog.IsOrdinary) (hselect : catalog.select database = .ok ())
    (hviews : catalog.ambiguity? "information_schema" = none) :
    ∃ tables, catalog.describeAll database "main" = .ok tables := by
  have hlisted : catalog.listed "main" = .ok (catalog.baseTables "main") := by
    unfold listed
    rw [hviews]
  have hdescribed : ∀ name ∈ catalog.baseTables "main", ∃ table, catalog.describe "main" name = .ok table := by
    intro name hname
    obtain ⟨own, hown, hschema, -, rfl⟩ := mem_baseTables_iff.mp hname
    have hmain : own ∈ catalog.mainTables := List.mem_filter.mpr ⟨hown, beq_iff_eq.mpr hschema⟩
    have hfound := findText_of_mem_mainTables hordinary.distinct hordinary.names hmain (hordinary.plain own hmain)
    exact ⟨_, describe_eq_ok_iff.mpr ⟨own, hfound, hordinary.columns own hmain, rfl⟩⟩
  obtain ⟨tables, htables⟩ := exists_mapM_eq_ok hdescribed
  refine ⟨tables, ?_⟩
  unfold describeAll
  rw [hselect, hlisted]
  exact htables

end Described

end Catalog
end DuckDb
end TableGraph
