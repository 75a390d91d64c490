import TableGraph.Proofs.Build.Order
import TableGraph.Proofs.DuckDb.Reader
import TableGraph.Proofs.Scalar

/-!
The scalars of columns that are read from a DuckDB database. The reader gives types their common names, so it is
the overrides for these that a build knows of, and not those for the names that the database itself has for them.
-/

namespace TableGraph
namespace DuckDb

variable {κ : Type}

/-- The scalar of a column is decided under the common name of its type, if that has one. -/
structure ScalarFor (overrides : Overrides) (sqlType scalar : String) : Prop where
  unnamed : typeAliases.lookup (baseName sqlType) = none → overrides.Decides sqlType scalar
  renamed : ∀ common, typeAliases.lookup (baseName sqlType) = some common → overrides.Decides common scalar

theorem scalarFor_commonType {overrides : Overrides} {sqlType scalar : String}
    (hdecides : overrides.Decides (commonType sqlType) scalar) : ScalarFor overrides sqlType scalar where
  unnamed := by
    intro hlookup
    rwa [commonType_of_unnamed hlookup] at hdecides
  renamed := by
    intro common hlookup
    rwa [commonType_of_lookup hlookup] at hdecides

theorem Connection.Describes.shapes {connection : Connection κ} {schema : String} {state : κ} {rows : List Row}
    {table : Table} {options : TableOptions} {types : TableTypes}
    (hdescribes : connection.Describes schema table.name state rows table.columns)
    (htypes : table.types options = .ok types) :
    rows.length = types.createInput.fields.length ∧
    ∀ position (row : Row), rows[position]? = some row →
      ∃ column name sqlType required scalar,
        row.Tells column name sqlType required ∧
        types.ShapesAt position column scalar ∧
        ScalarFor options.overrides sqlType scalar := by
  obtain ⟨keys, foreign, -, -, hcolumns⟩ := hdescribes.told
  have htold := columnsOfRows_eq_ok_iff.mp hcolumns
  obtain ⟨-, rfl⟩ := Table.types_eq_ok_iff.mp htypes
  refine ⟨htold.length_eq.trans (List.length_map _).symm, ?_⟩
  intro position row hrow
  obtain ⟨hlength, rfl⟩ := List.getElem?_eq_some_iff.mp hrow
  have hcolumn := List.getElem?_eq_getElem (htold.length_eq ▸ hlength)
  obtain ⟨name, sqlType, required, htells⟩ := tells_of_columnOfRow (htold.get hlength _)
  refine ⟨_, name, sqlType, required, _, htells, table.shapesAt_typesWith _ hcolumn, ?_⟩
  exact scalarFor_commonType (Overrides.decides_iff.mpr (congrArg _ htells.sqlType_eq.symm))

/--
What a build over a connection returns: it has the listed tables, and each has a field for every row that the
connection answered when it was asked for the columns of that table, in order. If the type in a row has no common
name, the last override for its base name decides its scalar, or else the known scalars do. If it has one, the
overrides for the common name decide, and those for the type's own name are never asked.
-/
theorem run_scalars (connection : Connection κ) (schema id database : String) (options : BuildOptions)
    (session : Session (ReaderState κ)) {build : Build}
    (hrun : ((Build.run (reader connection schema) options id database).run session).1 = .ok build) :
    (reader connection schema).Opens database session.state build.tableNames ∧
    ∀ place (types : TableTypes), build.tables[place]? = some types →
      ∃ rows,
        connection.answer (.columns types.table)
          ((reader connection schema).afterAll ((build.tableNames.take place).flatMap Build.tableCalls)
            ((reader connection schema).opened database session.state)).connection = .ok rows ∧
        rows.length = types.createInput.fields.length ∧
        ∀ position (row : Row), rows[position]? = some row →
          ∃ column name sqlType required scalar,
            row.Tells column name sqlType required ∧
            types.ShapesAt position column scalar ∧
            ScalarFor options.overrides sqlType scalar := by
  obtain ⟨tables, hreturns⟩ := Build.run_eq_ok_iff.mp hrun
  have hnames : build.tableNames = tables.map (·.name) := Table.names_of_mapM_types hreturns.accepted
  rw [hnames]
  refine ⟨hreturns.opens, ?_⟩
  intro place types hplace
  obtain ⟨table, htypes, hdescribed⟩ := hreturns.toReads.exists_table hplace
  obtain ⟨rows, hdescribes⟩ := reader_describeTable_eq_ok_iff.mp hdescribed.columns
  obtain ⟨hlength, hshapes⟩ := hdescribes.shapes htypes
  have htable := (Table.types_eq_ok_iff.mp htypes).right
  refine ⟨rows, ?_, hlength, hshapes⟩
  rw [← List.map_take]
  subst htable
  exact hdescribes.answered

def soleTable (rows : List Row) : Connection Unit where
  execute query state :=
    (.ok (match query with
      | .currentDatabase => [[.text "shop"]]
      | .tableNames _ => [[.text "A"]]
      | .columns _ => rows
      | _ => []), state)

def hugeKey : Row :=
  [.int 0, .text "id", .text "HUGEINT", .bool true, .null, .bool true]

def token : Row :=
  [.int 1, .text "token", .text "uuid", .bool false, .null, .bool false]

theorem run_scalars_token :
    ∃ build types column,
      ((Build.run (reader (soleTable [hugeKey, token]) "main") { overrides := [("UUID", "String"), ("Uuid(", "ID")] }
        "b1" "shop").run ⟨⟨(), false⟩, [], []⟩).1 = .ok build ∧
      build.tables = [types] ∧ column.name = "token" ∧ types.ShapesAt 1 column "ID" := by
  have hok : ((Build.run (reader (soleTable [hugeKey, token]) "main")
      { overrides := [("UUID", "String"), ("Uuid(", "ID")] } "b1" "shop").run ⟨⟨(), false⟩, [], []⟩).1.isOk := by
    decide +kernel
  cases hrun : ((Build.run (reader (soleTable [hugeKey, token]) "main")
    { overrides := [("UUID", "String"), ("Uuid(", "ID")] } "b1" "shop").run ⟨⟨(), false⟩, [], []⟩).1 with
  | error failure =>
    rw [hrun] at hok
    cases hok
  | ok build =>
    obtain ⟨hopens, hscalars⟩ := run_scalars _ _ _ _ _ _ hrun
    have hlisted : build.tables.map (·.table) = ["A"] := (Except.ok.inj hopens.listed).symm
    obtain ⟨types, htables, -⟩ := List.map_eq_singleton_iff.mp hlisted
    obtain ⟨rows, hanswered, -, hrows⟩ := hscalars 0 types (by rw [htables]; rfl)
    obtain rfl : [hugeKey, token] = rows := Except.ok.inj hanswered
    obtain ⟨column, name, sqlType, required, scalar, htells, hshapes, hscalar⟩ := hrows 1 token rfl
    obtain ⟨index, value, primary, hcells⟩ := htells.cells
    cases hcells
    have hdecides := Overrides.decides_iff.mp (hscalar.unnamed (by decide))
    obtain rfl : "ID" = scalar := hdecides
    exact ⟨build, types, column, rfl, htables, htells.name_eq, hshapes⟩

/-- The override for the type's own name is not asked: its values have the scalar known for the common name. -/
theorem run_hugeKey :
    ((Build.run (reader (soleTable [hugeKey]) "main") { overrides := [("HUGEINT", "ID")] } "b1" "shop").run
      ⟨⟨(), false⟩, [], []⟩).1.map (fun build => build.tables.map (·.createInput.fields)) =
        .ok [[⟨"id", .nonNull (.named "Int")⟩]] ∧
    Overrides.Gives [("HUGEINT", "ID")] "HUGEINT" "ID" := by
  refine ⟨?_, [], "HUGEINT", [], rfl, rfl, by simp⟩
  rfl

end DuckDb
end TableGraph
