import TableGraph.Proofs.Definition.Printer
import TableGraph.Proofs.TableTypes
import TableGraph.Proofs.Template.Rendering

/-!
The three types of a table agree: each has a field for each column, in order, of the same scalar. They differ in
what they require, and the references of a table come into its entity only.
-/

namespace TableGraph

def TypeRef.ofScalar (scalar : String) (required : Prop) [Decidable required] : TypeRef :=
  if required then .nonNull (.named scalar) else .named scalar

def Field.ofReference (reference : String) : Field where
  name := reference
  type := .named (connectionName reference)

/-- The fields of a table's types that stand at a position are those of a column with a scalar. -/
structure TableTypes.ShapesAt (types : TableTypes) (position : Nat) (column : Column) (scalar : String) :
    Prop where
  created : types.createInput.fields[position]? =
    some ⟨column.name, .ofScalar scalar (column.isPrimaryKey = true ∨ column.nullable = false)⟩
  updated : types.updateInput.fields[position]? =
    some ⟨column.name, .ofScalar scalar (column.isPrimaryKey = true)⟩
  entity : types.entity.fields[position]? =
    some { name := column.name
           type := .ofScalar scalar (column.isPrimaryKey = true ∨ column.nullable = false) }

namespace Table

variable (table : Table) (overrides : Overrides)

theorem fieldType_eq_ofScalar (column : Column) :
    fieldType overrides column
      =
    .ofScalar (scalarOf overrides column) (column.isPrimaryKey = true ∨ column.nullable = false) := by
  unfold fieldType TypeRef.ofScalar
  simp only [Bool.or_eq_true, Bool.not_eq_true']

theorem updateType_eq_ofScalar (column : Column) :
    updateType overrides column = .ofScalar (scalarOf overrides column) (column.isPrimaryKey = true) :=
  rfl

theorem entity_fields_typesWith :
    (table.typesWith overrides).entity.fields
      =
    (table.typesWith overrides).createInput.fields.map (·.toField) ++
      table.references.map Field.ofReference := by
  unfold typesWith
  rw [List.map_map]
  rfl

theorem shapesAt_typesWith {position : Nat} {column : Column} (hcolumn : table.columns[position]? = some column) :
    (table.typesWith overrides).ShapesAt position column (scalarOf overrides column) := by
  have hcreated : (table.typesWith overrides).createInput.fields[position]? =
      some ⟨column.name, fieldType overrides column⟩ := by
    unfold typesWith
    rw [List.getElem?_map, hcolumn]
    rfl
  have hupdated : (table.typesWith overrides).updateInput.fields[position]? =
      some ⟨column.name, updateType overrides column⟩ := by
    unfold typesWith
    rw [List.getElem?_map, hcolumn]
    rfl
  rw [fieldType_eq_ofScalar] at hcreated
  rw [updateType_eq_ofScalar] at hupdated
  refine ⟨hcreated, hupdated, ?_⟩
  -- the fields of the columns come before those of the references
  have hlength : position < ((table.typesWith overrides).createInput.fields.map (·.toField)).length := by
    rw [List.length_map]
    exact (List.getElem?_eq_some_iff.mp hcreated).choose
  rw [entity_fields_typesWith, List.getElem?_append_left hlength, List.getElem?_map, hcreated]
  rfl

end Table

namespace TableTypes

variable {types others : TableTypes}

theorem resolver_congr (htable : others.table = types.table) (hcreate : others.createInput = types.createInput)
    (hkey : others.key? = types.key?) (operation : Operation) :
    others.resolver operation = types.resolver operation := by
  unfold resolver keyColumn? columnNames
  rw [htable, hcreate, hkey]

theorem resolvers_congr (hresolver : ∀ operation, others.resolver operation = types.resolver operation) :
    others.resolvers = types.resolvers := by
  unfold resolvers
  simp only [hresolver]

end TableTypes

namespace Table

/--
The types of a table have their fields in the order of its columns. The entity has those of the create input,
with the same types, and behind them one for each reference. At each position all three have the same scalar:
the entity and the create input require it if it is in the key or cannot be null, the update input only if it
is in the key. With other references a table has the same inputs, the same key and the same resolvers, which
can all be rendered.
-/
theorem types_shapes {table : Table} {options : TableOptions} {types : TableTypes}
    (htypes : table.types options = .ok types) :
    types.createInput.fields.map (·.name) = table.columns.map (·.name) ∧
    types.updateInput.fields.map (·.name) = table.columns.map (·.name) ∧
    types.entity.fields = types.createInput.fields.map (·.toField) ++ table.references.map Field.ofReference ∧
    (∀ position column, table.columns[position]? = some column →
      ∃ scalar, types.ShapesAt position column scalar) ∧
    ∀ references others, Table.types { table with references := references } options = .ok others →
      others.createInput = types.createInput ∧
      others.updateInput = types.updateInput ∧
      others.key? = types.key? ∧
      others.resolvers = types.resolvers ∧
      ∀ operation,
        others.resolver operation = types.resolver operation ∧
        ∀ resolver, types.resolver operation = .ok resolver →
          ∃ request response,
            resolver.request.render = .ok request ∧ resolver.response.render = .ok response := by
  obtain ⟨-, rfl⟩ := types_eq_ok_iff.mp htypes
  refine ⟨columnNames_typesWith _ _, updateInput_fieldNames _ _, entity_fields_typesWith _ _, ?_, ?_⟩
  . intro position column hcolumn
    exact ⟨_, shapesAt_typesWith _ _ hcolumn⟩
  . intro references others hothers
    obtain ⟨-, rfl⟩ := types_eq_ok_iff.mp hothers
    -- nothing but the entity of a table is made of its references
    have hcreate : (typesWith { table with references := references } options.overrides.byBaseName).createInput =
        (table.typesWith options.overrides.byBaseName).createInput := rfl
    have hkey : (typesWith { table with references := references } options.overrides.byBaseName).key? =
        (table.typesWith options.overrides.byBaseName).key? := rfl
    have hresolver := TableTypes.resolver_congr rfl hcreate hkey
    exact ⟨hcreate, rfl, hkey, TableTypes.resolvers_congr hresolver, fun operation =>
      ⟨hresolver operation, fun _ => TableTypes.render_of_resolver⟩⟩

theorem types_shapes_author :
    ∃ types others,
      (sampleTables.head (by decide)).types {} = .ok types ∧
      Table.types { sampleTables.head (by decide) with references := [] } {} = .ok others ∧
      types.createInput.fields.map (·.name) = ["id", "name"] ∧
      types.entity.fields = others.entity.fields ++ [.ofReference "book"] ∧
      (∃ scalar, types.ShapesAt 1 ⟨"name", "varchar(80)", true, .none⟩ scalar) ∧
      others.resolvers = types.resolvers := by
  have htypes : (sampleTables.head (by decide)).types {} = .ok ((sampleTables.head (by decide)).typesWith []) :=
    types_eq_ok_iff.mpr ⟨by decide, rfl⟩
  have hothers : Table.types { sampleTables.head (by decide) with references := [] } {} =
      .ok (typesWith { sampleTables.head (by decide) with references := [] } []) :=
    types_eq_ok_iff.mpr ⟨by decide, rfl⟩
  obtain ⟨hcreated, -, hentity, hshapes, hframe⟩ := types_shapes htypes
  obtain ⟨hcreate, -, -, hresolvers, -⟩ := hframe [] _ hothers
  obtain ⟨-, -, hother, -, -⟩ := types_shapes hothers
  rw [hcreate, List.map_nil, List.append_nil] at hother
  refine ⟨_, _, htypes, hothers, hcreated, ?_, hshapes 1 _ rfl, hresolvers⟩
  rw [hentity, hother]
  rfl

end Table
end TableGraph
