import TableGraph.Build
import TableGraph.Proofs.Record
import TableGraph.Proofs.Resolver.Operations
import TableGraph.Proofs.Resolver.Reads
import TableGraph.Proofs.Schema.RequestFields
import TableGraph.Proofs.TableTypes

/-!
The resolvers of a build are made for its document: one for each field of `Query` and `Mutation`, which
reads no argument but those of the field, and no column but those of the input that it is given.
-/

namespace TableGraph
namespace Build

def resolvedFields (build : Build) : List (String × String) :=
  build.resolvers.flatMap fun entry => entry.2.map fun made => (made.2.type, made.2.field)

structure Agrees (build : Build) : Prop where
  nodup : build.resolvedFields.Nodup
  fields : build.resolvedFields.Perm (build.document.requestFields.map fun entry => (entry.1, entry.2.name))
  arguments : ∀ entry ∈ build.resolvers, ∀ made ∈ entry.2, ∀ field,
    (made.2.type, field) ∈ build.document.requestFields → field.name = made.2.field →
      ∀ name ∈ made.2.argumentsRead, name ∈ field.args.map (·.name)
  created : ∀ entry ∈ build.resolvers, ∀ made ∈ entry.2,
    made.2.type = "Mutation" → made.2.field = createFieldName entry.1 →
      ∃ input, build.document.inputType? (createInputName entry.1) = some input ∧
        made.2.request.collections = [.list ((input.fields.map (·.name)).map .text)]
  updated : ∀ entry ∈ build.resolvers, ∀ made ∈ entry.2,
    made.2.type = "Mutation" → made.2.field = updateFieldName entry.1 →
      ∃ input key, build.document.inputType? (updateInputName entry.1) = some input ∧
        (∃ types ∈ build.tables, types.table = entry.1 ∧ types.keyColumn? = some key) ∧
        made.2.request.propertiesRead "input" = [key] ∧ key ∈ input.fields.map (·.name) ∧
        made.2.request.collections = [.list (((input.fields.map (·.name)).filter (· != key)).map .text)]

end Build

namespace TableTypes

variable (types : TableTypes)

theorem perm_requestFields :
    (types.resolvers.map fun made => (made.2.type, made.2.field)).Perm
      (types.requestFields.map fun entry => (entry.1, entry.2.name)) := by
  unfold requestFields
  cases hkey : types.key? with
  | none =>
    rw [resolvers_of_keyless hkey, queries_of_keyless hkey, mutations_of_keyless hkey]
    rfl
  | some key =>
    rw [resolvers_of_key hkey, queries_of_key hkey, mutations_of_key hkey]
    apply List.Perm.cons
    apply List.Perm.cons
    -- the deletion comes last among the resolvers and first among the mutations
    exact List.perm_append_singleton _ [_, _]

theorem argumentsRead_declared (htable : Lacks '.' types.table)
    (hcolumns : ∀ column ∈ types.columnNames, Lacks '.' column)
    (hkeys : ∀ key, types.key? = some key → Lacks '.' key.column) :
    ∀ made ∈ types.resolvers, ∃ field, (made.2.type, field) ∈ types.requestFields ∧
      field.name = made.2.field ∧ ∀ name ∈ made.2.argumentsRead, name ∈ field.args.map (·.name) := by
  unfold requestFields
  cases hkey : types.key? with
  | none =>
    rw [resolvers_of_keyless hkey, queries_of_keyless hkey, mutations_of_keyless hkey]
    simp only [List.forall_mem_cons]
    refine ⟨⟨types.listField, ?_, rfl, ?_⟩, ⟨types.createField, ?_, rfl, ?_⟩, ?_⟩
    . simp [Resolver.list]
    . simp [Resolver.argumentsRead_list htable]
    . simp [Resolver.create]
    . simp [Resolver.argumentsRead_create htable hcolumns, createField]
    . simp
  | some key =>
    have hlacks : Lacks '.' key.column := hkeys key hkey
    rw [resolvers_of_key hkey, queries_of_key hkey, mutations_of_key hkey]
    simp only [List.forall_mem_cons]
    refine ⟨⟨types.getField key, ?_, rfl, ?_⟩, ⟨types.listField, ?_, rfl, ?_⟩,
      ⟨types.createField, ?_, rfl, ?_⟩, ⟨types.updateField, ?_, rfl, ?_⟩,
      ⟨types.deleteField key, ?_, rfl, ?_⟩, ?_⟩
    . simp [Resolver.get]
    . simp [Resolver.argumentsRead_get htable hlacks, getField, keyArgument]
    . simp [Resolver.list]
    . simp [Resolver.argumentsRead_list htable]
    . simp [Resolver.create]
    . simp [Resolver.argumentsRead_create htable hcolumns, createField, hlacks]
    . simp [Resolver.update]
    . simp [Resolver.argumentsRead_update htable hlacks hcolumns, updateField]
    . simp [Resolver.delete]
    . simp [Resolver.argumentsRead_delete htable hlacks, deleteField, keyArgument]
    . simp

theorem collections_of_created :
    ∀ made ∈ types.resolvers, made.2.type = "Mutation" → made.2.field = createFieldName types.table →
      made.2.request.collections = [.list (types.columnNames.map .text)] := by
  cases hkey : types.key? with
  | none =>
    rw [resolvers_of_keyless hkey]
    simp only [List.forall_mem_cons]
    refine ⟨?_, ?_, ?_⟩
    . intro htype
      exact absurd htype (by simp [Resolver.list])
    . intro _ _
      exact Resolver.collections_create types.table types.columnNames none
    . simp
  | some key =>
    rw [resolvers_of_key hkey]
    simp only [List.forall_mem_cons]
    refine ⟨?_, ?_, ?_, ?_, ?_, ?_⟩
    . intro htype
      exact absurd htype (by simp [Resolver.get])
    . intro htype
      exact absurd htype (by simp [Resolver.list])
    . intro _ _
      exact Resolver.collections_create types.table types.columnNames (some key.column)
    . intro _ hfield
      exact absurd hfield.symm (createFieldName_ne_updateFieldName _ _)
    . intro _ hfield
      exact absurd hfield (deleteFieldName_ne_createFieldName _ _)
    . simp

theorem reads_of_updated :
    ∀ made ∈ types.resolvers, made.2.type = "Mutation" → made.2.field = updateFieldName types.table →
      ∃ key, types.keyColumn? = some key ∧ made.2.request.propertiesRead "input" = [key] ∧
        made.2.request.collections = [.list ((types.columnNames.filter (· != key)).map .text)] := by
  cases hkey : types.key? with
  | none =>
    rw [resolvers_of_keyless hkey]
    simp only [List.forall_mem_cons]
    refine ⟨?_, ?_, ?_⟩
    . intro htype
      exact absurd htype (by simp [Resolver.list])
    . intro _ hfield
      exact absurd hfield (createFieldName_ne_updateFieldName _ _)
    . simp
  | some key =>
    rw [resolvers_of_key hkey]
    simp only [List.forall_mem_cons]
    refine ⟨?_, ?_, ?_, ?_, ?_, ?_⟩
    . intro htype
      exact absurd htype (by simp [Resolver.get])
    . intro htype
      exact absurd htype (by simp [Resolver.list])
    . intro _ hfield
      exact absurd hfield (createFieldName_ne_updateFieldName _ _)
    . intro _ _
      refine ⟨key.column, ?_, ?_, ?_⟩
      . rw [keyColumn?, hkey]
        rfl
      . apply Resolver.propertiesRead_update
      . apply Resolver.collections_update
    . intro _ hfield
      exact absurd hfield (deleteFieldName_ne_updateFieldName _ _)
    . simp

end TableTypes

namespace Table

theorem argumentsRead_declared {table : Table} {strict : Bool} {overrides : Overrides}
    (hfaults : table.faults strict = []) :
    ∀ made ∈ (table.typesWith overrides).resolvers,
      ∃ field, (made.2.type, field) ∈ (table.typesWith overrides).requestFields ∧
        field.name = made.2.field ∧ ∀ name ∈ made.2.argumentsRead, name ∈ field.args.map (·.name) := by
  obtain ⟨⟨⟨htable, -⟩, hcolumns⟩, -⟩ := faults_eq_nil_iff.mp hfaults
  have hdotless : ∀ column ∈ table.columns, Lacks '.' column.name := by
    intro column hcolumn
    exact lacks_of_isAcceptedName (hcolumns column hcolumn) (by decide) (by decide)
  apply TableTypes.argumentsRead_declared
  . exact lacks_of_isAcceptedName htable (by decide) (by decide)
  . rwa [columnNames_typesWith, List.forall_mem_map]
  . exact fun key hkey => of_key? hdotless hkey

end Table

namespace Build

theorem resolvers_of_nodup {build : Build} (hnames : (build.tables.map (·.table)).Nodup) :
    build.resolvers = build.tables.map fun types => (types.table, types.resolvers) := by
  unfold resolvers
  apply recordEntries_of_nodup
  rwa [List.map_map]

theorem mem_resolvers_iff {build : Build} (hnames : (build.tables.map (·.table)).Nodup)
    {entry : String × List (Operation × Resolver)} :
    entry ∈ build.resolvers ↔ ∃ types ∈ build.tables, entry = (types.table, types.resolvers) := by
  rw [resolvers_of_nodup hnames, List.mem_map]
  simp only [eq_comm]

theorem perm_resolvedFields (build : Build) (hnames : (build.tables.map (·.table)).Nodup)
    (hdocument : build.document = .ofTables build.tables) :
    build.resolvedFields.Perm
      (build.document.requestFields.map fun entry => (entry.1, entry.2.name)) := by
  unfold resolvedFields
  rw [resolvers_of_nodup hnames, hdocument, List.flatMap_map]
  have htables : (build.tables.flatMap fun types =>
      types.resolvers.map fun made => (made.2.type, made.2.field)).Perm
        (build.tables.flatMap fun types =>
          types.requestFields.map fun entry => (entry.1, entry.2.name)) := by
    apply List.Perm.flatMap_left
    intro types _
    exact types.perm_requestFields
  apply htables.trans
  rw [← List.map_flatMap]
  exact (Document.perm_requestFields build.tables).map _

/-- Builds whose tables have distinct names fit together, whatever keys the tables have. -/
theorem agrees_ofTables {tables : List Table} {options : TableOptions} {types : List TableTypes}
    (htypes : tables.mapM (·.types options) = .ok types) (hdistinct : (tables.map (·.name)).Nodup)
    (database : String) : Agrees ⟨database, types, .ofTables types⟩ := by
  obtain ⟨hfaults, rfl⟩ := Table.mapM_types_eq_ok_iff.mp htypes
  have hnames : ((tables.map (·.typesWith options.overrides.byBaseName)).map (·.table)).Nodup := by
    rwa [List.map_map]
  have hperm := perm_resolvedFields ⟨database, _, .ofTables _⟩ hnames rfl
  have hnodup := Document.nodup_requestFields hnames
  refine ⟨hperm.nodup_iff.mpr hnodup, hperm, ?_, ?_, ?_⟩
  . intro entry hentry made hmade field hfield hname
    obtain ⟨types, hmem, rfl⟩ := (mem_resolvers_iff hnames).mp hentry
    obtain ⟨table, htable, rfl⟩ := List.mem_map.mp hmem
    obtain ⟨declared, hdeclared, hfieldName, hreads⟩ :=
      Table.argumentsRead_declared (hfaults table htable) made hmade
    -- a field is known by its type and its name, so the declared field is the given one
    have heq : (made.2.type, declared) = (made.2.type, field) := by
      apply List.inj_on_of_nodup_map hnodup (Document.requestFields_subset hmem hdeclared) hfield
      exact Prod.ext rfl (hfieldName.trans hname.symm)
    cases heq
    exact hreads
  . intro entry hentry made hmade htype hname
    obtain ⟨types, hmem, rfl⟩ := (mem_resolvers_iff hnames).mp hentry
    obtain ⟨table, htable, rfl⟩ := List.mem_map.mp hmem
    refine ⟨_, Document.inputType?_createInput hdistinct htable, ?_⟩
    exact TableTypes.collections_of_created _ made hmade htype hname
  . intro entry hentry made hmade htype hname
    obtain ⟨types, hmem, rfl⟩ := (mem_resolvers_iff hnames).mp hentry
    obtain ⟨table, htable, rfl⟩ := List.mem_map.mp hmem
    obtain ⟨key, hkey, hproperties, hcollections⟩ :=
      TableTypes.reads_of_updated _ made hmade htype hname
    refine ⟨_, key, Document.inputType?_updateInput hdistinct htable, ⟨_, hmem, rfl, hkey⟩, hproperties, ?_⟩
    rw [Table.columnNames_typesWith] at hcollections
    rw [Table.updateInput_fieldNames]
    refine ⟨?_, hcollections⟩
    obtain ⟨found, hfound, rfl⟩ := Option.map_eq_some_iff.mp hkey
    exact Table.of_key? (fun column hcolumn => List.mem_map_of_mem hcolumn) hfound

theorem agrees_sampleTables :
    (sampleTables.map (·.name)).Nodup ∧
      Agrees ⟨"library", sampleTables.map (·.typesWith []), .ofTables (sampleTables.map (·.typesWith []))⟩ := by
  have hdistinct : (sampleTables.map (·.name)).Nodup := by decide
  exact ⟨hdistinct, agrees_ofTables mapM_types_sampleTables hdistinct "library"⟩

end Build
end TableGraph
