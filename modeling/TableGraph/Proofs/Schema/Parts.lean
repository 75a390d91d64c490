import TableGraph.Proofs.Schema.Document
import TableGraph.Proofs.Schema.RootFields
import TableGraph.Proofs.TableTypes
import TableGraph.Proofs.TypeSystem.Violation

/-!
What holds of everything in the document of a list of tables, by what holds of the tables: of the names that
the document gives, and of the types that it refers to.
-/

namespace TableGraph

def fixedNames : List String :=
  ["items", "nextToken"] ++ rootTypeNames

def madeFieldNames (table : String) : List String :=
  TableTypes.mutationNames table ++ TableTypes.queryNames table ++
    [onCreateFieldName table, createArgumentName table, updateArgumentName table]

theorem forall_mem_derivedNames {table : String} {p : String → Prop} :
    (∀ name ∈ derivedNames table, p name)
      ↔
    p (connectionName table) ∧ p (createInputName table) ∧ p (updateInputName table) := by
  simp [derivedNames]

theorem forall_mem_madeFieldNames {table : String} {p : String → Prop} :
    (∀ name ∈ madeFieldNames table, p name)
      ↔
    p (deleteFieldName table) ∧ p (createFieldName table) ∧ p (updateFieldName table) ∧
      p (getFieldName table) ∧ p (listFieldName table) ∧ p (onCreateFieldName table) ∧
      p (createArgumentName table) ∧ p (updateArgumentName table) := by
  simp [madeFieldNames, TableTypes.mutationNames, TableTypes.queryNames]

namespace Definition

/-- The types that a definition takes values of: those of arguments and of the fields of an input. -/
def inputReferences : Definition → List String
  | .object type => type.fields.flatMap fun field => field.args.map (·.type.name)
  | .input type => type.fields.map (·.type.name)
  | .schema _ => []

/-- The types that a definition gives values of: those of the fields of an object, and the root types. -/
def outputReferences : Definition → List String
  | .object type => type.fields.map (·.type.name)
  | .input _ => []
  | .schema roots => [roots.query, roots.mutation, roots.subscription]

/-- A definition takes values of types with one property, and gives values of types with another one. -/
structure RefersTo (p q : String → Prop) (definition : Definition) : Prop where
  inputs : ∀ name ∈ definition.inputReferences, p name
  outputs : ∀ name ∈ definition.outputReferences, q name

variable {p q : String → Prop}

theorem refersTo_object {type : ObjectType} :
    RefersTo p q (.object type)
      ↔
    ∀ field ∈ type.fields, (∀ arg ∈ field.args, p arg.type.name) ∧ q field.type.name := by
  constructor
  . rintro ⟨hinputs, houtputs⟩ field hfield
    simp only [inputReferences, List.forall_mem_flatMap, List.forall_mem_map] at hinputs
    simp only [outputReferences, List.forall_mem_map] at houtputs
    exact ⟨hinputs field hfield, houtputs field hfield⟩
  . intro hfields
    constructor
    . simp only [inputReferences, List.forall_mem_flatMap, List.forall_mem_map]
      exact fun field hfield => (hfields field hfield).left
    . simp only [outputReferences, List.forall_mem_map]
      exact fun field hfield => (hfields field hfield).right

theorem refersTo_input {type : InputType} :
    RefersTo p q (.input type) ↔ ∀ field ∈ type.fields, p field.type.name := by
  constructor
  . rintro ⟨hinputs, -⟩
    rwa [inputReferences, List.forall_mem_map] at hinputs
  . intro hfields
    constructor
    . rwa [inputReferences, List.forall_mem_map]
    . simp [outputReferences]

theorem refersTo_self_iff {definition : Definition} :
    definition.RefersTo p p ↔ ∀ name ∈ definition.references, p name := by
  cases definition with
  | object type =>
    rw [refersTo_object]
    simp only [references, List.forall_mem_flatMap, List.forall_mem_append, List.forall_mem_map,
      List.forall_mem_singleton]
  | input type =>
    rw [refersTo_input, references, List.forall_mem_map]
  | schema roots =>
    constructor
    . exact fun hroots => hroots.outputs
    . exact fun hroots => ⟨by simp [inputReferences], hroots⟩

end Definition

namespace Document

section Names

variable {table : Table} {overrides : Overrides} {p : String → Prop}

theorem forall_mem_typeNames_iff (hfixed : ∀ name ∈ fixedNames, p name)
    (hderived : p table.name → ∀ name ∈ derivedNames table.name, p name) :
    (∀ definition ∈ (table.typesWith overrides).definitions, ∀ name ∈ definition.names, p name)
      ↔
    p table.name ∧ (∀ column ∈ table.columns, p column.name) ∧
      ∀ reference ∈ table.references, p reference := by
  rw [TableTypes.forall_mem_definitions]
  simp only [Definition.forall_mem_names_object, Definition.forall_mem_names_input]
  constructor
  . rintro ⟨-, ⟨-, hcolumns⟩, ⟨hname, hfields⟩, -⟩
    refine ⟨hname, ?_, ?_⟩
    . intro column hcolumn
      exact hcolumns _ (List.mem_map_of_mem hcolumn)
    . intro reference hreference
      exact (hfields _ (List.mem_append_right _ (List.mem_map_of_mem hreference))).left
  . rintro ⟨hname, hcolumns, hreferences⟩
    obtain ⟨hconnection, hcreate, hupdate⟩ := forall_mem_derivedNames.mp (hderived hname)
    refine ⟨⟨hconnection, ?_⟩, ⟨hcreate, ?_⟩, ⟨hname, ?_⟩, hupdate, ?_⟩
    . have hitems : p "items" := hfixed _ (by decide)
      have htoken : p "nextToken" := hfixed _ (by decide)
      simp [TableTypes.connection, hitems, htoken]
    . unfold Table.typesWith
      rwa [List.forall_mem_map]
    . unfold Table.typesWith
      rw [List.forall_mem_append, List.forall_mem_map, List.forall_mem_map]
      refine ⟨?_, ?_⟩
      . intro column hcolumn
        exact ⟨hcolumns column hcolumn, by simp⟩
      . intro reference hreference
        exact ⟨hreferences reference hreference, by simp⟩
    . unfold Table.typesWith
      rwa [List.forall_mem_map]

theorem forall_mem_mutationNames (hmade : ∀ name ∈ madeFieldNames table.name, p name)
    (hcolumns : ∀ column ∈ table.columns, p column.name) :
    ∀ field ∈ (table.typesWith overrides).mutations, p field.name ∧ ∀ arg ∈ field.args, p arg.name := by
  obtain ⟨hdelete, hcreate, hupdate, -, -, -, hcreateArg, hupdateArg⟩ := forall_mem_madeFieldNames.mp hmade
  rw [TableTypes.forall_mem_mutations]
  refine ⟨⟨hcreate, ?_⟩, ?_⟩
  . exact List.forall_mem_singleton.mpr hcreateArg
  . intro key hkey
    refine ⟨⟨hdelete, ?_⟩, hupdate, ?_⟩
    . exact List.forall_mem_singleton.mpr (Table.of_key? hcolumns hkey)
    . exact List.forall_mem_singleton.mpr hupdateArg

theorem forall_mem_queryNames (hfixed : ∀ name ∈ fixedNames, p name)
    (hmade : ∀ name ∈ madeFieldNames table.name, p name)
    (hcolumns : ∀ column ∈ table.columns, p column.name) :
    ∀ field ∈ (table.typesWith overrides).queries, p field.name ∧ ∀ arg ∈ field.args, p arg.name := by
  obtain ⟨-, -, -, hget, hlist, -⟩ := forall_mem_madeFieldNames.mp hmade
  rw [TableTypes.forall_mem_queries]
  refine ⟨⟨hlist, ?_⟩, ?_⟩
  . exact List.forall_mem_singleton.mpr (hfixed _ (by decide))
  . intro key hkey
    refine ⟨hget, ?_⟩
    exact List.forall_mem_singleton.mpr (Table.of_key? hcolumns hkey)

variable (p) in
theorem forall_mem_names_iff {tables : List Table} (hfixed : ∀ name ∈ fixedNames, p name)
    (hmade : ∀ table ∈ tables, p table.name →
      ∀ name ∈ derivedNames table.name ++ madeFieldNames table.name, p name) :
    (∀ definition ∈ ofTables (tables.map (·.typesWith overrides)), ∀ name ∈ definition.names, p name)
      ↔
    ∀ table ∈ tables, p table.name ∧ (∀ column ∈ table.columns, p column.name) ∧
      ∀ reference ∈ table.references, p reference := by
  simp only [List.forall_mem_append] at hmade
  rw [forall_mem_ofTables, List.forall_mem_map]
  constructor
  . rintro ⟨htypes, -⟩ table htable
    exact (forall_mem_typeNames_iff hfixed fun hname => (hmade table htable hname).left).mp (htypes table htable)
  . intro htables
    have hfields : ∀ table ∈ tables, ∀ name ∈ madeFieldNames table.name, p name :=
      fun table htable => (hmade table htable (htables table htable).left).right
    have hroot : ∀ name ∈ rootTypeNames, p name :=
      fun name hname => hfixed name (List.mem_append_right _ hname)
    simp only [Definition.forall_mem_names_object, List.forall_mem_flatMap, List.forall_mem_map]
    refine ⟨?_, ⟨hroot _ (by decide), ?_⟩, ⟨hroot _ (by decide), ?_⟩, ⟨hroot _ (by decide), ?_⟩, ?_⟩
    . intro table htable
      apply (forall_mem_typeNames_iff hfixed _).mpr (htables table htable)
      exact fun hname => (hmade table htable hname).left
    . intro table htable
      exact forall_mem_mutationNames (hfields table htable) (htables table htable).right.left
    . intro table htable
      exact forall_mem_queryNames hfixed (hfields table htable) (htables table htable).right.left
    . intro table htable
      obtain ⟨-, -, -, -, -, honCreate, -⟩ := forall_mem_madeFieldNames.mp (hfields table htable)
      exact ⟨honCreate, by simp [TableTypes.subscription]⟩
    . simp [Definition.names]

end Names

section References

variable {table : Table} {overrides : Overrides} {p q : String → Prop}

theorem refersTo_definitions_iff (hstring : q "String") (hentity : q table.name) :
    (∀ definition ∈ (table.typesWith overrides).definitions, definition.RefersTo p q)
      ↔
    (∀ column ∈ table.columns,
      p (Table.scalarOf overrides column) ∧ q (Table.scalarOf overrides column)) ∧
    ∀ reference ∈ table.references, q (connectionName reference) := by
  rw [TableTypes.forall_mem_definitions]
  simp only [Definition.refersTo_object, Definition.refersTo_input]
  constructor
  . rintro ⟨-, hcreate, hfields, -⟩
    refine ⟨?_, ?_⟩
    . intro column hcolumn
      have hinput := hcreate _ (List.mem_map_of_mem hcolumn)
      have houtput := (hfields _ (List.mem_append_left _ (List.mem_map_of_mem hcolumn))).right
      rw [Table.fieldType_name] at hinput houtput
      exact ⟨hinput, houtput⟩
    . intro reference hreference
      exact (hfields _ (List.mem_append_right _ (List.mem_map_of_mem hreference))).right
  . rintro ⟨hscalars, hreferences⟩
    refine ⟨?_, ?_, ?_, ?_⟩
    . simp [TableTypes.connection, TypeRef.name, hstring, hentity]
    . unfold Table.typesWith
      simp only [List.forall_mem_map, Table.fieldType_name]
      exact fun column hcolumn => (hscalars column hcolumn).left
    . unfold Table.typesWith
      simp only [List.forall_mem_append, List.forall_mem_map, Table.fieldType_name]
      refine ⟨?_, ?_⟩
      . intro column hcolumn
        exact ⟨by simp, (hscalars column hcolumn).right⟩
      . intro reference hreference
        exact ⟨by simp, hreferences reference hreference⟩
    . unfold Table.typesWith
      simp only [List.forall_mem_map, Table.updateType_name]
      exact fun column hcolumn => (hscalars column hcolumn).left

theorem refersTo_mutations (hentity : q table.name) (hcreate : p (createInputName table.name))
    (hupdate : p (updateInputName table.name))
    (hkey : ∀ key, table.key? overrides = some key → p key.scalar) :
    ∀ field ∈ (table.typesWith overrides).mutations,
      (∀ arg ∈ field.args, p arg.type.name) ∧ q field.type.name := by
  rw [TableTypes.forall_mem_mutations]
  refine ⟨⟨?_, hentity⟩, ?_⟩
  . exact List.forall_mem_singleton.mpr hcreate
  . intro key heq
    have hscalar : p key.scalar := hkey key heq
    refine ⟨⟨?_, hentity⟩, ?_, hentity⟩
    . exact List.forall_mem_singleton.mpr hscalar
    . exact List.forall_mem_singleton.mpr hupdate

theorem refersTo_queries (hstring : p "String") (hentity : q table.name)
    (hconnection : q (connectionName table.name))
    (hkey : ∀ key, table.key? overrides = some key → p key.scalar) :
    ∀ field ∈ (table.typesWith overrides).queries,
      (∀ arg ∈ field.args, p arg.type.name) ∧ q field.type.name := by
  rw [TableTypes.forall_mem_queries]
  refine ⟨⟨?_, hconnection⟩, ?_⟩
  . exact List.forall_mem_singleton.mpr hstring
  . intro key heq
    have hscalar : p key.scalar := hkey key heq
    refine ⟨?_, hentity⟩
    exact List.forall_mem_singleton.mpr hscalar

/-- The types that documents refer to anyway: they take strings and the inputs of their tables, and they give
strings, root types, and the rows of their tables with the pages of them. -/
structure Serves (p q : String → Prop) (tables : List Table) : Prop where
  takesString : p "String"
  takesInputs : ∀ table ∈ tables, p (createInputName table.name) ∧ p (updateInputName table.name)
  givesString : q "String"
  givesRoots : ∀ name ∈ rootTypeNames, q name
  givesRows : ∀ table ∈ tables, q table.name ∧ q (connectionName table.name)

/-- A document takes and gives the scalars of its columns, and it gives what references lead to. -/
theorem refersTo_ofTables_iff {tables : List Table} (hserves : Serves p q tables) :
    (∀ definition ∈ ofTables (tables.map (·.typesWith overrides)), definition.RefersTo p q)
      ↔
    ∀ table ∈ tables,
      (∀ column ∈ table.columns,
        p (Table.scalarOf overrides column) ∧ q (Table.scalarOf overrides column)) ∧
      ∀ reference ∈ table.references, q (connectionName reference) := by
  have htypes : (∀ table ∈ tables, ∀ definition ∈ (table.typesWith overrides).definitions,
      definition.RefersTo p q)
        ↔
      ∀ table ∈ tables,
        (∀ column ∈ table.columns,
          p (Table.scalarOf overrides column) ∧ q (Table.scalarOf overrides column)) ∧
        ∀ reference ∈ table.references, q (connectionName reference) :=
    forall₂_congr fun table htable =>
      refersTo_definitions_iff hserves.givesString (hserves.givesRows table htable).left
  rw [forall_mem_ofTables, List.forall_mem_map, htypes]
  apply and_iff_left_of_imp
  intro htables
  have hkeys : ∀ table ∈ tables, ∀ key, table.key? overrides = some key → p key.scalar := by
    intro table htable key hkey
    obtain ⟨column, hcolumn, -, hscalar⟩ := Table.mem_columns_of_key? hkey
    rw [← hscalar]
    exact ((htables table htable).left column hcolumn).left
  -- the root types refer to the types of the tables and to the scalars of their keys only
  simp only [Definition.refersTo_object, List.forall_mem_flatMap, List.forall_mem_map]
  refine ⟨?_, ?_, ?_, ?_⟩
  . intro table htable
    obtain ⟨hcreate, hupdate⟩ := hserves.takesInputs table htable
    exact refersTo_mutations (hserves.givesRows table htable).left hcreate hupdate (hkeys table htable)
  . intro table htable
    obtain ⟨hentity, hconnection⟩ := hserves.givesRows table htable
    exact refersTo_queries hserves.takesString hentity hconnection (hkeys table htable)
  . intro table htable
    refine ⟨?_, (hserves.givesRows table htable).left⟩
    simp [TableTypes.subscription]
  . constructor
    . simp [Definition.inputReferences]
    . intro name hname
      apply hserves.givesRoots
      simpa [Definition.outputReferences, rootTypeNames, or_left_comm] using hname

end References

end Document
end TableGraph
