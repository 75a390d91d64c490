import TableGraph.Proofs.Schema.Acceptance
import TableGraph.Proofs.Schema.RequestFields
import TableGraph.Proofs.Schema.Suggestions
import TableGraph.Proofs.TypeSystem.Signatures

/-!
Which accepted documents are valid schemas of GraphQL. That a document was accepted says that its types are
distinct and that those referred to are there. The rest has to be known of the tables: that there are some,
that all of them have columns, that no name is reserved, and that columns have scalars.
-/

namespace TableGraph

def IsReserved (name : String) : Prop :=
  "__".toList <+: name.toList

instance (name : String) : Decidable (IsReserved name) :=
  inferInstanceAs (Decidable ("__".toList <+: name.toList))

def introspectionObjects : List String :=
  ["__Schema", "__Directive", "__Type", "__Field", "__InputValue", "__EnumValue"]

namespace Document

def objectNames (document : Document) : List String :=
  document.filterMap fun
    | .object type => some type.name
    | _ => none

def inputNames (document : Document) : List String :=
  document.filterMap fun
    | .input type => some type.name
    | _ => none

structure IsValid (document : Document) : Prop where
  distinct : (Scalar.serviceNames ++ document.typeNames).Nodup
  notStandard : ∀ name ∈ document.typeNames, name ∉ standardScalars
  notReserved : ∀ definition ∈ document, ∀ name ∈ definition.names, ¬IsReserved name
  nonempty : ∀ definition ∈ document, definition.name?.isSome → definition.fieldNames ≠ []
  resolved : ∀ definition ∈ document, ∀ name ∈ definition.references, name ∈ document.knownNames
  inputs : ∀ definition ∈ document, ∀ name ∈ definition.inputReferences,
    name ∈ knownScalars ∨ name ∈ document.inputNames
  outputs : ∀ definition ∈ document, ∀ name ∈ definition.outputReferences,
    name ∈ knownScalars ∨ name ∈ introspectionObjects ∨ name ∈ document.objectNames

end Document

/-- What has to be known of a table for an accepted document with it to be valid. -/
structure Table.IsSound (table : Table) (overrides : Overrides) : Prop where
  notStandard : table.name ∉ standardScalars
  notReserved : ¬IsReserved table.name ∧ (∀ column ∈ table.columns, ¬IsReserved column.name) ∧
    ∀ reference ∈ table.references, ¬IsReserved reference
  nonempty : table.columns ≠ []
  scalars : ∀ column ∈ table.columns, Table.scalarOf overrides column ∈ knownScalars

instance (table : Table) (overrides : Overrides) : Decidable (table.IsSound overrides) :=
  decidable_of_iff
    (table.name ∉ standardScalars ∧
      (¬IsReserved table.name ∧ (∀ column ∈ table.columns, ¬IsReserved column.name) ∧
        ∀ reference ∈ table.references, ¬IsReserved reference) ∧
      table.columns ≠ [] ∧ ∀ column ∈ table.columns, Table.scalarOf overrides column ∈ knownScalars)
    ⟨fun ⟨standard, reserved, nonempty, scalars⟩ => ⟨standard, reserved, nonempty, scalars⟩,
     fun ⟨standard, reserved, nonempty, scalars⟩ => ⟨standard, reserved, nonempty, scalars⟩⟩

section Reserved

variable {table : String}

theorem not_isReserved_connectionName (htable : ¬IsReserved table) : ¬IsReserved (connectionName table) := by
  unfold IsReserved connectionName at *
  rw [String.toList_append]
  generalize table.toList = chars at *
  -- the first two characters are those of the table, unless it has fewer
  rcases chars with _ | ⟨first, _ | ⟨second, rest⟩⟩
  . decide
  . simp
  . simpa using htable

theorem not_isReserved_of_prefix {front name : String} (hfront : front.toList <+: name.toList)
    (hlength : 2 ≤ front.toList.length) (hreserved : ¬IsReserved front) : ¬IsReserved name :=
  fun hname => hreserved (List.prefix_of_prefix_length_le hname hfront hlength)

theorem prefix_createArgumentName : "create".toList <+: (createArgumentName table).toList := by
  unfold createArgumentName
  rw [String.append_assoc]
  apply prefix_append

theorem prefix_updateArgumentName : "update".toList <+: (updateArgumentName table).toList := by
  unfold updateArgumentName
  rw [String.append_assoc]
  apply prefix_append

end Reserved

namespace Document

section Names

variable {tables : List Table} {overrides : Overrides}

theorem notStandard_iff :
    (∀ name ∈ typeNames (ofTables (tables.map (·.typesWith overrides))), name ∉ standardScalars)
      ↔
    ∀ table ∈ tables, table.name ∉ standardScalars := by
  have hspared : SparesGenerated standardScalars := by decide
  rw [typeNames_ofTables, List.forall_mem_append, List.forall_mem_flatMap, List.forall_mem_map]
  constructor
  . rintro ⟨htypes, -⟩ table htable
    exact htypes table htable _ (mem_tableTypeNames.mpr (.inl rfl))
  . intro htables
    refine ⟨?_, by decide⟩
    intro table htable name hname
    rcases mem_tableTypeNames.mp hname with rfl | hderived
    . exact htables table htable
    . exact not_mem_of_mem_derivedNames hspared hderived

theorem notReserved_iff :
    (∀ definition ∈ ofTables (tables.map (·.typesWith overrides)), ∀ name ∈ definition.names,
      ¬IsReserved name)
      ↔
    ∀ table ∈ tables, ¬IsReserved table.name ∧ (∀ column ∈ table.columns, ¬IsReserved column.name) ∧
      ∀ reference ∈ table.references, ¬IsReserved reference := by
  apply forall_mem_names_iff (¬IsReserved ·)
  . decide
  . intro table _ hname
    rw [List.forall_mem_append, forall_mem_derivedNames, forall_mem_madeFieldNames]
    refine ⟨⟨not_isReserved_connectionName hname, ?_, ?_⟩, ?_, ?_, ?_, ?_, ?_, ?_, ?_, ?_⟩
    . exact not_isReserved_of_prefix (prefix_createInputName _) (by decide) (by decide)
    . exact not_isReserved_of_prefix (prefix_updateInputName _) (by decide) (by decide)
    . exact not_isReserved_of_prefix (prefix_append _ "delete") (by decide) (by decide)
    . exact not_isReserved_of_prefix (prefix_append _ "create") (by decide) (by decide)
    . exact not_isReserved_of_prefix (prefix_append _ "update") (by decide) (by decide)
    . exact not_isReserved_of_prefix (prefix_append _ "get") (by decide) (by decide)
    . exact not_isReserved_of_prefix (prefix_listFieldName _) (by decide) (by decide)
    . exact not_isReserved_of_prefix (prefix_append _ "onCreate") (by decide) (by decide)
    . exact not_isReserved_of_prefix prefix_createArgumentName (by decide) (by decide)
    . exact not_isReserved_of_prefix prefix_updateArgumentName (by decide) (by decide)

theorem nonempty_iff :
    (∀ definition ∈ ofTables (tables.map (·.typesWith overrides)),
      definition.name?.isSome → definition.fieldNames ≠ [])
      ↔
    tables ≠ [] ∧ ∀ table ∈ tables, table.columns ≠ [] := by
  rw [forall_mem_ofTables, List.forall_mem_map]
  constructor
  . rintro ⟨htypes, hmutation, -⟩
    refine ⟨?_, ?_⟩
    . rintro rfl
      exact hmutation rfl rfl
    . intro table htable
      obtain ⟨-, -, -, hupdate⟩ := TableTypes.forall_mem_definitions.mp (htypes table htable)
      have hfields := hupdate rfl
      rwa [Definition.fieldNames, Table.updateInput_fieldNames, ne_eq, List.map_eq_nil_iff] at hfields
  . rintro ⟨htables, hcolumns⟩
    obtain ⟨first, rest, rfl⟩ := List.exists_cons_of_ne_nil htables
    refine ⟨?_, ?_, ?_, ?_, ?_⟩
    . intro table htable
      have hnames : table.columns.map (·.name) ≠ [] := by
        rw [ne_eq, List.map_eq_nil_iff]
        exact hcolumns table htable
      rw [TableTypes.forall_mem_definitions]
      refine ⟨fun _ => by simp [Definition.fieldNames, TableTypes.connection], fun _ => ?_, fun _ => ?_,
        fun _ => ?_⟩
      . rwa [← Table.columnNames_typesWith table overrides] at hnames
      . rw [Definition.fieldNames, Table.entity_fieldNames]
        simp [hnames]
      . rwa [Definition.fieldNames, Table.updateInput_fieldNames]
    . simp [Definition.fieldNames, TableTypes.mutations]
    . simp [Definition.fieldNames, TableTypes.queries]
    . simp [Definition.fieldNames]
    . simp [Definition.name?]

end Names

section Kinds

theorem mem_objectNames {document : Document} {name : String} :
    name ∈ document.objectNames ↔ ∃ type : ObjectType, .object type ∈ document ∧ type.name = name := by
  unfold objectNames
  rw [List.mem_filterMap]
  constructor
  . rintro ⟨definition, hmem, hname⟩
    cases definition with
    | object type => exact ⟨type, hmem, Option.some.inj hname⟩
    | input type => cases hname
    | schema roots => cases hname
  . rintro ⟨type, hmem, rfl⟩
    exact ⟨_, hmem, rfl⟩

theorem mem_inputNames {document : Document} {name : String} :
    name ∈ document.inputNames ↔ ∃ type : InputType, .input type ∈ document ∧ type.name = name := by
  unfold inputNames
  rw [List.mem_filterMap]
  constructor
  . rintro ⟨definition, hmem, hname⟩
    cases definition with
    | object type => cases hname
    | input type => exact ⟨type, hmem, Option.some.inj hname⟩
    | schema roots => cases hname
  . rintro ⟨type, hmem, rfl⟩
    exact ⟨_, hmem, rfl⟩

theorem not_mem_objectNames {document : Document} (htypes : document.typeNames.Nodup) {name : String}
    (hinput : name ∈ document.inputNames) : name ∉ document.objectNames := by
  intro hobject
  obtain ⟨input, hinputMem, rfl⟩ := mem_inputNames.mp hinput
  obtain ⟨object, hobjectMem, hname⟩ := mem_objectNames.mp hobject
  have hkey : (Definition.input input).name? = some input.name := rfl
  have hsame : Definition.object object ∈ document.filter (·.name? == some input.name) :=
    List.mem_filter.mpr ⟨hobjectMem, by simp [Definition.name?, hname]⟩
  rw [filter_eq_singleton htypes hinputMem hkey, List.mem_singleton] at hsame
  cases hsame

section OfTables

variable {tables : List Table} {overrides : Overrides}

theorem mem_inputNames_ofTables {name : String} :
    name ∈ inputNames (ofTables (tables.map (·.typesWith overrides)))
      ↔
    ∃ table ∈ tables, name = createInputName table.name ∨ name = updateInputName table.name := by
  rw [mem_inputNames]
  constructor
  . rintro ⟨input, hmem, rfl⟩
    obtain ⟨types, htypes, heq⟩ := mem_ofTables_input.mp hmem
    obtain ⟨table, htable, rfl⟩ := List.mem_map.mp htypes
    rcases heq with rfl | rfl
    . exact ⟨table, htable, .inl rfl⟩
    . exact ⟨table, htable, .inr rfl⟩
  . rintro ⟨table, htable, rfl | rfl⟩
    . exact ⟨_, mem_ofTables_input.mpr ⟨_, List.mem_map_of_mem htable, .inl rfl⟩, rfl⟩
    . exact ⟨_, mem_ofTables_input.mpr ⟨_, List.mem_map_of_mem htable, .inr rfl⟩, rfl⟩

theorem mem_objectNames_of_table {table : Table} (htable : table ∈ tables) :
    table.name ∈ objectNames (ofTables (tables.map (·.typesWith overrides))) ∧
    connectionName table.name ∈ objectNames (ofTables (tables.map (·.typesWith overrides))) := by
  obtain ⟨hdefinitions, -⟩ := mem_ofTables (tables.map (·.typesWith overrides))
  obtain ⟨hconnection, -, hentity, -⟩ :=
    TableTypes.forall_mem_definitions.mp (hdefinitions _ (List.mem_map_of_mem htable))
  exact ⟨mem_objectNames.mpr ⟨_, hentity, rfl⟩, mem_objectNames.mpr ⟨_, hconnection, rfl⟩⟩

theorem mem_objectNames_of_root {name : String} (hroot : name ∈ rootTypeNames) :
    name ∈ objectNames (ofTables (tables.map (·.typesWith overrides))) := by
  obtain ⟨-, hmutation, hquery, hsubscription, -⟩ := mem_ofTables (tables.map (·.typesWith overrides))
  simp only [rootTypeNames, List.mem_cons, List.not_mem_nil, or_false] at hroot
  rcases hroot with rfl | rfl | rfl
  . exact mem_objectNames.mpr ⟨_, hmutation, rfl⟩
  . exact mem_objectNames.mpr ⟨_, hquery, rfl⟩
  . exact mem_objectNames.mpr ⟨_, hsubscription, rfl⟩

theorem refersTo_kinds_iff
    (hviolations : violations (ofTables (tables.map (·.typesWith overrides))) = []) :
    (∀ definition ∈ ofTables (tables.map (·.typesWith overrides)), definition.RefersTo
      (fun name => name ∈ knownScalars ∨ name ∈ inputNames (ofTables (tables.map (·.typesWith overrides))))
      (fun name => name ∈ knownScalars ∨ name ∈ introspectionObjects ∨
        name ∈ objectNames (ofTables (tables.map (·.typesWith overrides)))))
      ↔
    ∀ table ∈ tables, ∀ column ∈ table.columns, Table.scalarOf overrides column ∈ knownScalars := by
  obtain ⟨⟨htypes, -⟩, -, hresolved⟩ := (violations_eq_nil_iff _).mp hviolations
  have hspared : SparesGenerated introspectionObjects := by decide
  rw [refersTo_ofTables_iff]
  . constructor
    . intro htables table htable column hcolumn
      obtain ⟨hinput, houtput⟩ := (htables table htable).left column hcolumn
      rcases hinput with hscalar | hinput
      . exact hscalar
      . rcases houtput with hscalar | hintrospection | hobject
        . exact hscalar
        . obtain ⟨other, -, heq | heq⟩ := mem_inputNames_ofTables.mp hinput
          . rw [heq] at hintrospection
            exact absurd hintrospection (hspared.createInputName other.name)
          . rw [heq] at hintrospection
            exact absurd hintrospection (hspared.updateInputName other.name)
        . exact absurd hobject (not_mem_objectNames htypes hinput)
    . intro hscalars table htable
      refine ⟨fun column hcolumn => ?_, ?_⟩
      . exact ⟨.inl (hscalars table htable column hcolumn), .inl (hscalars table htable column hcolumn)⟩
      . -- what a reference leads to is there, and it is a page of rows or a table
        intro reference hreference
        have hserved := (references_known_iff hscalars).mp hresolved table htable reference hreference
        rcases hserved with hmem | hmem
        . obtain ⟨other, hother, rfl⟩ := List.mem_map.mp hmem
          exact .inr (.inr (mem_objectNames_of_table hother).right)
        . obtain ⟨other, hother, heq⟩ := List.mem_map.mp hmem
          rw [← heq]
          exact .inr (.inr (mem_objectNames_of_table hother).left)
  . constructor
    . exact .inl (by decide)
    . intro table htable
      exact ⟨.inr (mem_inputNames_ofTables.mpr ⟨table, htable, .inl rfl⟩),
        .inr (mem_inputNames_ofTables.mpr ⟨table, htable, .inr rfl⟩)⟩
    . exact .inl (by decide)
    . exact fun name hroot => .inr (.inr (mem_objectNames_of_root hroot))
    . intro table htable
      obtain ⟨hentity, hconnection⟩ := mem_objectNames_of_table htable
      exact ⟨.inr (.inr hentity), .inr (.inr hconnection)⟩

end OfTables

end Kinds

theorem nodup_service_append {names : List String}
    (hnames : names.Nodup ∧ ∀ name ∈ names, name ∉ Scalar.serviceNames) :
    (Scalar.serviceNames ++ names).Nodup := by
  rw [List.nodup_append]
  refine ⟨by decide, hnames.left, ?_⟩
  rintro name hname other hother rfl
  exact hnames.right name hother hname

/-- An accepted document is valid exactly if there are tables and all of them are sound. -/
theorem isValid_iff {tables : List Table} {overrides : Overrides}
    (hviolations : violations (ofTables (tables.map (·.typesWith overrides))) = []) :
    IsValid (ofTables (tables.map (·.typesWith overrides)))
      ↔
    tables ≠ [] ∧ ∀ table ∈ tables, table.IsSound overrides := by
  obtain ⟨htypes, -, hresolved⟩ := (violations_eq_nil_iff _).mp hviolations
  constructor
  . intro hvalid
    obtain ⟨htables, hcolumns⟩ := nonempty_iff.mp hvalid.nonempty
    have hstandard := notStandard_iff.mp hvalid.notStandard
    have hreserved := notReserved_iff.mp hvalid.notReserved
    have hscalars := (refersTo_kinds_iff hviolations).mp
      fun definition hmem => ⟨hvalid.inputs definition hmem, hvalid.outputs definition hmem⟩
    refine ⟨htables, ?_⟩
    intro table htable
    exact ⟨hstandard table htable, hreserved table htable, hcolumns table htable, hscalars table htable⟩
  . rintro ⟨htables, hsound⟩
    have hkinds := (refersTo_kinds_iff hviolations).mpr fun table htable => (hsound table htable).scalars
    exact {
      distinct := nodup_service_append htypes
      notStandard := notStandard_iff.mpr fun table htable => (hsound table htable).notStandard
      notReserved := notReserved_iff.mpr fun table htable => (hsound table htable).notReserved
      nonempty := nonempty_iff.mpr ⟨htables, fun table htable => (hsound table htable).nonempty⟩
      resolved := hresolved
      inputs := fun definition hmem => (hkinds definition hmem).inputs
      outputs := fun definition hmem => (hkinds definition hmem).outputs }

/--
An accepted document has distinct types, none of them one of the service, and refers to known types only. It
is valid exactly if there are tables, none of them has the name of a standard scalar or brings along a
reserved name, and all of them have columns, with scalars. A document that is not accepted is refused with a
schema fault, unless suggestions cannot be looked for: that takes a given scalar with other than ASCII characters, or
a table whose name has more digits in a row than a number may have.
-/
theorem validity_ofTables {tables : List Table} {options : TableOptions} {types : List TableTypes}
    (htypes : tables.mapM (·.types options) = .ok types) :
    ((ofTables types).failure? = none →
      (Scalar.serviceNames ++ (ofTables types).typeNames).Nodup ∧
      (∀ definition ∈ ofTables types, ∀ name ∈ definition.references,
        name ∈ (ofTables types).knownNames) ∧
      ((ofTables types).IsValid
        ↔
        tables ≠ [] ∧ ∀ table ∈ tables, table.IsSound options.overrides.byBaseName)) ∧
    (∀ failure, (ofTables types).failure? = some failure →
      (∃ fault, failure = .fault fault ∧ fault.kind = .schema) ∨
      ∃ problem, (ofTables types).suggestionProblem? = some problem ∧ failure = problem.failure) ∧
    ((∀ entry ∈ options.overrides, IsAscii entry.2) →
      (∀ problem, (ofTables types).suggestionProblem? = some problem →
        ∃ digits, Text.maxDigits < digits ∧ problem = .overlongRun digits) ∧
      ((∀ table ∈ tables, Text.HasShortRuns table.name.toList) →
        (ofTables types).suggestionProblem? = none)) := by
  refine ⟨?_, fun failure => failure?_eq_some, suggestionProblem?_ofTables htypes⟩
  intro hfailure
  have hviolations := violations_eq_nil_of_failure? hfailure
  obtain ⟨htypeNames, -, hresolved⟩ := (violations_eq_nil_iff _).mp hviolations
  obtain ⟨-, rfl⟩ := Table.mapM_types_eq_ok_iff.mp htypes
  exact ⟨nodup_service_append htypeNames, hresolved, isValid_iff hviolations⟩

theorem validity_sampleTables :
    (ofTables (sampleTables.map (·.typesWith []))).IsValid := by
  have hnamed : ∀ table ∈ sampleTables, table.IsNamed := by decide
  have hscalars : ∀ table ∈ sampleTables, ∀ column ∈ table.columns,
      Table.scalarOf [] column ∈ knownScalars := by decide
  have hviolations : violations (ofTables (sampleTables.map (·.typesWith []))) = [] :=
    (violations_ofTables_eq_nil_iff hscalars).mpr (by decide)
  have hfailure : (ofTables (sampleTables.map (·.typesWith []))).failure? = none :=
    (failure?_of_names (isName_of_mem_names hnamed)).left hviolations
  obtain ⟨hsound, -⟩ := validity_ofTables mapM_types_sampleTables
  exact (hsound hfailure).right.right.mpr ⟨by decide, by decide⟩

/-- A table without columns is accepted, although its types have no fields. -/
theorem not_isValid_columnless :
    [(⟨"A", [], []⟩ : Table)].mapM (·.types ⟨false, []⟩) =
      .ok ([(⟨"A", [], []⟩ : Table)].map (·.typesWith [])) ∧
    (ofTables ([(⟨"A", [], []⟩ : Table)].map (·.typesWith []))).failure? = none ∧
    ¬(ofTables ([(⟨"A", [], []⟩ : Table)].map (·.typesWith []))).IsValid := by
  refine ⟨rfl, rfl, ?_⟩
  intro hvalid
  have hmem : Definition.input ⟨"CreateAInput", []⟩ ∈
      ofTables ([(⟨"A", [], []⟩ : Table)].map (·.typesWith [])) := by
    decide
  exact hvalid.nonempty _ hmem rfl rfl

end Document
end TableGraph
