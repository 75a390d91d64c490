import TableGraph.Proofs.Schema.Parts
import TableGraph.Proofs.Text.Runs

/-!
Which tables have a document that is a type system: those that get in each other's way neither with their
names nor with the names that are made for them, and whose references lead to tables that are there.
-/

namespace TableGraph

def knownScalars : List String :=
  standardScalars ++ Scalar.serviceNames

/-- Tables that have one document together. -/
structure Compatible (tables : List Table) : Prop where
  distinct : (tables.map (·.name)).Nodup
  notDerived : ∀ table ∈ tables, ∀ other ∈ tables, table.name ∉ derivedNames other.name
  notReserved : ∀ table ∈ tables, table.name ∉ rootTypeNames ++ Scalar.serviceNames
  fields : ∀ table ∈ tables, (table.columns.map (·.name) ++ table.references).Nodup
  served : ∀ table ∈ tables, ∀ reference ∈ table.references,
    reference ∈ tables.map (·.name) ∨ connectionName reference ∈ tables.map (·.name)

instance (tables : List Table) : Decidable (Compatible tables) :=
  decidable_of_iff
    ((tables.map (·.name)).Nodup ∧
      (∀ table ∈ tables, ∀ other ∈ tables, table.name ∉ derivedNames other.name) ∧
      (∀ table ∈ tables, table.name ∉ rootTypeNames ++ Scalar.serviceNames) ∧
      (∀ table ∈ tables, (table.columns.map (·.name) ++ table.references).Nodup) ∧
      ∀ table ∈ tables, ∀ reference ∈ table.references,
        reference ∈ tables.map (·.name) ∨ connectionName reference ∈ tables.map (·.name))
    ⟨fun ⟨distinct, derived, reserved, fields, served⟩ => ⟨distinct, derived, reserved, fields, served⟩,
     fun ⟨distinct, derived, reserved, fields, served⟩ => ⟨distinct, derived, reserved, fields, served⟩⟩

theorem not_mem_of_mem_derivedNames {names : List String} (hspares : SparesGenerated names)
    {name table : String} (hmem : name ∈ derivedNames table) : name ∉ names := by
  simp only [derivedNames, List.mem_cons, List.not_mem_nil, or_false] at hmem
  rcases hmem with rfl | rfl | rfl
  . apply hspares.connectionName
  . apply hspares.createInputName
  . apply hspares.updateInputName

theorem sparesGenerated_reserved : SparesGenerated (rootTypeNames ++ Scalar.serviceNames) := by
  decide

theorem sparesGenerated_standard :
    SparesGenerated (standardNames ++ Scalar.serviceNames ++ rootTypeNames) := by
  decide

namespace Document

section Names

variable {tables : List Table} {overrides : Overrides}

theorem not_reserved {table : String} (htable : table ∉ rootTypeNames ++ Scalar.serviceNames)
    {name : String} (hname : name ∈ tableTypeNames table) :
    name ∉ rootTypeNames ++ Scalar.serviceNames := by
  rcases mem_tableTypeNames.mp hname with rfl | hmem
  . exact htable
  . exact not_mem_of_mem_derivedNames sparesGenerated_reserved hmem

theorem typeNames_fresh_iff :
    (typeNames (ofTables (tables.map (·.typesWith overrides)))).Nodup ∧
      (∀ name ∈ typeNames (ofTables (tables.map (·.typesWith overrides))), name ∉ Scalar.serviceNames)
      ↔
    (tables.map (·.name)).Nodup ∧
      (∀ table ∈ tables, ∀ other ∈ tables, table.name ∉ derivedNames other.name) ∧
      ∀ table ∈ tables, table.name ∉ rootTypeNames ++ Scalar.serviceNames := by
  rw [typeNames_ofTables, List.nodup_append, nodup_flatMap_tableTypeNames_iff, List.forall_mem_append]
  constructor
  . rintro ⟨⟨⟨hdistinct, hderived⟩, -, hroots⟩, hservice, -⟩
    refine ⟨hdistinct, ?_, ?_⟩
    . intro table htable other hother
      exact hderived _ (List.mem_map_of_mem htable) _ (List.mem_map_of_mem hother)
    . intro table htable hreserved
      have hmem : table.name ∈ (tables.map (·.name)).flatMap tableTypeNames :=
        List.mem_flatMap.mpr ⟨_, List.mem_map_of_mem htable, mem_tableTypeNames.mpr (.inl rfl)⟩
      rcases List.mem_append.mp hreserved with hroot | hscalar
      . exact hroots _ hmem _ hroot rfl
      . exact hservice _ hmem hscalar
  . rintro ⟨hdistinct, hderived, hreserved⟩
    have hspared : ∀ name ∈ (tables.map (·.name)).flatMap tableTypeNames,
        name ∉ rootTypeNames ++ Scalar.serviceNames := by
      intro name hname
      obtain ⟨other, hother, hmem⟩ := List.mem_flatMap.mp hname
      obtain ⟨table, htable, rfl⟩ := List.mem_map.mp hother
      exact not_reserved (hreserved table htable) hmem
    refine ⟨⟨⟨hdistinct, ?_⟩, by decide, ?_⟩, ?_, by decide⟩
    . simpa using hderived
    . rintro name hname root hroot rfl
      exact hspared name hname (List.mem_append_left _ hroot)
    . intro name hname hscalar
      exact hspared name hname (List.mem_append_right _ hscalar)

end Names

section Fields

variable {tables : List Table} {overrides : Overrides}

theorem fieldNames_nodup_iff (hdistinct : (tables.map (·.name)).Nodup) :
    (∀ definition ∈ ofTables (tables.map (·.typesWith overrides)), definition.fieldNames.Nodup)
      ↔
    ∀ table ∈ tables, (table.columns.map (·.name) ++ table.references).Nodup := by
  have htables : ((tables.map (·.typesWith overrides)).map (·.table)).Nodup := by
    rw [List.map_map]
    exact hdistinct
  rw [forall_mem_ofTables, List.forall_mem_map]
  constructor
  . rintro ⟨hfields, -⟩ table htable
    obtain ⟨-, -, hentity, -⟩ := TableTypes.forall_mem_definitions.mp (hfields table htable)
    rwa [Definition.fieldNames, Table.entity_fieldNames] at hentity
  . intro hfields
    refine ⟨?_, ?_, ?_, ?_, List.nodup_nil⟩
    . intro table htable
      have hcolumns := (hfields table htable).of_append_left
      rw [TableTypes.forall_mem_definitions]
      refine ⟨?_, ?_, ?_, ?_⟩
      . change ["items", "nextToken"].Nodup
        decide
      . rwa [← Table.columnNames_typesWith table overrides] at hcolumns
      . rw [Definition.fieldNames, Table.entity_fieldNames]
        exact hfields table htable
      . rwa [Definition.fieldNames, Table.updateInput_fieldNames]
    . rw [Definition.fieldNames, List.map_flatMap]
      exact TableTypes.nodup_mutations htables
    . rw [Definition.fieldNames, List.map_flatMap]
      exact TableTypes.nodup_queries htables
    . rw [Definition.fieldNames, List.map_map]
      exact TableTypes.nodup_subscriptions htables

end Fields

theorem isName_of_mem_names {tables : List Table} {overrides : Overrides}
    (hnamed : ∀ table ∈ tables, table.IsNamed) :
    ∀ definition ∈ ofTables (tables.map (·.typesWith overrides)), ∀ name ∈ definition.names,
      IsName name := by
  apply (forall_mem_names_iff IsName (by decide) _).mpr
  . intro table htable
    obtain ⟨hname, hcolumns, hreferences⟩ := hnamed table htable
    exact ⟨hname, hcolumns, hreferences⟩
  . intro table _ hname
    rw [List.forall_mem_append, forall_mem_derivedNames, forall_mem_madeFieldNames]
    exact ⟨⟨hname.connectionName, hname.createInputName, hname.updateInputName⟩,
      hname.deleteFieldName, hname.createFieldName, hname.updateFieldName, hname.getFieldName,
      hname.listFieldName, hname.onCreateFieldName, hname.createArgumentName, hname.updateArgumentName⟩

section Known

open Text (HasShortRuns)

variable (tables : List Table) (overrides : Overrides)

variable {tables overrides} in
theorem hasShortRuns_of_mem_tableTypeNames {name table : String} (htable : HasShortRuns table.toList)
    (hname : name ∈ tableTypeNames table) : HasShortRuns name.toList := by
  simp only [tableTypeNames, List.mem_cons, List.not_mem_nil, or_false] at hname
  rcases hname with rfl | rfl | rfl | rfl
  . rw [connectionName, String.toList_append]
    exact htable.append (by decide)
  . rw [createInputName, String.toList_append, String.toList_append]
    exact (htable.prepend (by decide)).append (by decide)
  . exact htable
  . rw [updateInputName, String.toList_append, String.toList_append]
    exact (htable.prepend (by decide)).append (by decide)

variable {tables} in
theorem hasShortRuns_of_mem_knownNames (hshort : ∀ table ∈ tables, HasShortRuns table.name.toList) :
    ∀ name ∈ knownNames (ofTables (tables.map (·.typesWith overrides))), HasShortRuns name.toList := by
  have hletters : ∀ name ∈ standardNames ++ Scalar.serviceNames ++ rootTypeNames,
      name.toList.all Text.isBetweenDigits = true := by
    decide
  have hfixed : ∀ name ∈ standardNames ++ Scalar.serviceNames ++ rootTypeNames, HasShortRuns name.toList :=
    fun name hname => .of_all (hletters name hname)
  simp only [List.forall_mem_append] at hfixed
  unfold knownNames
  rw [typeNames_ofTables]
  simp only [List.forall_mem_append]
  refine ⟨hfixed.left, ?_, hfixed.right⟩
  intro name hname
  obtain ⟨_, hmem, hname⟩ := List.mem_flatMap.mp hname
  obtain ⟨table, htable, rfl⟩ := List.mem_map.mp hmem
  exact hasShortRuns_of_mem_tableTypeNames (hshort table htable) hname

theorem knownScalars_subset (document : Document) : knownScalars ⊆ document.knownNames := by
  intro name hname
  unfold knownNames standardNames
  simp only [knownScalars, List.mem_append] at hname ⊢
  rcases hname with hstandard | hservice
  . exact .inl (.inl (.inl hstandard))
  . exact .inl (.inr hservice)

theorem connectionName_mem_knownNames_iff (reference : String) :
    connectionName reference ∈ knownNames (ofTables (tables.map (·.typesWith overrides)))
      ↔
    reference ∈ tables.map (·.name) ∨ connectionName reference ∈ tables.map (·.name) := by
  have hspared : connectionName reference ∉ standardNames ++ Scalar.serviceNames ++ rootTypeNames :=
    sparesGenerated_standard.connectionName reference
  simp only [List.mem_append, not_or] at hspared
  obtain ⟨⟨hstandard, hservice⟩, hroot⟩ := hspared
  unfold knownNames
  rw [typeNames_ofTables]
  simp only [List.mem_append, hstandard, hservice, hroot, false_or, or_false, List.mem_flatMap]
  constructor
  . rintro ⟨table, htable, hmem⟩
    rcases mem_tableTypeNames.mp hmem with rfl | hderived
    . exact .inr htable
    . simp only [derivedNames, List.mem_cons, List.not_mem_nil, or_false] at hderived
      rcases hderived with h | h | h
      . rw [connectionName_inj.mp h]
        exact .inl htable
      . exact absurd h (connectionName_ne_createInputName reference table)
      . exact absurd h (connectionName_ne_updateInputName reference table)
  . rintro (hmem | hmem)
    . exact ⟨reference, hmem, List.mem_cons_self⟩
    . exact ⟨_, hmem, mem_tableTypeNames.mpr (.inl rfl)⟩

variable {tables overrides} in
/-- A reference to no table cannot be looked up if it differs in its case only from a table with too many digits. -/
theorem suggestionProblem?_of_reference {table other : Table} (htable : table ∈ tables) (hother : other ∈ tables)
    {reference : String} (hreference : reference ∈ table.references)
    (hunserved : ¬(reference ∈ tables.map (·.name) ∨ connectionName reference ∈ tables.map (·.name)))
    (hnames : IsName reference ∧ IsName other.name)
    (hcase : reference.toList.map Char.toLower = other.name.toList.map Char.toLower)
    (hlong : ¬HasShortRuns other.name.toList) :
    (ofTables (tables.map (·.typesWith overrides))).suggestionProblem? ≠ none := by
  obtain ⟨hdefinitions, -⟩ := mem_ofTables (tables.map (·.typesWith overrides))
  obtain ⟨-, -, hentity, -⟩ := TableTypes.forall_mem_definitions.mp (hdefinitions _ (List.mem_map_of_mem htable))
  have hname : connectionName reference ∈ (Definition.object (table.typesWith overrides).entity).references := by
    refine List.mem_flatMap.mpr ⟨⟨reference, [], .named (connectionName reference), []⟩, ?_, List.mem_cons_self⟩
    exact List.mem_append_right _ (List.mem_map.mpr ⟨reference, hreference, rfl⟩)
  have hlower : Text.lower (connectionName reference).toList = Text.lower (connectionName other.name).toList := by
    unfold Text.lower
    rw [Text.lowerAfter_of_ascii hnames.left.connectionName.isAscii,
      Text.lowerAfter_of_ascii hnames.right.connectionName.isAscii, connectionName, connectionName,
      String.toList_append, String.toList_append, List.map_append, List.map_append, hcase]
  have hlong' : ¬HasShortRuns (connectionName other.name).toList := by
    rw [connectionName, String.toList_append]
    exact fun hshort => hlong (hshort.of_isInfix (List.prefix_append _ _).isInfix)
  refine suggestionProblem?_of_overlong hentity hname ?_ ?_ hlower hlong'
  . exact mt (connectionName_mem_knownNames_iff tables overrides reference).mp hunserved
  . exact (connectionName_mem_knownNames_iff tables overrides other.name).mpr (.inl (List.mem_map_of_mem hother))

end Known

section Accepted

variable {tables : List Table} {overrides : Overrides}
variable (hscalars : ∀ table ∈ tables, ∀ column ∈ table.columns,
  Table.scalarOf overrides column ∈ knownScalars)

include hscalars

theorem references_known_iff :
    (∀ definition ∈ ofTables (tables.map (·.typesWith overrides)),
      ∀ name ∈ definition.references, name ∈ knownNames (ofTables (tables.map (·.typesWith overrides))))
      ↔
    ∀ table ∈ tables, ∀ reference ∈ table.references,
      reference ∈ tables.map (·.name) ∨ connectionName reference ∈ tables.map (·.name) := by
  have hscalar := knownScalars_subset (ofTables (tables.map (·.typesWith overrides)))
  have htypes : ∀ name ∈ (tables.map (·.name)).flatMap tableTypeNames ++ rootTypeNames,
      name ∈ knownNames (ofTables (tables.map (·.typesWith overrides))) := by
    intro name hname
    rw [← typeNames_ofTables tables overrides] at hname
    exact List.mem_append_right _ hname
  have hown : ∀ table ∈ tables, ∀ name ∈ tableTypeNames table.name,
      name ∈ knownNames (ofTables (tables.map (·.typesWith overrides))) := by
    intro table htable name hname
    apply htypes name
    apply List.mem_append_left
    exact List.mem_flatMap.mpr ⟨table.name, List.mem_map_of_mem htable, hname⟩
  have hserves : Serves (· ∈ knownNames (ofTables (tables.map (·.typesWith overrides))))
      (· ∈ knownNames (ofTables (tables.map (·.typesWith overrides)))) tables := by
    constructor
    . exact hscalar (by decide)
    . exact fun table htable => ⟨hown table htable _ (by simp [tableTypeNames]),
        hown table htable _ (by simp [tableTypeNames])⟩
    . exact hscalar (by decide)
    . exact fun name hroot => htypes name (List.mem_append_right _ hroot)
    . exact fun table htable => ⟨hown table htable _ (by simp [tableTypeNames]),
        hown table htable _ (by simp [tableTypeNames])⟩
  simp only [← Definition.refersTo_self_iff, refersTo_ofTables_iff hserves, and_self,
    connectionName_mem_knownNames_iff]
  apply forall₂_congr
  intro table htable
  apply and_iff_right
  intro column hcolumn
  exact hscalar (hscalars table htable column hcolumn)

theorem violations_ofTables_eq_nil_iff :
    violations (ofTables (tables.map (·.typesWith overrides))) = [] ↔ Compatible tables := by
  rw [violations_eq_nil_iff, typeNames_fresh_iff, references_known_iff hscalars]
  constructor
  . rintro ⟨⟨hdistinct, hderived, hreserved⟩, hfields, hserved⟩
    exact ⟨hdistinct, hderived, hreserved, (fieldNames_nodup_iff hdistinct).mp hfields, hserved⟩
  . intro hcompatible
    refine ⟨⟨hcompatible.distinct, hcompatible.notDerived, hcompatible.notReserved⟩, ?_, ?_⟩
    . exact (fieldNames_nodup_iff hcompatible.distinct).mpr hcompatible.fields
    . exact hcompatible.served

theorem isName_of_mem_references (hnamed : ∀ table ∈ tables, table.IsNamed) :
    ∀ definition ∈ ofTables (tables.map (·.typesWith overrides)), ∀ name ∈ definition.references,
      IsName name := by
  have hknown : ∀ name ∈ knownScalars, IsName name := by decide
  have hserves : Serves IsName IsName tables := by
    constructor
    . decide
    . intro table htable
      have hname := (hnamed table htable).name
      exact ⟨hname.createInputName, hname.updateInputName⟩
    . decide
    . decide
    . intro table htable
      have hname := (hnamed table htable).name
      exact ⟨hname, hname.connectionName⟩
  simp only [← Definition.refersTo_self_iff, refersTo_ofTables_iff hserves, and_self]
  intro table htable
  refine ⟨?_, ?_⟩
  . intro column hcolumn
    exact hknown _ (hscalars table htable column hcolumn)
  . intro reference hreference
    exact ((hnamed table htable).references reference hreference).connectionName

theorem isAscii_of_mem_references (hnamed : ∀ table ∈ tables, table.IsNamed) :
    ∀ definition ∈ ofTables (tables.map (·.typesWith overrides)), ∀ name ∈ definition.references,
      IsAscii name :=
  fun definition hmem name hname => (isName_of_mem_references hscalars hnamed definition hmem name hname).isAscii

end Accepted

/--
The document of tables with GraphQL names and known scalars is a type system exactly if the tables are
compatible. It is refused with a schema fault otherwise, unless a table whose name has more digits in a row than a
number may have is to be suggested: that cannot be put in order with the others. Two tables of different names never
meet in a field of a root type or in the name of a generated type, whatever else the list holds.
-/
theorem failure?_ofTables {tables : List Table} {options : TableOptions} {types : List TableTypes}
    (htypes : tables.mapM (·.types options) = .ok types) (hnamed : ∀ table ∈ tables, table.IsNamed)
    (hscalars : ∀ table ∈ tables, ∀ column ∈ table.columns,
      Table.scalarOf options.overrides.byBaseName column ∈ knownScalars) :
    ((ofTables types).failure? = none ↔ Compatible tables) ∧
    (¬Compatible tables → (ofTables types).suggestionProblem? = none →
      ∃ fault, (ofTables types).failure? = some (.fault fault) ∧ fault.kind = .schema) ∧
    (∀ problem, (ofTables types).suggestionProblem? = some problem →
      ∃ digits, Text.maxDigits < digits ∧ problem = .overlongRun digits ∧
        (ofTables types).failure? = some (.overlong (some digits))) ∧
    ((∀ table ∈ tables, Text.HasShortRuns table.name.toList) → (ofTables types).suggestionProblem? = none) ∧
    ∀ first ∈ types, ∀ second ∈ types, first.table ≠ second.table →
      (first.mutations.map (·.name)).Disjoint (second.mutations.map (·.name)) ∧
      (first.queries.map (·.name)).Disjoint (second.queries.map (·.name)) ∧
      first.subscription.name ≠ second.subscription.name ∧
      [first.connection.name, first.createInput.name, first.updateInput.name].Disjoint
        [second.connection.name, second.createInput.name, second.updateInput.name] := by
  obtain ⟨-, rfl⟩ := Table.mapM_types_eq_ok_iff.mp htypes
  have hviolations := violations_ofTables_eq_nil_iff hscalars
  obtain ⟨hnone, hsome⟩ := failure?_of_names (isName_of_mem_names hnamed)
  have hreferences := isAscii_of_mem_references hscalars hnamed
  refine ⟨⟨?_, ?_⟩, ?_, ?_, ?_, ?_⟩
  . intro hfailure
    exact hviolations.mp (violations_eq_nil_of_failure? hfailure)
  . intro hcompatible
    exact hnone (hviolations.mpr hcompatible)
  . intro hincompatible
    exact hsome (mt hviolations.mp hincompatible)
  . intro problem hproblem
    exact failure?_of_suggestionProblem? hreferences hproblem
  . intro hshort
    exact suggestionProblem?_of_hasShortRuns hreferences (hasShortRuns_of_mem_knownNames _ hshort)
  . intro first hfirst second hsecond hne
    obtain ⟨table, -, rfl⟩ := List.mem_map.mp hfirst
    obtain ⟨other, -, rfl⟩ := List.mem_map.mp hsecond
    refine ⟨TableTypes.disjoint_mutations hne, TableTypes.disjoint_queries hne, ?_, disjoint_derivedNames hne⟩
    exact fun heq => hne (onCreateFieldName_inj.mp heq)

theorem failure?_ofTables_sampleTables :
    Compatible sampleTables ∧ (ofTables (sampleTables.map (·.typesWith []))).failure? = none := by
  have hcompatible : Compatible sampleTables := by decide
  refine ⟨hcompatible, ?_⟩
  apply (failure?_ofTables mapM_types_sampleTables _ _).left.mpr hcompatible
  . decide
  . decide

def overlongTable : Table where
  name := String.ofList ('A' :: List.replicate (Text.maxDigits + 1) '1')
  columns := [⟨"id", "INT", false, .primary⟩]
  references := [String.ofList ('a' :: List.replicate (Text.maxDigits + 1) '1')]

theorem isName_letter_digits {c : Char} (hc : isNameStart c = true) (n : Nat) :
    IsName (String.ofList (c :: List.replicate n '1')) := by
  unfold IsName
  rw [String.toList_ofList, isName, hc, Bool.true_and, List.all_eq_true]
  intro d hd
  rw [List.eq_of_mem_replicate hd]
  rfl

theorem isNamed_overlongTable : overlongTable.IsNamed where
  name := isName_letter_digits rfl _
  columns := by decide
  references := List.forall_mem_singleton.mpr (isName_letter_digits rfl _)

theorem not_hasShortRuns_overlongTable : ¬Text.HasShortRuns overlongTable.name.toList := by
  intro hshort
  rw [overlongTable, String.toList_ofList] at hshort
  have hlength := hshort (List.replicate (Text.maxDigits + 1) '1') (List.suffix_cons 'A' _).isInfix ?_
  . rw [List.length_replicate] at hlength
    omega
  . intro c hc
    rw [List.eq_of_mem_replicate hc]
    rfl

/-- A schema fault is called for, but the table that is to be suggested cannot be put in order. -/
theorem failure?_ofTables_overlong :
    [overlongTable].mapM (·.types {}) = .ok ([overlongTable].map (·.typesWith [])) ∧
    (∀ table ∈ [overlongTable], table.IsNamed) ∧
    (∀ table ∈ [overlongTable], ∀ column ∈ table.columns, Table.scalarOf [] column ∈ knownScalars) ∧
    ¬Compatible [overlongTable] ∧
    ∃ digits,
      (ofTables ([overlongTable].map (·.typesWith []))).failure? = some (.overlong (some digits)) := by
  have hnamed : ∀ table ∈ [overlongTable], table.IsNamed := List.forall_mem_singleton.mpr isNamed_overlongTable
  have hscalars : ∀ table ∈ [overlongTable], ∀ column ∈ table.columns,
      Table.scalarOf [] column ∈ knownScalars :=
    List.forall_mem_singleton.mpr (by decide)
  have hunserved : ¬(overlongTable.references.head (by decide) ∈ [overlongTable].map (·.name) ∨
      connectionName (overlongTable.references.head (by decide)) ∈ [overlongTable].map (·.name)) := by
    rintro (hmem | hmem)
    . have heq := congrArg String.toList (List.mem_singleton.mp hmem)
      simp [overlongTable] at heq
    . have heq := congrArg String.length (List.mem_singleton.mp hmem)
      have hsuffix : "Connection".length = 10 := rfl
      simp only [overlongTable, connectionName, List.head_cons, String.length_append, String.length_ofList,
        List.length_cons, List.length_replicate] at heq
      omega
  have hproblem : (ofTables ([overlongTable].map (·.typesWith []))).suggestionProblem? ≠ none := by
    refine suggestionProblem?_of_reference List.mem_cons_self List.mem_cons_self List.mem_cons_self hunserved
      ⟨isName_letter_digits rfl _, isName_letter_digits rfl _⟩ ?_ not_hasShortRuns_overlongTable
    simp [overlongTable]
  obtain ⟨problem, hproblem⟩ := Option.ne_none_iff_exists'.mp hproblem
  obtain ⟨digits, -, -, hfailure⟩ :=
    failure?_of_suggestionProblem? (isAscii_of_mem_references hscalars hnamed) hproblem
  refine ⟨?_, hnamed, hscalars, ?_, digits, hfailure⟩
  . exact Table.mapM_types_eq_ok_iff.mpr
      ⟨List.forall_mem_singleton.mpr (isNamed_overlongTable.faults_eq_nil (by decide)), rfl⟩
  . intro hcompatible
    exact hunserved (hcompatible.served _ List.mem_cons_self _ List.mem_cons_self)

end Document
end TableGraph
