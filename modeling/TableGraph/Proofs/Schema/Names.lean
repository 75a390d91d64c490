import TableGraph.Proofs.Schema.Suggestions

/-!
The names in the types of a table that was accepted. Each is a GraphQL name but for one line break, and none
has a line break unless the name of the table, of a column or of a reference ends with one.
-/

namespace TableGraph

/-- A GraphQL name, or one with a line break in it. -/
def IsBrokenName (name : String) : Prop :=
  ∃ front back, IsName (front ++ back) ∧ (name = front ++ back ∨ name = front ++ "\n" ++ back)

theorem IsName.isBrokenName {name : String} (hname : IsName name) : IsBrokenName name := by
  refine ⟨name, "", ?_, .inl String.append_empty.symm⟩
  rwa [String.append_empty]

theorem IsName.not_mem_break {name : String} (hname : IsName name) : '\n' ∉ name.toList := by
  intro hmem
  have hchar := hname.isNameChar hmem
  revert hchar
  decide

theorem isAcceptedName_iff {name : String} :
    isAcceptedName name = true ↔ ∃ front, IsName front ∧ (name = front ∨ name = front ++ "\n") := by
  unfold isAcceptedName
  rw [Bool.or_eq_true, Bool.and_eq_true, beq_iff_eq]
  constructor
  . rintro (hname | ⟨hlast, hfront⟩)
    . exact ⟨name, hname, .inl rfl⟩
    . refine ⟨String.ofList name.toList.dropLast, ?_, .inr ?_⟩
      . unfold IsName
        rwa [String.toList_ofList]
      . rw [← String.toList_inj, String.toList_append, String.toList_ofList]
        exact (List.dropLast_append_getLast? '\n' hlast).symm
  . rintro ⟨front, hfront, rfl | rfl⟩
    . exact .inl hfront
    . right
      rw [String.toList_append]
      refine ⟨List.getLast?_concat, ?_⟩
      have hdrop : (front.toList ++ "\n".toList).dropLast = front.toList := List.dropLast_concat
      rwa [hdrop]

theorem isBrokenName_of_isAcceptedName {name : String} (hname : isAcceptedName name = true) :
    IsBrokenName name := by
  obtain ⟨front, hfront, heq⟩ := isAcceptedName_iff.mp hname
  refine ⟨front, "", ?_, ?_⟩
  . rwa [String.append_empty]
  . rwa [String.append_empty, String.append_empty]

theorem isName_of_isAcceptedName {name : String} (hname : isAcceptedName name = true)
    (hlast : name.toList.getLast? ≠ some '\n') : IsName name := by
  obtain ⟨front, hfront, rfl | rfl⟩ := isAcceptedName_iff.mp hname
  . exact hfront
  . rw [String.toList_append] at hlast
    exact absurd List.getLast?_concat hlast

theorem IsBrokenName.made {head tail : String}
    (hmade : ∀ name, IsName name → IsName (head ++ name ++ tail)) {name : String}
    (hname : IsBrokenName name) : IsBrokenName (head ++ name ++ tail) := by
  obtain ⟨front, back, hwhole, heq⟩ := hname
  refine ⟨head ++ front, back ++ tail, ?_, ?_⟩
  . have hregroup : head ++ front ++ (back ++ tail) = head ++ (front ++ back) ++ tail := by
      simp only [String.append_assoc]
    rw [hregroup]
    exact hmade _ hwhole
  . rcases heq with rfl | rfl
    . left
      simp only [String.append_assoc]
    . right
      simp only [String.append_assoc]

section Generated

variable {name : String} (hname : IsBrokenName name)

include hname

theorem IsBrokenName.connectionName : IsBrokenName (connectionName name) := by
  have hmade := hname.made fun name hname => by
    rw [String.empty_append]
    exact hname.connectionName
  rwa [String.empty_append] at hmade

theorem IsBrokenName.createInputName : IsBrokenName (createInputName name) :=
  hname.made fun _ => IsName.createInputName

theorem IsBrokenName.updateInputName : IsBrokenName (updateInputName name) :=
  hname.made fun _ => IsName.updateInputName

end Generated

def Table.names (table : Table) : List String :=
  table.name :: table.columns.map (·.name) ++ table.references

namespace TableTypes

def names (types : TableTypes) : List String :=
  [types.table, types.entity.name, types.createInput.name, types.updateInput.name] ++
    types.entity.fields.map (·.name) ++ types.createInput.fields.map (·.name) ++
    types.updateInput.fields.map (·.name) ++ (types.key?.map (·.column)).toList

def fieldTypes (types : TableTypes) : List String :=
  types.entity.fields.map (·.type.name) ++ types.createInput.fields.map (·.type.name) ++
    types.updateInput.fields.map (·.type.name) ++ (types.key?.map (·.scalar)).toList

end TableTypes

namespace Table

variable {table : Table} {overrides : Overrides} {p : String → Prop}

theorem forall_mem_names :
    (∀ name ∈ table.names, p name)
      ↔
    p table.name ∧ (∀ column ∈ table.columns, p column.name) ∧
      ∀ reference ∈ table.references, p reference := by
  unfold names
  rw [List.forall_mem_append, List.forall_mem_cons, List.forall_mem_map, and_assoc]

theorem forall_mem_names_typesWith :
    (∀ name ∈ (table.typesWith overrides).names, p name)
      ↔
    (p (createInputName table.name) ∧ p (updateInputName table.name)) ∧ ∀ name ∈ table.names, p name := by
  have hcolumns : (table.typesWith overrides).createInput.fields.map (·.name) = table.columns.map (·.name) :=
    columnNames_typesWith table overrides
  have hkey : (∀ column ∈ table.columns, p column.name) →
      ∀ name ∈ ((table.typesWith overrides).key?.map (·.column)).toList, p name := by
    intro hcolumns name hname
    obtain ⟨key, hkey, rfl⟩ := Option.map_eq_some_iff.mp (Option.mem_toList.mp hname)
    exact of_key? hcolumns hkey
  unfold TableTypes.names
  rw [entity_fieldNames, hcolumns, updateInput_fieldNames, forall_mem_names]
  simp only [List.forall_mem_append, List.forall_mem_cons, List.forall_mem_map, List.not_mem_nil,
    false_imp_iff, implies_true, and_true]
  constructor
  . rintro ⟨⟨⟨⟨⟨htable, -, hcreate, hupdate⟩, hcolumns, hreferences⟩, -⟩, -⟩, -⟩
    exact ⟨⟨hcreate, hupdate⟩, htable, hcolumns, hreferences⟩
  . rintro ⟨⟨hcreate, hupdate⟩, htable, hcolumns, hreferences⟩
    exact ⟨⟨⟨⟨⟨htable, htable, hcreate, hupdate⟩, hcolumns, hreferences⟩, hcolumns⟩, hcolumns⟩, hkey hcolumns⟩

theorem forall_mem_fieldTypes (hcolumns : ∀ column ∈ table.columns, p (scalarOf overrides column))
    (hreferences : ∀ reference ∈ table.references, p (connectionName reference)) :
    ∀ name ∈ (table.typesWith overrides).fieldTypes, p name := by
  have hkey : ∀ name ∈ ((table.typesWith overrides).key?.map (·.scalar)).toList, p name := by
    intro name hname
    obtain ⟨key, hkey, rfl⟩ := Option.map_eq_some_iff.mp (Option.mem_toList.mp hname)
    obtain ⟨column, hcolumn, -, hscalar⟩ := mem_columns_of_key? hkey
    rw [← hscalar]
    exact hcolumns column hcolumn
  unfold TableTypes.fieldTypes typesWith
  simp only [List.forall_mem_append, List.map_append, List.map_map, List.forall_mem_map, Function.comp_apply,
    fieldType_name, updateType_name]
  exact ⟨⟨⟨⟨hcolumns, hreferences⟩, hcolumns⟩, hcolumns⟩, hkey⟩

variable {options : TableOptions} {types : TableTypes}

theorem scalarOf_cases (hknown : ∀ entry ∈ Scalar.known, p entry.2) (hstring : p "String") (column : Column) :
    scalarOf overrides.byBaseName column ∈ overrides.map (·.2) ∨ p (scalarOf overrides.byBaseName column) := by
  unfold scalarOf
  apply Scalar.of_ofSqlType (p := fun scalar => scalar ∈ overrides.map (·.2) ∨ p scalar)
  . exact fun entry hentry => .inr (hknown entry hentry)
  . exact .inr hstring
  . unfold Overrides.byBaseName
    rw [List.forall_mem_map]
    exact fun entry hentry => .inl (List.mem_map_of_mem (f := (·.2)) hentry)

theorem forall_isAcceptedName (htypes : table.types options = .ok types) :
    ∀ name ∈ table.names, isAcceptedName name = true := by
  obtain ⟨hfaults, -⟩ := types_eq_ok_iff.mp htypes
  obtain ⟨⟨⟨htable, -⟩, hcolumns⟩, hreferences⟩ := faults_eq_nil_iff.mp hfaults
  exact forall_mem_names.mpr ⟨htable, hcolumns, hreferences⟩

/--
The names in the types of an accepted table, and the types of its fields, are GraphQL names but for one line
break in each, scalars that go before the known ones apart. There is none of these line breaks exactly if no
name of the table ends with one.
-/
theorem names_of_types (htypes : table.types options = .ok types) :
    (∀ name ∈ types.names, IsBrokenName name) ∧
    (∀ name ∈ types.fieldTypes, name ∈ options.overrides.map (·.2) ∨ IsBrokenName name) ∧
    ((∀ name ∈ types.names, IsName name) ↔ ∀ name ∈ table.names, name.toList.getLast? ≠ some '\n') ∧
    ((∀ name ∈ types.names, IsName name) →
      ∀ name ∈ types.fieldTypes, name ∈ options.overrides.map (·.2) ∨ IsName name) := by
  have haccepted := forall_isAcceptedName htypes
  have hbroken : ∀ name ∈ table.names, IsBrokenName name :=
    fun name hname => isBrokenName_of_isAcceptedName (haccepted name hname)
  obtain ⟨htable, -, hreferences⟩ := forall_mem_names.mp hbroken
  obtain ⟨-, rfl⟩ := types_eq_ok_iff.mp htypes
  refine ⟨?_, ?_, ⟨?_, ?_⟩, ?_⟩
  . exact forall_mem_names_typesWith.mpr ⟨⟨htable.createInputName, htable.updateInputName⟩, hbroken⟩
  . apply forall_mem_fieldTypes
    . intro column _
      exact scalarOf_cases (fun entry hentry => IsName.isBrokenName (by revert entry; decide))
        (IsName.isBrokenName (by decide)) column
    . exact fun reference hreference => .inr (hreferences reference hreference).connectionName
  . intro hnames name hname hlast
    have hisName : IsName name := (forall_mem_names_typesWith.mp hnames).right name hname
    exact hisName.not_mem_break (List.mem_of_getLast? hlast)
  . intro hlast
    have hnames : ∀ name ∈ table.names, IsName name :=
      fun name hname => isName_of_isAcceptedName (haccepted name hname) (hlast name hname)
    obtain ⟨htable, -, -⟩ := forall_mem_names.mp hnames
    exact forall_mem_names_typesWith.mpr ⟨⟨htable.createInputName, htable.updateInputName⟩, hnames⟩
  . intro hnames
    obtain ⟨-, -, hreferences⟩ := forall_mem_names.mp (forall_mem_names_typesWith.mp hnames).right
    apply forall_mem_fieldTypes
    . intro column _
      exact scalarOf_cases (by decide) (by decide) column
    . exact fun reference hreference => .inr (hreferences reference hreference).connectionName

theorem names_of_types_author :
    "CreateauthorInput" ∈ (sampleTables[0].typesWith []).names ∧ IsName "CreateauthorInput" := by
  have htypes : sampleTables[0].types ⟨false, []⟩ = .ok (sampleTables[0].typesWith []) :=
    types_eq_ok_iff.mpr ⟨by decide, rfl⟩
  have hmem : "CreateauthorInput" ∈ (sampleTables[0].typesWith []).names := by decide
  obtain ⟨-, -, hnames, -⟩ := names_of_types htypes
  exact ⟨hmem, hnames.mpr (by decide) _ hmem⟩

/-- A table whose name ends with a line break is accepted, and the break is in the middle of a type name. -/
theorem broken_names_of_types :
    ∃ types, types ∈ (Table.types ⟨"author\n", [⟨"id", "INT", false, .primary⟩], []⟩ {}).toOption ∧
      ∃ name ∈ types.names, name = "Createauthor\nInput" ∧ ¬IsName name := by
  refine ⟨_, rfl, "Createauthor\nInput", ?_, rfl, ?_⟩
  . decide
  . decide

end Table
end TableGraph
