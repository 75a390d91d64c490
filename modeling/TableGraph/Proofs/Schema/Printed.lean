import TableGraph.Proofs.Definition.Printer
import TableGraph.Proofs.Schema.Document
import TableGraph.Proofs.Schema.RootFields
import TableGraph.Proofs.TableTypes

/-!
The printed document of a list of tables tells the tables. The definitions of each table are read off the
text one after another, up to the mutations, and the mutations tell the keys.
-/

namespace TableGraph

open Text

namespace Document

def printFront (definitions : List Definition) : List Char :=
  definitions.flatMap (·.print.toList ++ ['\n', '\n'])

theorem printFront_append (front rest : List Definition) :
    printFront (front ++ rest) = printFront front ++ printFront rest := by
  apply List.flatMap_append

theorem print_eq_intercalate (document : Document) :
    document.print = "\n\n".intercalate (document.map Definition.print) := by
  unfold print
  rw [joinParts_of_nonempty]
  rw [List.forall_mem_map]
  exact fun definition _ => definition.print_ne_empty

theorem toList_print_append (front : Document) {rest : Document} (hrest : rest ≠ []) :
    (print (front ++ rest)).toList = printFront front ++ (print rest).toList := by
  have hprints : rest.map Definition.print ≠ [] := by simpa using hrest
  rw [print_eq_intercalate, print_eq_intercalate, List.map_append, toList_intercalate_append hprints,
    List.flatMap_map]
  rfl

theorem printFront_append_inj {definitions others : List Definition}
    (hdefinitions : ∀ definition ∈ definitions, definition.IsPlain) (hothers : ∀ other ∈ others, other.IsPlain)
    (hlength : definitions.length = others.length) {rest otherRest : List Char}
    (heq : printFront definitions ++ rest = printFront others ++ otherRest) :
    definitions = others ∧ rest = otherRest := by
  induction definitions generalizing others with
  | nil =>
    obtain rfl : others = [] := List.length_eq_zero_iff.mp hlength.symm
    exact ⟨rfl, heq⟩
  | cons definition definitions ih =>
    cases others with
    | nil => cases hlength
    | cons other others =>
      rw [List.forall_mem_cons] at hdefinitions hothers
      simp only [printFront, List.flatMap_cons, List.append_assoc, List.cons_append, List.nil_append] at heq
      obtain ⟨rfl, hrest⟩ := Definition.print_append_inj hdefinitions.left hothers.left heq
      obtain ⟨rfl, hlast⟩ := ih hdefinitions.right hothers.right (Nat.succ.inj hlength)
        (List.tail_eq_of_cons_eq hrest)
      exact ⟨rfl, hlast⟩

end Document

namespace TableTypes

variable {types other : TableTypes}

theorem eq_of_definitions (hdefinitions : types.definitions = other.definitions)
    (hkey : types.key? = other.key?) : types = other := by
  obtain ⟨table, entity, createInput, updateInput, key?⟩ := types
  obtain ⟨otherTable, otherEntity, otherCreate, otherUpdate, otherKey?⟩ := other
  simp only [definitions, List.cons.injEq, Definition.object.injEq, Definition.input.injEq, and_true]
    at hdefinitions
  obtain ⟨hconnection, rfl, rfl, rfl⟩ := hdefinitions
  obtain rfl : table = otherTable := connectionName_inj.mp (congrArg ObjectType.name hconnection)
  obtain rfl : key? = otherKey? := hkey
  rfl

theorem keyArgument_inj {key other : Key} (heq : keyArgument key = keyArgument other) : key = other := by
  obtain ⟨column, scalar⟩ := key
  obtain ⟨otherColumn, otherScalar⟩ := other
  cases heq
  rfl

theorem mutations_append_inj {rest otherRest : List Field}
    (heq : types.mutations ++ rest = other.mutations ++ otherRest) :
    types.key? = other.key? ∧ rest = otherRest := by
  -- the first mutation deletes if there is a key and creates if not, whatever the tables are
  cases hkey : types.key? with
  | none =>
    rw [mutations_of_keyless hkey] at heq
    cases hother : other.key? with
    | none =>
      rw [mutations_of_keyless hother] at heq
      exact ⟨rfl, List.tail_eq_of_cons_eq heq⟩
    | some otherKey =>
      rw [mutations_of_key hother] at heq
      have hname := congrArg Field.name (List.head_eq_of_cons_eq heq)
      exact absurd hname.symm (deleteFieldName_ne_createFieldName other.table types.table)
  | some key =>
    rw [mutations_of_key hkey] at heq
    cases hother : other.key? with
    | none =>
      rw [mutations_of_keyless hother] at heq
      have hname := congrArg Field.name (List.head_eq_of_cons_eq heq)
      exact absurd hname (deleteFieldName_ne_createFieldName types.table other.table)
    | some otherKey =>
      rw [mutations_of_key hother] at heq
      simp only [List.cons_append, List.nil_append, List.cons.injEq] at heq
      obtain ⟨hdelete, -, -, hrest⟩ := heq
      have hargs : [keyArgument key] = [keyArgument otherKey] := congrArg Field.args hdelete
      rw [keyArgument_inj (List.head_eq_of_cons_eq hargs)]
      exact ⟨rfl, hrest⟩

theorem eq_of_definitions_of_mutations {tables others : List TableTypes}
    (hdefinitions : tables.map (·.definitions) = others.map (·.definitions))
    (hmutations : tables.flatMap (·.mutations) = others.flatMap (·.mutations)) : tables = others := by
  induction tables generalizing others with
  | nil =>
    symm
    simpa using hdefinitions
  | cons types tables ih =>
    cases others with
    | nil => cases hdefinitions
    | cons other others =>
      rw [List.map_cons, List.map_cons, List.cons.injEq] at hdefinitions
      obtain ⟨hkey, hrest⟩ := mutations_append_inj hmutations
      rw [eq_of_definitions hdefinitions.left hkey, ih hdefinitions.right hrest]

structure IsPlain (types : TableTypes) : Prop where
  definitions : ∀ definition ∈ types.definitions, definition.IsPlain
  mutations : ∀ field ∈ types.mutations, field.IsPlain

/-- Types that are made for some table with some options, where all names and scalars are GraphQL names. -/
def IsMade (types : TableTypes) : Prop :=
  ∃ (table : Table) (options : TableOptions), table.types options = .ok types ∧ table.IsNamed ∧
    ∀ column ∈ table.columns, IsName (Table.scalarOf options.overrides.byBaseName column)

end TableTypes

namespace Table

variable {table : Table} {overrides : Overrides} (hnamed : table.IsNamed)
  (hscalars : ∀ column ∈ table.columns, IsName (scalarOf overrides column))

include hnamed

theorem isPlain_connection : (Definition.object (table.typesWith overrides).connection).IsPlain := by
  refine ⟨hnamed.name.connectionName, ?_⟩
  simp only [TableTypes.connection, List.forall_mem_cons, List.not_mem_nil, false_imp_iff, implies_true,
    and_true]
  have hitems : IsName "items" := by decide
  have htoken : IsName "nextToken" ∧ IsName "String" := by decide
  exact ⟨⟨hitems, by simp, hnamed.name, rfl⟩, ⟨htoken.left, by simp, htoken.right, rfl⟩⟩

include hscalars

theorem isPlain_inputs {typeOf : Column → TypeRef}
    (htypes : ∀ column, (typeOf column).name = scalarOf overrides column) :
    ∀ value ∈ table.columns.map fun column => (⟨column.name, typeOf column⟩ : InputValue), value.IsPlain := by
  rw [List.forall_mem_map]
  intro column hcolumn
  refine ⟨hnamed.columns column hcolumn, ?_⟩
  rw [htypes]
  exact hscalars column hcolumn

theorem isPlain_createInput : (Definition.input (table.typesWith overrides).createInput).IsPlain :=
  ⟨hnamed.name.createInputName, isPlain_inputs hnamed hscalars (fieldType_name overrides)⟩

theorem isPlain_updateInput : (Definition.input (table.typesWith overrides).updateInput).IsPlain :=
  ⟨hnamed.name.updateInputName, isPlain_inputs hnamed hscalars (updateType_name overrides)⟩

theorem isPlain_entity : (Definition.object (table.typesWith overrides).entity).IsPlain := by
  refine ⟨hnamed.name, List.forall_mem_append.mpr ⟨?_, ?_⟩⟩
  . rw [List.forall_mem_map]
    intro column hcolumn
    refine ⟨hnamed.columns column hcolumn, by simp, ?_, rfl⟩
    rw [fieldType_name]
    exact hscalars column hcolumn
  . rw [List.forall_mem_map]
    intro reference hreference
    have hname := hnamed.references reference hreference
    exact ⟨hname, by simp, hname.connectionName, rfl⟩

theorem isPlain_keyArgument {key : Key} (hkey : table.key? overrides = some key) :
    (TableTypes.keyArgument key).IsPlain := by
  obtain ⟨column, hcolumn, -, hscalar⟩ := mem_columns_of_key? hkey
  refine ⟨hnamed.key hkey, ?_⟩
  have hname := hscalars column hcolumn
  rwa [hscalar] at hname

theorem isPlain_typesWith : (table.typesWith overrides).IsPlain where
  definitions := TableTypes.forall_mem_definitions.mpr
    ⟨isPlain_connection hnamed, isPlain_createInput hnamed hscalars, isPlain_entity hnamed hscalars,
     isPlain_updateInput hnamed hscalars⟩
  mutations := by
    have hname := hnamed.name
    rw [TableTypes.forall_mem_mutations]
    refine ⟨⟨hname.createFieldName, ?_, hname, rfl⟩, fun key hkey => ⟨⟨hname.deleteFieldName, ?_, hname, rfl⟩,
      ⟨hname.updateFieldName, ?_, hname, rfl⟩⟩⟩
    . exact List.forall_mem_singleton.mpr ⟨hname.createArgumentName, hname.createInputName⟩
    . exact List.forall_mem_singleton.mpr (isPlain_keyArgument hnamed hscalars hkey)
    . exact List.forall_mem_singleton.mpr ⟨hname.updateArgumentName, hname.updateInputName⟩

end Table

theorem TableTypes.IsMade.isPlain {types : TableTypes} (hmade : types.IsMade) : types.IsPlain := by
  obtain ⟨table, options, htypes, hnamed, hscalars⟩ := hmade
  obtain ⟨-, rfl⟩ := Table.types_eq_ok_iff.mp htypes
  exact Table.isPlain_typesWith hnamed hscalars

namespace Document

def mutationType (tables : List TableTypes) : ObjectType :=
  ⟨"Mutation", tables.flatMap (·.mutations)⟩

theorem isPlain_mutationType {tables : List TableTypes} (htables : ∀ types ∈ tables, types.IsPlain) :
    (Definition.object (mutationType tables)).IsPlain := by
  have hname : IsName "Mutation" := by decide
  refine ⟨hname, ?_⟩
  intro field hfield
  obtain ⟨types, htypes, hmem⟩ := List.mem_flatMap.mp hfield
  exact (htables types htypes).mutations field hmem

theorem mutationType_ne_connection (tables : List TableTypes) (types : TableTypes) :
    Definition.object (mutationType tables) ≠ .object types.connection := by
  intro heq
  have hname : "Mutation" = connectionName types.table :=
    congrArg ObjectType.name (Definition.object.inj heq)
  have hspares : SparesGenerated ["Mutation"] := by decide
  exact hspares.connectionName types.table (hname ▸ List.mem_singleton_self _)

theorem toList_print_ofTables (tables : List TableTypes) :
    ∃ rest, (print (ofTables tables)).toList
      = printFront (tables.flatMap (·.definitions)) ++
          ((Definition.object (mutationType tables)).print.toList ++ '\n' :: rest) := by
  have hsplit : ofTables tables
      = (tables.flatMap (·.definitions) ++ [.object (mutationType tables)]) ++ (roots tables).tail := by
    rw [List.append_assoc]
    rfl
  rw [hsplit, toList_print_append _ (by simp [roots]), printFront_append, List.append_assoc]
  refine ⟨'\n' :: (print (roots tables).tail).toList, ?_⟩
  simp [printFront]

theorem print_ne_printFront_definitions {last : Definition} (hlast : last.IsPlain) {types : TableTypes}
    (htypes : types.IsPlain) (hapart : last ≠ .object types.connection) (tables : List TableTypes)
    (rest otherRest : List Char) :
    last.print.toList ++ '\n' :: rest
      ≠
    printFront ((types :: tables).flatMap (·.definitions)) ++ otherRest := by
  intro heq
  rw [List.flatMap_cons, TableTypes.definitions] at heq
  simp only [printFront, List.cons_append, List.flatMap_cons, List.append_assoc, List.nil_append] at heq
  have hconnection : (Definition.object types.connection).IsPlain :=
    htypes.definitions _ List.mem_cons_self
  exact hapart (Definition.print_append_inj hlast hconnection heq).left

theorem printFront_definitions_inj {tables others : List TableTypes} {last otherLast : Definition}
    (htables : ∀ types ∈ tables, types.IsPlain) (hothers : ∀ other ∈ others, other.IsPlain)
    (hlast : last.IsPlain) (hotherLast : otherLast.IsPlain)
    (hapart : ∀ types : TableTypes, last ≠ .object types.connection)
    (hotherApart : ∀ types : TableTypes, otherLast ≠ .object types.connection) {rest otherRest : List Char}
    (heq : printFront (tables.flatMap (·.definitions)) ++ (last.print.toList ++ '\n' :: rest)
      = printFront (others.flatMap (·.definitions)) ++ (otherLast.print.toList ++ '\n' :: otherRest)) :
    tables.map (·.definitions) = others.map (·.definitions) ∧ last = otherLast := by
  induction tables generalizing others with
  | nil =>
    cases others with
    | nil => exact ⟨rfl, (Definition.print_append_inj hlast hotherLast heq).left⟩
    | cons other others =>
      rw [List.forall_mem_cons] at hothers
      exact absurd heq (print_ne_printFront_definitions hlast hothers.left (hapart other) others _ _)
  | cons types tables ih =>
    rw [List.forall_mem_cons] at htables
    cases others with
    | nil =>
      exact absurd heq.symm
        (print_ne_printFront_definitions hotherLast htables.left (hotherApart types) tables _ _)
    | cons other others =>
      rw [List.forall_mem_cons] at hothers
      rw [List.flatMap_cons, List.flatMap_cons, printFront_append, printFront_append, List.append_assoc,
        List.append_assoc] at heq
      -- all tables have four definitions, so that it is clear where the next table starts
      obtain ⟨hdefinitions, hrest⟩ :=
        printFront_append_inj htables.left.definitions hothers.left.definitions rfl heq
      obtain ⟨hsame, hlasts⟩ := ih htables.right hothers.right hrest
      rw [List.map_cons, List.map_cons, hdefinitions, hsame]
      exact ⟨rfl, hlasts⟩

/--
The printed document tells the tables: no other list of tables, with whatever options each was made, has the
same text. Any names may be repeated, and may be those of root types or ones that are made for other tables.
-/
theorem print_ofTables_inj {tables others : List TableTypes} (htables : ∀ types ∈ tables, types.IsMade)
    (hothers : ∀ other ∈ others, other.IsMade)
    (hprint : (ofTables tables).print = (ofTables others).print) : tables = others := by
  have hplain : ∀ types ∈ tables, types.IsPlain := fun types hmem => (htables types hmem).isPlain
  have hotherPlain : ∀ other ∈ others, other.IsPlain := fun other hmem => (hothers other hmem).isPlain
  -- what follows the mutations is determined by what was read up to them
  obtain ⟨rest, hfront⟩ := toList_print_ofTables tables
  obtain ⟨otherRest, hotherFront⟩ := toList_print_ofTables others
  rw [← String.toList_inj, hfront, hotherFront] at hprint
  obtain ⟨hdefinitions, hmutations⟩ := printFront_definitions_inj hplain hotherPlain
    (isPlain_mutationType hplain) (isPlain_mutationType hotherPlain) (mutationType_ne_connection tables)
    (mutationType_ne_connection others) hprint
  exact TableTypes.eq_of_definitions_of_mutations hdefinitions
    (congrArg ObjectType.fields (Definition.object.inj hmutations))

theorem print_ofTables_inj_sampleTables :
    (∀ types ∈ sampleTables.map (·.typesWith []), types.IsMade) ∧
    (∀ types ∈ sampleTables.map (·.typesWith [("INTEGER", "Int")]), types.IsMade) ∧
    (ofTables (sampleTables.map (·.typesWith []))).print
      = (ofTables (sampleTables.map (·.typesWith [("INTEGER", "Int")]))).print ∧
    sampleTables.map (·.typesWith []) = sampleTables.map (·.typesWith [("INTEGER", "Int")]) := by
  have hfaults : ∀ table ∈ sampleTables, table.faults false = [] := by decide
  have hnamed : ∀ table ∈ sampleTables, table.IsNamed := by decide
  have hmade : ∀ types ∈ sampleTables.map (·.typesWith []), types.IsMade := by
    have hscalars : ∀ table ∈ sampleTables, ∀ column ∈ table.columns, IsName (Table.scalarOf [] column) := by
      decide
    rw [List.forall_mem_map]
    exact fun table htable =>
      ⟨table, ⟨false, []⟩, Table.types_eq_ok_iff.mpr ⟨hfaults table htable, rfl⟩, hnamed table htable,
        hscalars table htable⟩
  have hothers : ∀ types ∈ sampleTables.map (·.typesWith [("INTEGER", "Int")]), types.IsMade := by
    have hscalars : ∀ table ∈ sampleTables, ∀ column ∈ table.columns,
        IsName (Table.scalarOf [("INTEGER", "Int")] column) := by
      decide
    rw [List.forall_mem_map]
    exact fun table htable =>
      ⟨table, ⟨false, [("integer", "Int")]⟩, Table.types_eq_ok_iff.mpr ⟨hfaults table htable, rfl⟩,
        hnamed table htable, hscalars table htable⟩
  have hprint : (ofTables (sampleTables.map (·.typesWith []))).print
      = (ofTables (sampleTables.map (·.typesWith [("INTEGER", "Int")]))).print := by
    have hscalars : ∀ table ∈ sampleTables, table.typesWith [] = table.typesWith [("INTEGER", "Int")] := by
      decide +kernel
    rw [List.map_congr_left hscalars]
  exact ⟨hmade, hothers, hprint, print_ofTables_inj hmade hothers hprint⟩

end Document
end TableGraph
