import Mathlib.Data.List.Nodup
import TableGraph.Proofs.Name
import TableGraph.Schema
import TableGraph.TypeSystem.Violation

/-!
The document of a list of tables: the names that it defines, the fields of its definitions, and the types
that they refer to.
-/

namespace TableGraph

def derivedNames (table : String) : List String :=
  [connectionName table, createInputName table, updateInputName table]

def tableTypeNames (table : String) : List String :=
  [connectionName table, createInputName table, table, updateInputName table]

def rootTypeNames : List String :=
  ["Mutation", "Query", "Subscription"]

theorem mem_tableTypeNames {name table : String} :
    name ∈ tableTypeNames table ↔ name = table ∨ name ∈ derivedNames table := by
  simp only [tableTypeNames, derivedNames, List.mem_cons, List.not_mem_nil, or_false]
  constructor
  . rintro (h | h | h | h)
    . exact .inr (.inl h)
    . exact .inr (.inr (.inl h))
    . exact .inl h
    . exact .inr (.inr (.inr h))
  . rintro (h | h | h | h)
    . exact .inr (.inr (.inl h))
    . exact .inl h
    . exact .inr (.inl h)
    . exact .inr (.inr (.inr h))

theorem not_mem_derivedNames (table : String) : table ∉ derivedNames table := by
  simp only [derivedNames, List.mem_cons, List.not_mem_nil, or_false, not_or]
  exact ⟨ne_connectionName table, ne_createInputName table, ne_updateInputName table⟩

theorem nodup_derivedNames (table : String) : (derivedNames table).Nodup := by
  simp only [derivedNames, List.nodup_cons, List.mem_cons, List.not_mem_nil, or_false, not_or,
    not_false_eq_true, List.nodup_nil, and_true]
  refine ⟨⟨?_, ?_⟩, ?_⟩
  . apply connectionName_ne_createInputName
  . apply connectionName_ne_updateInputName
  . apply createInputName_ne_updateInputName

theorem nodup_tableTypeNames (table : String) : (tableTypeNames table).Nodup := by
  have hperm : (table :: derivedNames table).Perm (tableTypeNames table) := by
    apply List.Perm.trans (.swap _ _ _)
    exact (List.Perm.swap _ _ _).cons _
  exact hperm.nodup_iff.mp (List.nodup_cons.mpr ⟨not_mem_derivedNames table, nodup_derivedNames table⟩)

theorem disjoint_derivedNames {table other : String} (hne : table ≠ other) :
    (derivedNames table).Disjoint (derivedNames other) := by
  intro name hmem hother
  simp only [derivedNames, List.mem_cons, List.not_mem_nil, or_false] at hmem hother
  rcases hmem with rfl | rfl | rfl
  . rcases hother with h | h | h
    . exact hne (connectionName_inj.mp h)
    . exact connectionName_ne_createInputName table other h
    . exact connectionName_ne_updateInputName table other h
  . rcases hother with h | h | h
    . exact connectionName_ne_createInputName other table h.symm
    . exact hne (createInputName_inj.mp h)
    . exact createInputName_ne_updateInputName table other h
  . rcases hother with h | h | h
    . exact connectionName_ne_updateInputName other table h.symm
    . exact createInputName_ne_updateInputName other table h.symm
    . exact hne (updateInputName_inj.mp h)

theorem disjoint_tableTypeNames_iff {table other : String} :
    (tableTypeNames table).Disjoint (tableTypeNames other)
      ↔
    table ≠ other ∧ table ∉ derivedNames other ∧ other ∉ derivedNames table := by
  constructor
  . intro hdisjoint
    refine ⟨?_, ?_, ?_⟩
    . rintro rfl
      exact hdisjoint (mem_tableTypeNames.mpr (.inl rfl)) (mem_tableTypeNames.mpr (.inl rfl))
    . intro hmem
      exact hdisjoint (mem_tableTypeNames.mpr (.inl rfl)) (mem_tableTypeNames.mpr (.inr hmem))
    . intro hmem
      exact hdisjoint (mem_tableTypeNames.mpr (.inr hmem)) (mem_tableTypeNames.mpr (.inl rfl))
  . rintro ⟨hne, htable, hother⟩ name hmem hmem'
    rcases mem_tableTypeNames.mp hmem with rfl | hderived
    . rcases mem_tableTypeNames.mp hmem' with h | h
      . exact hne h
      . exact htable h
    . rcases mem_tableTypeNames.mp hmem' with rfl | h
      . exact hother hderived
      . exact disjoint_derivedNames hne hderived h

theorem nodup_flatMap_tableTypeNames_iff {tables : List String} :
    (tables.flatMap tableTypeNames).Nodup
      ↔
    tables.Nodup ∧ ∀ table ∈ tables, ∀ other ∈ tables, table ∉ derivedNames other := by
  rw [List.nodup_flatMap]
  constructor
  . rintro ⟨-, hpairwise⟩
    refine ⟨?_, ?_⟩
    . apply hpairwise.imp
      intro table other hdisjoint
      exact (disjoint_tableTypeNames_iff.mp hdisjoint).left
    . -- a pair of tables is listed in one order only, and both orders are asked for
      apply List.Pairwise.forall_of_forall_of_flip
      . intro name _
        exact not_mem_derivedNames name
      . apply hpairwise.imp
        intro _ _ hdisjoint
        exact (disjoint_tableTypeNames_iff.mp hdisjoint).right.left
      . apply hpairwise.imp
        intro _ _ hdisjoint
        exact (disjoint_tableTypeNames_iff.mp hdisjoint).right.right
  . rintro ⟨hnodup, hapart⟩
    refine ⟨fun table _ => nodup_tableTypeNames table, ?_⟩
    apply List.Pairwise.imp_of_mem _ hnodup
    intro table other htable hother hne
    exact disjoint_tableTypeNames_iff.mpr
      ⟨hne, hapart table htable other hother, hapart other hother table htable⟩

theorem TableTypes.forall_mem_definitions {types : TableTypes} {p : Definition → Prop} :
    (∀ definition ∈ types.definitions, p definition)
      ↔
    p (.object types.connection) ∧ p (.input types.createInput) ∧ p (.object types.entity) ∧
      p (.input types.updateInput) := by
  simp [TableTypes.definitions]

namespace Document

theorem forall_mem_ofTables {tables : List TableTypes} {p : Definition → Prop} :
    (∀ definition ∈ ofTables tables, p definition)
      ↔
    (∀ types ∈ tables, ∀ definition ∈ types.definitions, p definition) ∧
    p (.object ⟨"Mutation", tables.flatMap (·.mutations)⟩) ∧
    p (.object ⟨"Query", tables.flatMap (·.queries)⟩) ∧
    p (.object ⟨"Subscription", tables.map (·.subscription)⟩) ∧
    p (.schema ⟨"Query", "Mutation", "Subscription"⟩) := by
  unfold ofTables roots
  rw [List.forall_mem_append, List.forall_mem_flatMap]
  simp

theorem mem_ofTables (tables : List TableTypes) :
    (∀ types ∈ tables, ∀ definition ∈ types.definitions, definition ∈ ofTables tables) ∧
    .object ⟨"Mutation", tables.flatMap (·.mutations)⟩ ∈ ofTables tables ∧
    .object ⟨"Query", tables.flatMap (·.queries)⟩ ∈ ofTables tables ∧
    .object ⟨"Subscription", tables.map (·.subscription)⟩ ∈ ofTables tables ∧
    .schema ⟨"Query", "Mutation", "Subscription"⟩ ∈ ofTables tables :=
  forall_mem_ofTables.mp fun _ hmem => hmem

variable (tables : List Table) (overrides : Overrides)

theorem typeNames_ofTables :
    typeNames (ofTables (tables.map (·.typesWith overrides)))
      =
    (tables.map (·.name)).flatMap tableTypeNames ++ rootTypeNames := by
  unfold typeNames ofTables
  rw [List.filterMap_append, List.filterMap_flatMap, List.flatMap_map, List.flatMap_map]
  rfl

end Document
end TableGraph
