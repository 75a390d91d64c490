import Mathlib.Data.List.Nodup
import TableGraph.Proofs.Name
import TableGraph.Schema

/-!
The fields of the root types. The fields of a table are those that exist with a key, or else those that
exist without one; no two tables share any.
-/

namespace TableGraph
namespace TableTypes

def mutationNames (table : String) : List String :=
  [deleteFieldName table, createFieldName table, updateFieldName table]

def queryNames (table : String) : List String :=
  [getFieldName table, listFieldName table]

theorem nodup_mutationNames (table : String) : (mutationNames table).Nodup := by
  simp only [mutationNames, List.nodup_cons, List.mem_cons, List.not_mem_nil, or_false, not_or,
    not_false_eq_true, List.nodup_nil, and_true]
  refine ⟨⟨?_, ?_⟩, ?_⟩
  . apply deleteFieldName_ne_createFieldName
  . apply deleteFieldName_ne_updateFieldName
  . apply createFieldName_ne_updateFieldName

theorem nodup_queryNames (table : String) : (queryNames table).Nodup := by
  simp only [queryNames, List.nodup_cons, List.mem_cons, List.not_mem_nil, or_false,
    not_false_eq_true, List.nodup_nil, and_true]
  apply getFieldName_ne_listFieldName

theorem disjoint_mutationNames {table other : String} (hne : table ≠ other) :
    (mutationNames table).Disjoint (mutationNames other) := by
  intro name hmem hother
  simp only [mutationNames, List.mem_cons, List.not_mem_nil, or_false] at hmem hother
  rcases hmem with rfl | rfl | rfl
  . rcases hother with h | h | h
    . exact hne (deleteFieldName_inj.mp h)
    . exact deleteFieldName_ne_createFieldName table other h
    . exact deleteFieldName_ne_updateFieldName table other h
  . rcases hother with h | h | h
    . exact deleteFieldName_ne_createFieldName other table h.symm
    . exact hne (createFieldName_inj.mp h)
    . exact createFieldName_ne_updateFieldName table other h
  . rcases hother with h | h | h
    . exact deleteFieldName_ne_updateFieldName other table h.symm
    . exact createFieldName_ne_updateFieldName other table h.symm
    . exact hne (updateFieldName_inj.mp h)

theorem disjoint_queryNames {table other : String} (hne : table ≠ other) :
    (queryNames table).Disjoint (queryNames other) := by
  intro name hmem hother
  simp only [queryNames, List.mem_cons, List.not_mem_nil, or_false] at hmem hother
  rcases hmem with rfl | rfl
  . rcases hother with h | h
    . exact hne (getFieldName_inj.mp h)
    . exact getFieldName_ne_listFieldName table other h
  . rcases hother with h | h
    . exact getFieldName_ne_listFieldName other table h.symm
    . exact hne (listFieldName_inj.mp h)

section Fields

variable (types : TableTypes) (key : Key)

/-! The fields that a table may have in the root types, one for each operation. -/

def getField : Field where
  name := getFieldName types.table
  args := [keyArgument key]
  type := .named types.table

def listField : Field where
  name := listFieldName types.table
  args := [⟨"nextToken", .named "String"⟩]
  type := .named (connectionName types.table)

def createField : Field where
  name := createFieldName types.table
  args := [⟨createArgumentName types.table, .nonNull (.named types.createInput.name)⟩]
  type := .named types.table

def updateField : Field where
  name := updateFieldName types.table
  args := [⟨updateArgumentName types.table, .nonNull (.named types.updateInput.name)⟩]
  type := .named types.table

def deleteField : Field where
  name := deleteFieldName types.table
  args := [keyArgument key]
  type := .named types.table

end Fields

variable {types : TableTypes}

theorem mutations_of_keyless (hkey : types.key? = none) : types.mutations = [types.createField] := by
  unfold mutations
  rw [hkey]
  rfl

theorem mutations_of_key {key : Key} (hkey : types.key? = some key) :
    types.mutations = [types.deleteField key, types.createField, types.updateField] := by
  unfold mutations
  rw [hkey]
  rfl

theorem queries_of_keyless (hkey : types.key? = none) : types.queries = [types.listField] := by
  unfold queries
  rw [hkey]
  rfl

theorem queries_of_key {key : Key} (hkey : types.key? = some key) :
    types.queries = [types.getField key, types.listField] := by
  unfold queries
  rw [hkey]
  rfl

theorem forall_mem_mutations {p : Field → Prop} :
    (∀ field ∈ types.mutations, p field)
      ↔
    p types.createField ∧ ∀ key, types.key? = some key → p (types.deleteField key) ∧ p types.updateField := by
  cases hkey : types.key? with
  | none =>
    rw [mutations_of_keyless hkey]
    simp
  | some key =>
    rw [mutations_of_key hkey]
    simp only [List.forall_mem_cons, List.not_mem_nil, false_imp_iff, implies_true, and_true,
      Option.some.injEq, forall_eq']
    rw [and_left_comm]

theorem forall_mem_queries {p : Field → Prop} :
    (∀ field ∈ types.queries, p field)
      ↔
    p types.listField ∧ ∀ key, types.key? = some key → p (types.getField key) := by
  cases hkey : types.key? with
  | none =>
    rw [queries_of_keyless hkey]
    simp
  | some key =>
    rw [queries_of_key hkey]
    simp only [List.forall_mem_cons, List.not_mem_nil, false_imp_iff, implies_true, and_true,
      Option.some.injEq, forall_eq']
    rw [and_comm]

variable (types) in
theorem mutations_sublist : (types.mutations.map (·.name)).Sublist (mutationNames types.table) := by
  cases hkey : types.key? with
  | none =>
    rw [mutations_of_keyless hkey]
    simp [mutationNames, createField]
  | some key =>
    rw [mutations_of_key hkey]
    apply List.Sublist.refl

variable (types) in
theorem queries_sublist : (types.queries.map (·.name)).Sublist (queryNames types.table) := by
  cases hkey : types.key? with
  | none =>
    rw [queries_of_keyless hkey]
    simp [queryNames, listField]
  | some key =>
    rw [queries_of_key hkey]
    apply List.Sublist.refl

theorem disjoint_mutations {other : TableTypes} (hne : types.table ≠ other.table) :
    (types.mutations.map (·.name)).Disjoint (other.mutations.map (·.name)) := by
  apply List.disjoint_of_subset_left types.mutations_sublist.subset
  apply List.disjoint_of_subset_right other.mutations_sublist.subset
  exact disjoint_mutationNames hne

theorem disjoint_queries {other : TableTypes} (hne : types.table ≠ other.table) :
    (types.queries.map (·.name)).Disjoint (other.queries.map (·.name)) := by
  apply List.disjoint_of_subset_left types.queries_sublist.subset
  apply List.disjoint_of_subset_right other.queries_sublist.subset
  exact disjoint_queryNames hne

variable {tables : List TableTypes} (htables : (tables.map (·.table)).Nodup)

include htables

theorem pairwise_table_ne : tables.Pairwise fun types other => types.table ≠ other.table :=
  List.pairwise_map.mp htables

theorem nodup_mutations : (tables.flatMap fun types => types.mutations.map (·.name)).Nodup := by
  rw [List.nodup_flatMap]
  refine ⟨fun types _ => (nodup_mutationNames types.table).sublist types.mutations_sublist, ?_⟩
  exact (pairwise_table_ne htables).imp disjoint_mutations

theorem nodup_queries : (tables.flatMap fun types => types.queries.map (·.name)).Nodup := by
  rw [List.nodup_flatMap]
  refine ⟨fun types _ => (nodup_queryNames types.table).sublist types.queries_sublist, ?_⟩
  exact (pairwise_table_ne htables).imp disjoint_queries

theorem nodup_subscriptions : (tables.map (·.subscription.name)).Nodup := by
  have hnames : tables.map (·.subscription.name) = (tables.map (·.table)).map onCreateFieldName := by
    rw [List.map_map]
    rfl
  rw [hnames]
  exact htables.map fun _ _ => onCreateFieldName_inj.mp

end TableTypes
end TableGraph
