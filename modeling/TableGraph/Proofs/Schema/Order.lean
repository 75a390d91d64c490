import TableGraph.Proofs.Schema.Document
import TableGraph.Proofs.Schema.RequestFields

/-!
The order of a document. Each table has the four definitions at its place, and the root types list the fields
of one table after the other; what a subscription follows is a mutation of the document.
-/

namespace TableGraph

section Segments

variable {α β : Type} {items : List α} {f : α → List β} {width : Nat}

theorem length_flatMap_of_width (hwidth : ∀ item, (f item).length = width) :
    (items.flatMap f).length = width * items.length := by
  induction items with
  | nil => rfl
  | cons item items ih =>
    rw [List.flatMap_cons, List.length_append, List.length_cons, hwidth, ih, Nat.mul_succ, Nat.add_comm]

/-- Where all segments have one width, each is found at a multiple of it. -/
theorem getElem?_flatMap_of_width (hwidth : ∀ item, (f item).length = width) {index place : Nat}
    {item : α} (hitem : items[index]? = some item) (hplace : place < width) :
    (items.flatMap f)[width * index + place]? = (f item)[place]? := by
  induction items generalizing index with
  | nil => cases hitem
  | cons first items ih =>
    rw [List.flatMap_cons]
    cases index with
    | zero =>
      obtain rfl : first = item := by simpa using hitem
      rw [Nat.mul_zero, Nat.zero_add, List.getElem?_append_left]
      rw [hwidth]
      exact hplace
    | succ index =>
      rw [List.getElem?_append_right]
      . rw [hwidth]
        have hshift : width * (index + 1) + place - width = width * index + place := by
          rw [Nat.mul_succ]
          omega
        rw [hshift]
        exact ih (by simpa using hitem)
      . rw [hwidth, Nat.mul_succ]
        omega

end Segments

namespace TableTypes

def mutationOrder (types : TableTypes) : List String :=
  if types.key?.isSome then mutationNames types.table else [createFieldName types.table]

def queryOrder (types : TableTypes) : List String :=
  if types.key?.isSome then queryNames types.table else [listFieldName types.table]

variable (types : TableTypes)

theorem mutations_names : types.mutations.map (·.name) = types.mutationOrder := by
  unfold mutationOrder
  cases hkey : types.key? with
  | none =>
    rw [mutations_of_keyless hkey]
    rfl
  | some key =>
    rw [mutations_of_key hkey]
    rfl

theorem queries_names : types.queries.map (·.name) = types.queryOrder := by
  unfold queryOrder
  cases hkey : types.key? with
  | none =>
    rw [queries_of_keyless hkey]
    rfl
  | some key =>
    rw [queries_of_key hkey]
    rfl

theorem length_definitions : types.definitions.length = 4 := rfl

theorem subscriptions_connection : ∀ field ∈ types.connection.fields, field.subscriptions = [] := by
  simp [connection]

theorem subscriptions_mutations : ∀ field ∈ types.mutations, field.subscriptions = [] := by
  rw [forall_mem_mutations]
  exact ⟨rfl, fun _ _ => ⟨rfl, rfl⟩⟩

theorem subscriptions_queries : ∀ field ∈ types.queries, field.subscriptions = [] := by
  rw [forall_mem_queries]
  exact ⟨rfl, fun _ _ => rfl⟩

theorem type_of_createFieldName {table : String} {field : Field} (hfield : field ∈ types.mutations)
    (hname : field.name = createFieldName table) : field.type = .named table := by
  revert field
  rw [forall_mem_mutations]
  refine ⟨?_, ?_⟩
  . intro hname
    rw [← createFieldName_inj.mp hname]
    rfl
  . intro key _
    refine ⟨?_, ?_⟩
    . intro hname
      exact absurd hname (deleteFieldName_ne_createFieldName types.table table)
    . intro hname
      exact absurd hname.symm (createFieldName_ne_updateFieldName table types.table)

end TableTypes

theorem Table.subscriptions_entity (table : Table) (overrides : Overrides) :
    ∀ field ∈ (table.typesWith overrides).entity.fields, field.subscriptions = [] := by
  unfold typesWith
  simp only [List.forall_mem_append, List.forall_mem_map, implies_true, and_self]

namespace Document

/-- The definitions of a table stand together at its place among the tables. -/
structure Holds (document : Document) (types : TableTypes) (index : Nat) : Prop where
  connection : document[4 * index]? = some (.object types.connection)
  createInput : document[4 * index + 1]? = some (.input types.createInput)
  entity : document[4 * index + 2]? = some (.object types.entity)
  updateInput : document[4 * index + 3]? = some (.input types.updateInput)

def HasRoot (document : Document) (place : Nat) (name : String) (fields : List String) : Prop :=
  ∃ type, document[place]? = some (.object type) ∧ type.name = name ∧ type.fields.map (·.name) = fields

/-- The definitions of all tables in order, then the root types with the fields of all tables in order, and
at last the schema definition. -/
structure IsOrdered (document : Document) (tables : List TableTypes) : Prop where
  length : document.length = 4 * tables.length + 4
  holds : ∀ {index types}, tables[index]? = some types → document.Holds types index
  mutation : document.HasRoot (4 * tables.length) "Mutation" (tables.flatMap (·.mutationOrder))
  query : document.HasRoot (4 * tables.length + 1) "Query" (tables.flatMap (·.queryOrder))
  subscription : document.HasRoot (4 * tables.length + 2) "Subscription"
    (tables.map fun types => onCreateFieldName types.table)
  schema : document[4 * tables.length + 3]? = some (.schema ⟨"Query", "Mutation", "Subscription"⟩)

/-- A list of mutations is that of one mutation, which the document has, and which returns what the field
does. -/
def FollowsOne (document : Document) (field : Field) (mutations : List String) : Prop :=
  ∃ name root, mutations = [name] ∧ document.objectType? "Mutation" = some root ∧
    (∃ mutation ∈ root.fields, mutation.name = name) ∧
    ∀ mutation ∈ root.fields, mutation.name = name → mutation.type = field.type

variable (tables : List TableTypes)

theorem length_ofTables : (ofTables tables).length = 4 * tables.length + 4 := by
  unfold ofTables
  rw [List.length_append, length_flatMap_of_width TableTypes.length_definitions]
  rfl

theorem getElem?_ofTables_root (place : Nat) :
    (ofTables tables)[4 * tables.length + place]? = (roots tables)[place]? := by
  have hlength : (tables.flatMap (·.definitions)).length = 4 * tables.length :=
    length_flatMap_of_width TableTypes.length_definitions
  unfold ofTables
  rw [← hlength, List.getElem?_append_right (Nat.le_add_right _ _), Nat.add_sub_cancel_left]

variable {tables}

theorem getElem?_ofTables_of_lt {index : Nat} {types : TableTypes} (htypes : tables[index]? = some types)
    {place : Nat} (hplace : place < 4) :
    (ofTables tables)[4 * index + place]? = types.definitions[place]? := by
  have hindex : index < tables.length := (List.getElem?_eq_some_iff.mp htypes).choose
  unfold ofTables
  rw [List.getElem?_append_left, getElem?_flatMap_of_width TableTypes.length_definitions htypes hplace]
  rw [length_flatMap_of_width TableTypes.length_definitions]
  omega

theorem holds_ofTables {index : Nat} {types : TableTypes} (htypes : tables[index]? = some types) :
    (ofTables tables).Holds types index where
  connection := getElem?_ofTables_of_lt htypes (Nat.zero_lt_succ 3)
  createInput := getElem?_ofTables_of_lt htypes (by decide)
  entity := getElem?_ofTables_of_lt htypes (by decide)
  updateInput := getElem?_ofTables_of_lt htypes (by decide)

variable (tables)

theorem isOrdered_ofTables : (ofTables tables).IsOrdered tables where
  length := length_ofTables tables
  holds htypes := holds_ofTables htypes
  mutation := by
    refine ⟨_, getElem?_ofTables_root tables 0, rfl, ?_⟩
    rw [List.map_flatMap]
    simp only [TableTypes.mutations_names]
  query := by
    refine ⟨_, getElem?_ofTables_root tables 1, rfl, ?_⟩
    rw [List.map_flatMap]
    simp only [TableTypes.queries_names]
  subscription := by
    refine ⟨_, getElem?_ofTables_root tables 2, rfl, ?_⟩
    rw [List.map_map]
    rfl
  schema := getElem?_ofTables_root tables 3

theorem mem_ofTables_object {tables : List TableTypes} {type : ObjectType} :
    Definition.object type ∈ ofTables tables
      ↔
    (∃ types ∈ tables, type = types.connection ∨ type = types.entity) ∨
      type = ⟨"Mutation", tables.flatMap (·.mutations)⟩ ∨
      type = ⟨"Query", tables.flatMap (·.queries)⟩ ∨
      type = ⟨"Subscription", tables.map (·.subscription)⟩ := by
  unfold ofTables roots TableTypes.definitions
  simp

variable {tables}

theorem followsOne_subscription {types : TableTypes} (htypes : types ∈ tables) :
    (ofTables tables).FollowsOne types.subscription [createFieldName types.table] := by
  refine ⟨_, _, rfl, objectType?_mutation tables, ⟨types.createField, ?_, rfl⟩, ?_⟩
  . rw [List.mem_flatMap]
    exact ⟨types, htypes, (TableTypes.forall_mem_mutations.mp fun _ hmem => hmem).left⟩
  . intro mutation hmutation hname
    obtain ⟨other, -, hmem⟩ := List.mem_flatMap.mp hmutation
    exact other.type_of_createFieldName hmem hname

theorem followsOne_ofTables
    (hentities : ∀ types ∈ tables, ∀ field ∈ types.entity.fields, field.subscriptions = [])
    {type : ObjectType} (htype : .object type ∈ ofTables tables) {field : Field}
    (hfield : field ∈ type.fields) {mutations : List String} (hmutations : mutations ∈ field.subscriptions) :
    (ofTables tables).FollowsOne field mutations := by
  have hsome : field.subscriptions ≠ [] := List.ne_nil_of_mem hmutations
  rcases mem_ofTables_object.mp htype with ⟨types, htypes, rfl | rfl⟩ | rfl | rfl | rfl
  . exact absurd (types.subscriptions_connection field hfield) hsome
  . exact absurd (hentities types htypes field hfield) hsome
  . obtain ⟨types, -, hmem⟩ := List.mem_flatMap.mp hfield
    exact absurd (types.subscriptions_mutations field hmem) hsome
  . obtain ⟨types, -, hmem⟩ := List.mem_flatMap.mp hfield
    exact absurd (types.subscriptions_queries field hmem) hsome
  . obtain ⟨types, htypes, rfl⟩ := List.mem_map.mp hfield
    rw [List.mem_singleton.mp hmutations]
    exact followsOne_subscription htypes

end Document
end TableGraph
