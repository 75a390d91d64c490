import Mathlib.Data.List.Perm.Basic
import Mathlib.Data.Prod.Basic
import TableGraph.Proofs.Schema.Document
import TableGraph.Proofs.Schema.RootFields

/-!
The types of a document by name, and the fields in them that requests are made to.
-/

namespace TableGraph

def TableTypes.requestFields (types : TableTypes) : List (String × Field) :=
  types.queries.map ("Query", ·) ++ types.mutations.map ("Mutation", ·)

namespace Document

/-- The object type of a name that is defined last; the root types come after all others. -/
def objectType? (document : Document) (name : String) : Option ObjectType :=
  document.reverse.findSome? fun
    | .object type => if type.name == name then some type else none
    | _ => none

def inputType? (document : Document) (name : String) : Option InputType :=
  document.reverse.findSome? fun
    | .input type => if type.name == name then some type else none
    | _ => none

def fieldsIn (document : Document) (root : String) : List (String × Field) :=
  ((document.objectType? root).map (·.fields)).getD [] |>.map (root, ·)

def requestFields (document : Document) : List (String × Field) :=
  document.fieldsIn "Query" ++ document.fieldsIn "Mutation"

theorem inputType?_of_unique {document : Document} {input : InputType}
    (hmem : Definition.input input ∈ document)
    (hunique : ∀ other, Definition.input other ∈ document → other.name = input.name → other = input) :
    document.inputType? input.name = some input := by
  unfold inputType?
  cases hsearch : document.reverse.findSome? _ with
  | none =>
    rw [List.findSome?_eq_none_iff] at hsearch
    have hnone := hsearch (.input input) (List.mem_reverse.mpr hmem)
    simp at hnone
  | some other =>
    obtain ⟨definition, hdefinition, hfound⟩ := List.exists_of_findSome?_eq_some hsearch
    rw [List.mem_reverse] at hdefinition
    cases definition with
    | object type => cases hfound
    | schema roots => cases hfound
    | input type =>
      obtain ⟨hname, hother⟩ := Option.ite_none_right_eq_some.mp hfound
      rw [← hother, hunique type hdefinition (eq_of_beq hname)]

variable (tables : List TableTypes)

theorem mem_ofTables_input {tables : List TableTypes} {input : InputType} :
    Definition.input input ∈ ofTables tables
      ↔
    ∃ types ∈ tables, input = types.createInput ∨ input = types.updateInput := by
  unfold ofTables roots TableTypes.definitions
  simp

theorem fieldsIn_query :
    (ofTables tables).fieldsIn "Query" = (tables.flatMap (·.queries)).map ("Query", ·) := by
  unfold fieldsIn objectType? ofTables roots
  rw [List.reverse_append]
  rfl

theorem objectType?_mutation :
    (ofTables tables).objectType? "Mutation" = some ⟨"Mutation", tables.flatMap (·.mutations)⟩ := by
  unfold objectType? ofTables roots
  rw [List.reverse_append]
  rfl

theorem fieldsIn_mutation :
    (ofTables tables).fieldsIn "Mutation" = (tables.flatMap (·.mutations)).map ("Mutation", ·) := by
  unfold fieldsIn
  rw [objectType?_mutation]
  rfl

theorem requestFields_ofTables :
    (ofTables tables).requestFields
      =
    (tables.flatMap (·.queries)).map ("Query", ·) ++ (tables.flatMap (·.mutations)).map ("Mutation", ·) := by
  unfold requestFields
  rw [fieldsIn_query, fieldsIn_mutation]

theorem perm_requestFields :
    (tables.flatMap (·.requestFields)).Perm (ofTables tables).requestFields := by
  rw [requestFields_ofTables, List.map_flatMap, List.map_flatMap]
  exact (List.flatMap_append_perm tables _ _).symm

variable {tables : List TableTypes}

theorem requestFields_subset {types : TableTypes} (htypes : types ∈ tables) :
    types.requestFields ⊆ (ofTables tables).requestFields := by
  intro entry hentry
  apply (perm_requestFields tables).subset
  exact List.mem_flatMap.mpr ⟨types, htypes, hentry⟩

theorem nodup_requestFields (htables : (tables.map (·.table)).Nodup) :
    ((ofTables tables).requestFields.map fun entry => (entry.1, entry.2.name)).Nodup := by
  have htagged : ∀ (root : String) (fields : List Field), (fields.map (·.name)).Nodup →
      ((fields.map (root, ·)).map fun entry => (entry.1, entry.2.name)).Nodup := by
    intro root fields hfields
    rw [List.map_map]
    have hpairs := hfields.map (Prod.mk_right_injective root)
    rwa [List.map_map] at hpairs
  rw [requestFields_ofTables, List.map_append, List.nodup_append]
  refine ⟨htagged _ _ ?_, htagged _ _ ?_, ?_⟩
  . rw [List.map_flatMap]
    exact TableTypes.nodup_queries htables
  . rw [List.map_flatMap]
    exact TableTypes.nodup_mutations htables
  . intro first hfirst second hsecond
    -- whatever their names are, the root types tell them apart
    simp only [List.map_map, List.mem_map, Function.comp_apply] at hfirst hsecond
    obtain ⟨_, -, rfl⟩ := hfirst
    obtain ⟨_, -, rfl⟩ := hsecond
    simp

section Inputs

variable {tables : List Table} {overrides : Overrides} (hdistinct : (tables.map (·.name)).Nodup)
variable {table : Table} (htable : table ∈ tables)

include hdistinct htable

theorem inputType?_createInput :
    (ofTables (tables.map (·.typesWith overrides))).inputType? (createInputName table.name)
      =
    some (table.typesWith overrides).createInput := by
  have hmem : .input (table.typesWith overrides).createInput
      ∈ ofTables (tables.map (·.typesWith overrides)) :=
    mem_ofTables_input.mpr ⟨_, List.mem_map_of_mem htable, .inl rfl⟩
  apply inputType?_of_unique hmem
  intro other hother hname
  obtain ⟨types, htypes, hother⟩ := mem_ofTables_input.mp hother
  obtain ⟨table', htable', rfl⟩ := List.mem_map.mp htypes
  rcases hother with rfl | rfl
  . have heq : table' = table :=
      List.inj_on_of_nodup_map hdistinct htable' htable (createInputName_inj.mp hname)
    rw [heq]
  . exact absurd hname.symm (createInputName_ne_updateInputName _ _)

theorem inputType?_updateInput :
    (ofTables (tables.map (·.typesWith overrides))).inputType? (updateInputName table.name)
      =
    some (table.typesWith overrides).updateInput := by
  have hmem : .input (table.typesWith overrides).updateInput
      ∈ ofTables (tables.map (·.typesWith overrides)) :=
    mem_ofTables_input.mpr ⟨_, List.mem_map_of_mem htable, .inr rfl⟩
  apply inputType?_of_unique hmem
  intro other hother hname
  obtain ⟨types, htypes, hother⟩ := mem_ofTables_input.mp hother
  obtain ⟨table', htable', rfl⟩ := List.mem_map.mp htypes
  rcases hother with rfl | rfl
  . exact absurd hname (createInputName_ne_updateInputName _ _)
  . have heq : table' = table :=
      List.inj_on_of_nodup_map hdistinct htable' htable (updateInputName_inj.mp hname)
    rw [heq]

end Inputs

end Document
end TableGraph
