import TableGraph.Resolver

/-!
The operations of a table: all of them with a key, or else those that need none.
-/

namespace TableGraph
namespace TableTypes

variable {types : TableTypes}

theorem mem_resolvers_iff {operation : Operation} {resolver : Resolver} :
    (operation, resolver) ∈ types.resolvers ↔ types.resolver operation = .ok resolver := by
  have hall : operation ∈ Operation.all := by
    cases operation with
    | _ => decide
  unfold resolvers
  rw [List.mem_filterMap]
  constructor
  . rintro ⟨other, -, hother⟩
    split at hother
    . next hmade =>
      cases hother
      exact hmade
    . cases hother
  . intro hmade
    refine ⟨operation, hall, ?_⟩
    rw [hmade]

theorem resolvers_of_keyless (hkey : types.key? = none) :
    types.resolvers
      =
    [(.list, .list types.table), (.create, .create types.table types.columnNames none)] := by
  unfold resolvers Operation.all resolver keyColumn?
  rw [hkey]
  rfl

theorem resolvers_of_key {key : Key} (hkey : types.key? = some key) :
    types.resolvers
      =
    [(.get, .get types.table key.column), (.list, .list types.table),
     (.create, .create types.table types.columnNames (some key.column)),
     (.update, .update types.table types.columnNames key.column),
     (.delete, .delete types.table key.column)] := by
  unfold resolvers Operation.all resolver keyColumn?
  rw [hkey]
  rfl

variable {resolver : Resolver}

theorem mem_resolvers_get :
    (.get, resolver) ∈ types.resolvers
      ↔
    ∃ key, types.key? = some key ∧ resolver = .get types.table key.column := by
  cases hkey : types.key? with
  | none => simp [resolvers_of_keyless hkey]
  | some key => simp [resolvers_of_key hkey]

theorem mem_resolvers_list : (.list, resolver) ∈ types.resolvers ↔ resolver = .list types.table := by
  cases hkey : types.key? with
  | none => simp [resolvers_of_keyless hkey]
  | some key => simp [resolvers_of_key hkey]

theorem mem_resolvers_create :
    (.create, resolver) ∈ types.resolvers
      ↔
    resolver = .create types.table types.columnNames types.keyColumn? := by
  unfold keyColumn?
  cases hkey : types.key? with
  | none => simp [resolvers_of_keyless hkey]
  | some key => simp [resolvers_of_key hkey]

theorem mem_resolvers_update :
    (.update, resolver) ∈ types.resolvers
      ↔
    ∃ key, types.key? = some key ∧ resolver = .update types.table types.columnNames key.column := by
  cases hkey : types.key? with
  | none => simp [resolvers_of_keyless hkey]
  | some key => simp [resolvers_of_key hkey]

theorem mem_resolvers_delete :
    (.delete, resolver) ∈ types.resolvers
      ↔
    ∃ key, types.key? = some key ∧ resolver = .delete types.table key.column := by
  cases hkey : types.key? with
  | none => simp [resolvers_of_keyless hkey]
  | some key => simp [resolvers_of_key hkey]

end TableTypes
end TableGraph
