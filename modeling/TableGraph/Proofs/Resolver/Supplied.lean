import TableGraph.Proofs.Resolver.Binding

/-!
Creations and updates touch the columns that their input supplies and no others, in the order of declaration.
-/

namespace TableGraph
namespace Table

open Resolver

def supplied (table : Table) (input : List (String × Json)) : List String :=
  (table.columns.map (·.name)).filter (· ∈ input.map (·.1))

def changed (table : Table) (key : String) (input : List (String × Json)) : List String :=
  (table.supplied input).filter (· != key)

variable {table : Table} {input : List (String × Json)}

theorem mem_supplied_iff {name : String} :
    name ∈ table.supplied input ↔ name ∈ table.columns.map (·.name) ∧ name ∈ input.map (·.1) := by
  unfold supplied
  rw [List.mem_filter, decide_eq_true_iff]

theorem mem_changed_iff {key name : String} :
    name ∈ table.changed key input ↔ name ∈ table.supplied input ∧ name ≠ key := by
  unfold changed
  rw [List.mem_filter, bne_iff_ne]

theorem changed_eq_nil_iff {key : String} :
    table.changed key input = []
      ↔
    ∀ column ∈ table.columns, column.name ∈ input.map (·.1) → column.name = key := by
  rw [List.eq_nil_iff_forall_not_mem]
  constructor
  . intro hnone column hcolumn hgiven
    by_contra hne
    exact hnone column.name
      (mem_changed_iff.mpr ⟨mem_supplied_iff.mpr ⟨List.mem_map_of_mem hcolumn, hgiven⟩, hne⟩)
  . intro honly name hname
    obtain ⟨hsupplied, hne⟩ := mem_changed_iff.mp hname
    obtain ⟨hdeclared, hgiven⟩ := mem_supplied_iff.mp hsupplied
    obtain ⟨column, hcolumn, rfl⟩ := List.mem_map.mp hdeclared
    exact hne (honly column hcolumn hgiven)

theorem given_columns : given (table.columns.map (·.name)) input = table.supplied input := by
  apply List.filter_congr
  intro column _
  rw [Bool.eq_iff_iff]
  simp

theorem given_others (key : String) :
    given ((table.columns.map (·.name)).filter (· != key)) input = table.changed key input := by
  unfold changed
  rw [← given_columns]
  unfold given
  apply List.filter_comm

theorem isName_supplied (hnamed : table.IsNamed) : ∀ name ∈ table.supplied input, IsName name := by
  intro name hname
  obtain ⟨column, hcolumn, rfl⟩ := List.mem_map.mp (mem_supplied_iff.mp hname).left
  exact hnamed.columns column hcolumn

section Requests

variable (hnamed : table.IsNamed) {overrides : Overrides}

include hnamed

theorem run_create_supplied :
    (create table.name (table.typesWith overrides).columnNames
      (table.typesWith overrides).keyColumn?).request.run [(createArgumentName table.name, .record input)]
      =
    .ok [written
      (("INSERT INTO \x60" ++ table.name ++ "\x60 (" ++
          ", ".intercalate ((table.supplied input).map fun column => "\x60" ++ column ++ "\x60") ++
          ") VALUES (" ++ ", ".intercalate ((table.supplied input).map fun column => ":" ++ column) ++ ")") ::
        ((table.typesWith overrides).keyColumn?.map (Sql.selectByKey table.name)).toList)
      (bindings input (table.supplied input))] := by
  rw [run_create hnamed.name (isName_columnNames hnamed) (isName_keyColumn? hnamed), columnNames_typesWith,
    given_columns,
    Sql.insertion_eq hnamed.name (isName_supplied hnamed)]

theorem run_update_supplied {key : Key} (hkey : table.key? overrides = some key)
    (hgiven : key.column ∈ input.map (·.1)) :
    (update table.name (table.typesWith overrides).columnNames key.column).request.run
      [(updateArgumentName table.name, .record input)]
      =
    if table.changed key.column input = [] then
      .error (.refused (nothingToUpdate table.name))
    else
      .ok [written
        ["UPDATE \x60" ++ table.name ++ "\x60 SET " ++
          ", ".intercalate ((table.changed key.column input).map fun column =>
            "\x60" ++ column ++ "\x60 = :" ++ column) ++
          " WHERE \x60" ++ key.column ++ "\x60 = :" ++ key.column,
         Sql.selectByKey table.name key.column]
        (bindings input (table.changed key.column input ++ [key.column]))] := by
  have hothers : ∀ name ∈ table.changed key.column input, IsName name :=
    fun name hname => isName_supplied hnamed name (mem_changed_iff.mp hname).left
  obtain ⟨value, hvalue, -⟩ := Json.exists_member? hgiven
  rw [run_update hnamed.name (hnamed.key hkey) (isName_columnNames hnamed) hvalue, columnNames_typesWith,
    given_others, Sql.change_eq hnamed.name (hnamed.key hkey) hothers]
  simp only [List.isEmpty_iff]

/--
The requests of a table whose names are GraphQL names. A creation inserts just the supplied columns, in the
order of declaration, and reads the row back if there is a key. An update that gives the key sets just the
supplied columns but the key, again in the order of declaration; it is refused exactly if there are none.
-/
theorem run_supplied {options : TableOptions} {types : TableTypes}
    (htypes : table.types options = .ok types) (input : List (String × Json)) :
    (∃ resolver, types.resolver .create = .ok resolver ∧
      resolver.request.run [(createArgumentName table.name, .record input)] = .ok [written
        (("INSERT INTO \x60" ++ table.name ++ "\x60 (" ++
            ", ".intercalate ((table.supplied input).map fun column => "\x60" ++ column ++ "\x60") ++
            ") VALUES (" ++ ", ".intercalate ((table.supplied input).map fun column => ":" ++ column) ++ ")") ::
          (types.keyColumn?.map (Sql.selectByKey table.name)).toList)
        (bindings input (table.supplied input))]) ∧
    ∀ key, types.key? = some key → key.column ∈ input.map (·.1) →
      ∃ resolver outcome, types.resolver .update = .ok resolver ∧
        resolver.request.run [(updateArgumentName table.name, .record input)] = outcome ∧
        (outcome = .error (.refused (nothingToUpdate table.name))
          ↔ ∀ column ∈ table.columns, column.name ∈ input.map (·.1) → column.name = key.column) ∧
        ((∃ column ∈ table.columns, column.name ∈ input.map (·.1) ∧ column.name ≠ key.column) →
          outcome = .ok [written
            ["UPDATE \x60" ++ table.name ++ "\x60 SET " ++
              ", ".intercalate ((table.changed key.column input).map fun column =>
                "\x60" ++ column ++ "\x60 = :" ++ column) ++
              " WHERE \x60" ++ key.column ++ "\x60 = :" ++ key.column,
             Sql.selectByKey table.name key.column]
            (bindings input (table.changed key.column input ++ [key.column]))]) ∧
        key.column ∉ table.changed key.column input := by
  obtain ⟨-, rfl⟩ := types_eq_ok_iff.mp htypes
  refine ⟨⟨_, rfl, run_create_supplied hnamed⟩, ?_⟩
  intro key hkey hgiven
  have hkeyColumn : (table.typesWith options.overrides.byBaseName).keyColumn? = some key.column :=
    congrArg (Option.map Key.column) hkey
  have hresolver : (table.typesWith options.overrides.byBaseName).resolver .update
      = .ok (.update table.name (table.typesWith options.overrides.byBaseName).columnNames key.column) := by
    unfold TableTypes.resolver
    rw [hkeyColumn]
    rfl
  refine ⟨_, _, hresolver, run_update_supplied hnamed hkey hgiven, ?_, ?_, ?_⟩
  . rw [← changed_eq_nil_iff]
    split
    . next hnone => simp [hnone]
    . next hsome => simp [hsome]
  . rintro ⟨column, hcolumn, hmem, hne⟩
    rw [if_neg]
    intro hnone
    exact hne (changed_eq_nil_iff.mp hnone column hcolumn hmem)
  . intro hmem
    exact (mem_changed_iff.mp hmem).right rfl

end Requests

theorem run_supplied_author :
    ∃ resolver,
      (sampleTables[0].typesWith []).resolver .update = .ok resolver ∧
      resolver.request.run [("updateauthorInput", .record [("name", .text "Ada"), ("id", .int 1)])]
        = .ok [written
          ["UPDATE \x60author\x60 SET \x60name\x60 = :name WHERE \x60id\x60 = :id",
           Sql.selectByKey "author" "id"]
          [(":name", .text "Ada"), (":id", .int 1)]] := by
  have htypes : sampleTables[0].types ⟨false, []⟩ = .ok (sampleTables[0].typesWith []) :=
    types_eq_ok_iff.mpr ⟨by decide, rfl⟩
  obtain ⟨-, hupdate⟩ := run_supplied (by decide) htypes [("name", .text "Ada"), ("id", .int 1)]
  obtain ⟨resolver, outcome, hresolver, hrun, -, hsome, -⟩ := hupdate ⟨"id", "Int"⟩ rfl (by decide)
  refine ⟨resolver, hresolver, ?_⟩
  apply hrun.trans
  exact hsome ⟨_, List.mem_cons_of_mem _ List.mem_cons_self, by decide, by decide⟩

end Table
end TableGraph
