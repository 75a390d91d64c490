import Mathlib.Data.List.Induction
import TableGraph.Proofs.Placeholders
import TableGraph.Proofs.Resolver.Operations
import TableGraph.Proofs.Resolver.Requests
import TableGraph.Proofs.TableTypes

/-!
Every placeholder of a request is bound, and to the value that was given for the column of its name.
-/

namespace TableGraph

namespace Json

variable {members : List (String × Json)} {name : String} {value : Json}

theorem mem_names_put_iff {key : String} :
    key ∈ (put members name value).map (·.1) ↔ key = name ∨ key ∈ members.map (·.1) := by
  induction members with
  | nil => simp [put]
  | cons member rest ih =>
    obtain ⟨other, old⟩ := member
    unfold put
    split
    . next heq =>
      obtain rfl : other = name := eq_of_beq heq
      simp
    . rw [List.map_cons, List.mem_cons, ih, List.map_cons, List.mem_cons]
      exact or_left_comm

theorem nodup_names_put (hmembers : (members.map (·.1)).Nodup) :
    ((put members name value).map (·.1)).Nodup := by
  induction members with
  | nil => simp [put]
  | cons member rest ih =>
    obtain ⟨other, old⟩ := member
    rw [List.map_cons, List.nodup_cons] at hmembers
    unfold put
    split
    . next heq =>
      obtain rfl : other = name := eq_of_beq heq
      rw [List.map_cons, List.nodup_cons]
      exact hmembers
    . next hne =>
      rw [List.map_cons, List.nodup_cons, mem_names_put_iff, not_or]
      refine ⟨⟨?_, hmembers.left⟩, ih hmembers.right⟩
      simpa using hne

theorem mem_put {entry : String × Json} (hentry : entry ∈ put members name value) :
    entry = (name, value) ∨ entry ∈ members := by
  induction members with
  | nil => exact .inl (List.mem_singleton.mp hentry)
  | cons member rest ih =>
    unfold put at hentry
    split at hentry
    . rcases List.mem_cons.mp hentry with heq | hrest
      . exact .inl heq
      . exact .inr (List.mem_cons_of_mem _ hrest)
    . rcases List.mem_cons.mp hentry with heq | hrest
      . exact .inr (heq ▸ List.mem_cons_self)
      . rcases ih hrest with heq | hmem
        . exact .inl heq
        . exact .inr (List.mem_cons_of_mem _ hmem)

theorem exists_member? (hname : name ∈ members.map (·.1)) :
    ∃ value, (record members).member? name = some value ∧ (name, value) ∈ members := by
  obtain ⟨given, hgiven, heq⟩ := List.mem_map.mp hname
  cases hfind : members.reverse.find? (·.1 == name) with
  | none =>
    rw [List.find?_eq_none] at hfind
    exact absurd (beq_iff_eq.mpr heq) (hfind given (List.mem_reverse.mpr hgiven))
  | some entry =>
    have hentry : entry.1 = name := by simpa using List.find?_some hfind
    refine ⟨entry.2, ?_, ?_⟩
    . rw [member?, hfind, Option.map_some]
    . rw [← hentry]
      exact List.mem_reverse.mp (List.mem_of_find?_eq_some hfind)

end Json

namespace Resolver

variable {values : List (String × Json)} {columns : List String}

theorem mem_names_bindings {key : String} :
    key ∈ (bindings values columns).map (·.1) ↔ ∃ column ∈ columns, key = Sql.placeholder column := by
  induction columns using List.reverseRecOn with
  | nil => simp [bindings]
  | append_singleton columns column ih =>
    rw [bindings_concat, Json.mem_names_put_iff, ih]
    simp [or_comm, or_and_right, exists_or]

theorem nodup_names_bindings (values : List (String × Json)) (columns : List String) :
    ((bindings values columns).map (·.1)).Nodup := by
  induction columns using List.reverseRecOn with
  | nil => exact List.nodup_nil
  | append_singleton columns column ih =>
    rw [bindings_concat]
    exact Json.nodup_names_put ih

theorem mem_bindings {entry : String × Json} (hentry : entry ∈ bindings values columns) :
    ∃ column ∈ columns, entry = (Sql.placeholder column, inputValue values column) := by
  induction columns using List.reverseRecOn with
  | nil => cases hentry
  | append_singleton columns column ih =>
    rw [bindings_concat] at hentry
    rcases Json.mem_put hentry with heq | hmem
    . exact ⟨column, List.mem_append_right _ (List.mem_singleton_self column), heq⟩
    . obtain ⟨other, hother, heq⟩ := ih hmem
      exact ⟨other, List.mem_append_left _ hother, heq⟩

/-- Bound values that fit statements: one for each placeholder, out of the given values. -/
structure Bound (statements : List String) (bound values : List (String × Json)) : Prop where
  distinct : (bound.map (·.1)).Nodup
  names : ∀ key, key ∈ bound.map (·.1)
    ↔ ∃ statement ∈ statements, ∃ name ∈ Sql.placeholders statement, key = Sql.placeholder name
  values : ∀ entry ∈ bound, ∃ name value, entry = (Sql.placeholder name, value) ∧ (name, value) ∈ values

theorem bound_bindings {statements : List String}
    (hplaceholders : ∀ name, name ∈ columns ↔ ∃ statement ∈ statements, name ∈ Sql.placeholders statement)
    (hcolumns : ∀ column ∈ columns, column ∈ values.map (·.1)) :
    Bound statements (bindings values columns) values where
  distinct := nodup_names_bindings values columns
  names := by
    intro key
    rw [mem_names_bindings]
    constructor
    . rintro ⟨column, hcolumn, rfl⟩
      obtain ⟨statement, hstatement, hmem⟩ := (hplaceholders column).mp hcolumn
      exact ⟨statement, hstatement, column, hmem, rfl⟩
    . rintro ⟨statement, hstatement, column, hmem, rfl⟩
      exact ⟨column, (hplaceholders column).mpr ⟨statement, hstatement, hmem⟩, rfl⟩
  values := by
    intro entry hentry
    obtain ⟨column, hcolumn, rfl⟩ := mem_bindings hentry
    obtain ⟨value, hmember, hmem⟩ := Json.exists_member? (hcolumns column hcolumn)
    refine ⟨column, value, ?_, hmem⟩
    rw [inputValue, hmember]
    rfl

end Resolver

def TypeRef.isNonNull : TypeRef → Bool
  | .nonNull _ => true
  | _ => false

structure InputType.Admits (type : InputType) (input : List (String × Json)) : Prop where
  distinct : (input.map (·.1)).Nodup
  declared : ∀ name ∈ input.map (·.1), name ∈ type.fields.map (·.name)
  required : ∀ field ∈ type.fields, field.type.isNonNull = true → field.name ∈ input.map (·.1)

/-- The arguments that the schema of a table allows for an operation, and the values in them by column. -/
inductive TableTypes.Admits (types : TableTypes) :
    Operation → List (String × Json) → List (String × Json) → Prop where
  | get (key : Key) (value : Json) :
    types.key? = some key → Admits types .get [(key.column, value)] [(key.column, value)]
  | list (args : List (String × Json)) : Admits types .list args []
  | create (input : List (String × Json)) :
    types.createInput.Admits input →
      Admits types .create [(createArgumentName types.table, .record input)] input
  | update (input : List (String × Json)) :
    types.updateInput.Admits input →
      Admits types .update [(updateArgumentName types.table, .record input)] input
  | delete (key : Key) (value : Json) :
    types.key? = some key → Admits types .delete [(key.column, value)] [(key.column, value)]

namespace Table

open Resolver

variable {table : Table} {overrides : Overrides}

theorem key_mem_columnNames {key : Key} (hkey : table.key? overrides = some key) :
    key.column ∈ (table.typesWith overrides).columnNames := by
  rw [columnNames_typesWith]
  exact of_key? (fun column hcolumn => List.mem_map_of_mem hcolumn) hkey

theorem key_mem_of_admits_create {key : Key} (hkey : table.key? overrides = some key)
    {input : List (String × Json)} (hinput : (table.typesWith overrides).createInput.Admits input) :
    key.column ∈ input.map (·.1) := by
  obtain ⟨column, hcolumn, hprimary, hname⟩ := exists_primary_of_key? hkey
  rw [← hname]
  apply hinput.required ⟨column.name, fieldType overrides column⟩
  . exact List.mem_map_of_mem hcolumn
  . simp [fieldType, hprimary, TypeRef.isNonNull]

theorem key_mem_of_admits_update {key : Key} (hkey : table.key? overrides = some key)
    {input : List (String × Json)} (hinput : (table.typesWith overrides).updateInput.Admits input) :
    key.column ∈ input.map (·.1) := by
  obtain ⟨column, hcolumn, hprimary, hname⟩ := exists_primary_of_key? hkey
  rw [← hname]
  apply hinput.required ⟨column.name, updateType overrides column⟩
  . exact List.mem_map_of_mem hcolumn
  . simp [updateType, hprimary, TypeRef.isNonNull]

theorem given_congr {columns : List String} {input input' : List (String × Json)}
    (hsame : ∀ name, name ∈ input'.map (·.1) ↔ name ∈ input.map (·.1)) :
    given columns input' = given columns input := by
  have hany : ∀ (input : List (String × Json)) (column : String),
      input.any (·.1 == column) = decide (column ∈ input.map (·.1)) := by
    intro input column
    rw [Bool.eq_iff_iff]
    simp
  unfold given
  apply List.filter_congr
  intro column _
  rw [hany, hany]
  simp only [hsame]

theorem mem_given_iff {columns : List String} {input : List (String × Json)} {column : String} :
    column ∈ given columns input ↔ column ∈ columns ∧ column ∈ input.map (·.1) := by
  unfold given
  rw [List.mem_filter]
  simp

theorem eq_key_of_given_eq_nil {key : String} {input : List (String × Json)}
    (hinput : (table.typesWith overrides).updateInput.Admits input)
    (hnone : given ((table.typesWith overrides).columnNames.filter (· != key)) input = []) :
    ∀ name ∈ input.map (·.1), name = key := by
  intro name hmem
  by_contra hne
  have hdeclared := hinput.declared name hmem
  rw [updateInput_fieldNames, ← columnNames_typesWith] at hdeclared
  have hother : name ∈ given ((table.typesWith overrides).columnNames.filter (· != key)) input := by
    rw [mem_given_iff, List.mem_filter]
    exact ⟨⟨hdeclared, bne_iff_ne.mpr hne⟩, hmem⟩
  rw [hnone] at hother
  cases hother

end Table

namespace TableTypes

open Resolver

def Runs (types : TableTypes) (operation : Operation) (resolver : Resolver)
    (args values : List (String × Json)) : Prop :=
  ∃ statements bound, resolver.request.run args = .ok [written statements bound] ∧
    Bound statements bound values ∧
    ∀ args' values', types.Admits operation args' values' →
      (∀ name, name ∈ values'.map (·.1) ↔ name ∈ values.map (·.1)) →
        ∃ bound', resolver.request.run args' = .ok [written statements bound']

end TableTypes

namespace Table

open Resolver

variable {table : Table} (hnamed : table.IsNamed) {overrides : Overrides}

include hnamed

theorem isName_columnNames : ∀ column ∈ (table.typesWith overrides).columnNames, IsName column := by
  rw [columnNames_typesWith, List.forall_mem_map]
  exact hnamed.columns

theorem isName_keyColumn? : ∀ name ∈ (table.typesWith overrides).keyColumn?, IsName name := by
  intro name hname
  obtain ⟨key, hkey, rfl⟩ := Option.map_eq_some_iff.mp hname
  exact hnamed.key hkey

theorem runs_list (args : List (String × Json)) :
    (table.typesWith overrides).Runs .list (.list table.name) args [] := by
  refine ⟨_, _, run_list hnamed.name args, ?_, ?_⟩
  . have hnone : ∀ name, name ∈ ([] : List String)
        ↔ ∃ statement ∈ [Sql.selectAll table.name], name ∈ Sql.placeholders statement := by
      simp [Sql.placeholders_selectAll hnamed.name]
    exact bound_bindings hnone (by simp)
  . intro args' values' hargs' _
    exact ⟨_, run_list hnamed.name args'⟩

theorem runs_get {key : Key} (hkey : table.key? overrides = some key) (value : Json) :
    (table.typesWith overrides).Runs .get (.get table.name key.column) [(key.column, value)]
      [(key.column, value)] := by
  have hname := hnamed.key hkey
  have hmember : ∀ value, (Json.record [(key.column, value)]).member? key.column = some value := by
    simp [Json.member?]
  refine ⟨_, _, run_get hnamed.name hname (hmember value), ?_, ?_⟩
  . apply bound_bindings
    . simp [Sql.placeholders_selectByKey hnamed.name hname]
    . simp
  . intro args' values' hargs' _
    cases hargs' with
    | get key' value' hkey' =>
      rw [typesWith_key?, hkey] at hkey'
      cases hkey'
      exact ⟨_, run_get hnamed.name hname (hmember value')⟩

theorem runs_delete {key : Key} (hkey : table.key? overrides = some key) (value : Json) :
    (table.typesWith overrides).Runs .delete (.delete table.name key.column) [(key.column, value)]
      [(key.column, value)] := by
  have hname := hnamed.key hkey
  have hmember : ∀ value, (Json.record [(key.column, value)]).member? key.column = some value := by
    simp [Json.member?]
  refine ⟨_, _, run_delete hnamed.name hname (hmember value), ?_, ?_⟩
  . apply bound_bindings
    . simp [Sql.placeholders_selectByKey hnamed.name hname, Sql.placeholders_deleteByKey hnamed.name hname]
    . simp
  . intro args' values' hargs' _
    cases hargs' with
    | delete key' value' hkey' =>
      rw [typesWith_key?, hkey] at hkey'
      cases hkey'
      exact ⟨_, run_delete hnamed.name hname (hmember value')⟩

theorem bound_create {input : List (String × Json)}
    (hinput : (table.typesWith overrides).createInput.Admits input) :
    Bound
      (Sql.insertion table.name (given (table.typesWith overrides).columnNames input) ::
        ((table.typesWith overrides).keyColumn?.map (Sql.selectByKey table.name)).toList)
      (bindings input (given (table.typesWith overrides).columnNames input)) input := by
  have hgiven : ∀ column ∈ given (table.typesWith overrides).columnNames input, IsName column :=
    fun column hcolumn => isName_columnNames hnamed column (mem_given_iff.mp hcolumn).left
  have hinsertion := Sql.placeholders_insertion hnamed.name hgiven
  apply bound_bindings
  . intro name
    constructor
    . intro hname
      refine ⟨_, List.mem_cons_self, ?_⟩
      rwa [hinsertion]
    . rintro ⟨statement, hstatement, hname⟩
      rcases List.mem_cons.mp hstatement with rfl | hselection
      . rwa [hinsertion] at hname
      . -- the row is read back by the key, which the input has to give
        obtain ⟨column, hcolumn, rfl⟩ := Option.map_eq_some_iff.mp (Option.mem_toList.mp hselection)
        obtain ⟨key, hkey, rfl⟩ := Option.map_eq_some_iff.mp hcolumn
        rw [Sql.placeholders_selectByKey hnamed.name (hnamed.key hkey), List.mem_singleton] at hname
        rw [hname, mem_given_iff]
        exact ⟨key_mem_columnNames hkey, key_mem_of_admits_create hkey hinput⟩
  . intro column hcolumn
    exact (mem_given_iff.mp hcolumn).right

theorem runs_create {input : List (String × Json)}
    (hinput : (table.typesWith overrides).createInput.Admits input) :
    (table.typesWith overrides).Runs .create
      (.create table.name (table.typesWith overrides).columnNames (table.typesWith overrides).keyColumn?)
      [(createArgumentName table.name, .record input)] input := by
  have hcolumns : ∀ column ∈ (table.typesWith overrides).columnNames, IsName column :=
    isName_columnNames hnamed
  have hkey? : ∀ name ∈ (table.typesWith overrides).keyColumn?, IsName name := isName_keyColumn? hnamed
  refine ⟨_, _, run_create hnamed.name hcolumns hkey?, bound_create hnamed hinput, ?_⟩
  intro args' values' hargs' hsame
  cases hargs' with
  | create input' hinput' =>
    rw [← given_congr hsame]
    exact ⟨_, run_create hnamed.name hcolumns hkey?⟩

theorem bound_update {key : Key} (hkey : table.key? overrides = some key) {input : List (String × Json)}
    {columns : List String} (hcolumns : ∀ column ∈ columns, IsName column)
    (hgivenKey : key.column ∈ input.map (·.1)) :
    Bound
      [Sql.change table.name (given columns input) key.column, Sql.selectByKey table.name key.column]
      (bindings input (given columns input ++ [key.column])) input := by
  have hname := hnamed.key hkey
  have hgiven : ∀ column ∈ given columns input, IsName column :=
    fun column hcolumn => hcolumns column (mem_given_iff.mp hcolumn).left
  apply bound_bindings
  . intro name
    simp only [List.mem_cons, List.not_mem_nil, or_false, exists_eq_or_imp, exists_eq_left,
      Sql.placeholders_change hnamed.name hname hgiven, Sql.placeholders_selectByKey hnamed.name hname,
      List.mem_append]
    constructor
    . exact .inl
    . rintro (hchange | hselection)
      . exact hchange
      . exact .inr hselection
  . intro column hcolumn
    rcases List.mem_append.mp hcolumn with hother | hlast
    . exact (mem_given_iff.mp hother).right
    . rwa [List.mem_singleton.mp hlast]

theorem runs_update {key : Key} (hkey : table.key? overrides = some key) {input : List (String × Json)}
    (hinput : (table.typesWith overrides).updateInput.Admits input) :
    ((∀ name ∈ input.map (·.1), name = key.column) ∧
      (Resolver.update table.name (table.typesWith overrides).columnNames key.column).request.run
        [(updateArgumentName table.name, .record input)] = .error (.refused (nothingToUpdate table.name)))
      ∨
    (table.typesWith overrides).Runs .update
      (.update table.name (table.typesWith overrides).columnNames key.column)
      [(updateArgumentName table.name, .record input)] input := by
  have hname := hnamed.key hkey
  have hcolumns : ∀ column ∈ (table.typesWith overrides).columnNames, IsName column :=
    isName_columnNames hnamed
  have hothers : ∀ column ∈ (table.typesWith overrides).columnNames.filter (· != key.column), IsName column :=
    fun column hcolumn => hcolumns column (List.mem_of_mem_filter hcolumn)
  have hgivenKey := key_mem_of_admits_update hkey hinput
  obtain ⟨value, hvalue, -⟩ := Json.exists_member? hgivenKey
  have hrun := run_update hnamed.name hname hcolumns hvalue
  -- the update is refused exactly if no column but the key is given
  cases hempty : (given ((table.typesWith overrides).columnNames.filter (· != key.column)) input).isEmpty with
  | true =>
    rw [hempty] at hrun
    exact .inl ⟨eq_key_of_given_eq_nil hinput (List.isEmpty_iff.mp hempty), hrun⟩
  | false =>
    right
    rw [hempty] at hrun
    refine ⟨_, _, hrun, bound_update hnamed hkey hothers hgivenKey, ?_⟩
    intro args' values' hargs' hsame
    cases hargs' with
    | update input' hinput' =>
      obtain ⟨value', hvalue', -⟩ := Json.exists_member? ((hsame _).mpr hgivenKey)
      have hrun' := run_update hnamed.name hname hcolumns hvalue'
      rw [given_congr hsame, hempty] at hrun'
      exact ⟨_, hrun'⟩

/--
Every operation of a table, with any arguments that the schema allows: an update of nothing but the key is
refused, and everything else runs statements whose placeholders are bound to the given values.
-/
theorem run_bound {options : TableOptions} {types : TableTypes} (htypes : table.types options = .ok types)
    {operation : Operation} {resolver : Resolver} (hresolver : (operation, resolver) ∈ types.resolvers)
    {args values : List (String × Json)} (hargs : types.Admits operation args values) :
    (operation = .update ∧ (∀ name ∈ values.map (·.1), types.keyColumn? = some name) ∧
      resolver.request.run args = .error (.refused (nothingToUpdate types.table)))
      ∨
    types.Runs operation resolver args values := by
  obtain ⟨-, rfl⟩ := types_eq_ok_iff.mp htypes
  cases hargs with
  | get key value hkey =>
    obtain ⟨key', hkey', rfl⟩ := TableTypes.mem_resolvers_get.mp hresolver
    obtain rfl : key = key' := Option.some.inj (hkey.symm.trans hkey')
    exact .inr (runs_get hnamed hkey value)
  | list args =>
    obtain rfl := TableTypes.mem_resolvers_list.mp hresolver
    exact .inr (runs_list hnamed args)
  | create input hinput =>
    obtain rfl := TableTypes.mem_resolvers_create.mp hresolver
    exact .inr (runs_create hnamed hinput)
  | update input hinput =>
    obtain ⟨key, hkey, rfl⟩ := TableTypes.mem_resolvers_update.mp hresolver
    rcases runs_update hnamed hkey hinput with ⟨honly, hrefused⟩ | hruns
    . refine .inl ⟨rfl, ?_, hrefused⟩
      intro name hname
      rw [TableTypes.keyColumn?, hkey, honly name hname]
      rfl
    . exact .inr hruns
  | delete key value hkey =>
    obtain ⟨key', hkey', rfl⟩ := TableTypes.mem_resolvers_delete.mp hresolver
    obtain rfl : key = key' := Option.some.inj (hkey.symm.trans hkey')
    exact .inr (runs_delete hnamed hkey value)

omit hnamed in
theorem run_bound_author :
    (sampleTables[0].typesWith []).Runs .update (.update "author" ["id", "name"] "id")
      [("updateauthorInput", .record [("id", .int 1), ("name", .text "Ada")])]
      [("id", .int 1), ("name", .text "Ada")] := by
  have htypes : sampleTables[0].types ⟨false, []⟩ = .ok (sampleTables[0].typesWith []) :=
    types_eq_ok_iff.mpr ⟨by decide, rfl⟩
  have hresolver : (.update, .update "author" ["id", "name"] "id")
      ∈ (sampleTables[0].typesWith []).resolvers := by
    rw [TableTypes.mem_resolvers_update]
    exact ⟨_, rfl, rfl⟩
  have hinput : (sampleTables[0].typesWith []).updateInput.Admits
      [("id", .int 1), ("name", .text "Ada")] :=
    ⟨by decide, by decide, by decide⟩
  rcases run_bound (by decide) htypes hresolver (.update _ hinput) with ⟨-, honly, -⟩ | hruns
  . exact absurd (honly "name" (by decide)) (by decide)
  . exact hruns

end Table

end TableGraph
