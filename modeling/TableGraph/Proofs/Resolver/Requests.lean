import TableGraph.Proofs.Resolver.Execution

/-!
What the request of each operation comes to: the statements, which depend on the given columns only, and the
values that are bound in them.
-/

namespace TableGraph
namespace Resolver

open Template (Memory executeAll)

section Start

def initial (args : List (String × Json)) : Memory :=
  { scope := [("ctx", .record [("args", .record args)])] }

variable {args : List (String × Json)} {memory : Memory}

theorem evaluate?_argument (hctx : memory.scope.lookup "ctx" = some (.record [("args", .record args)]))
    (name : String) : (argument name).evaluate? memory.scope = (Json.record args).member? name := by
  simp [argument, Expression.path, Expression.evaluate?, hctx, Json.member?]

theorem evaluate?_input (name : String) (value : Json) :
    Template.evaluate? .used (initial [(name, value)]).scope (.reference (argument name)) = some value := by
  rw [Template.evaluate?, Template.Position.evaluate?, evaluate?_argument rfl]
  simp [Json.member?]

theorem evaluate?_valueJson (expression : Expression) :
    (valueJson expression).evaluate? .written memory.scope = expression.evaluate? memory.scope := by
  simp [valueJson, Template.evaluate?, Template.Position.evaluate?, Expression.toolArguments?]

theorem evaluate?_keyValue {key : String} (hkey : IsName key) {value : Json}
    (hctx : memory.scope.lookup "ctx" = some (.record [("args", .record args)]))
    (hvalue : (Json.record args).member? key = some value) :
    (keyValue key).evaluate? .written memory.scope = some (.record (bindings args [key])) := by
  have hname : memory.scope.interpolate? (Sql.placeholder key) = some (Sql.placeholder key) :=
    Scope.interpolate?_of_plain (Sql.plain_placeholder hkey)
  rw [keyValue, Template.evaluate?, Template.evaluateMembers?, hname, Option.bind_some, evaluate?_valueJson,
    evaluate?_argument hctx, hvalue]
  simp [Template.evaluateMembers?, bindings, inputValue, hvalue, Json.put]

end Start

variable {table key : String} (htable : IsName table) (hkey : IsName key)

theorem run_fixed {args : List (String × Json)} {statements : List String}
    (hstatements : ∀ statement ∈ statements, Plain statement) (remark : String) {values : Template}
    {bound : List (String × Json)}
    (hvalues : values.evaluate? .written (initial args).scope = some (.record bound)) :
    Template.run (.sequence [.comment remark, requestOf (statements.map .text) values]) args
      =
    .ok [written statements bound] := by
  have hrequest := execute_requestOf (Template.evaluateAll?_texts .written hstatements) hvalues
  rw [Template.run, Template.execute, Template.executeAll_comment, ← initial,
    Template.executeAll_of_ok hrequest]
  rfl

include htable in
theorem run_list (args : List (String × Json)) :
    (list table).request.run args = .ok [written [Sql.selectAll table] []] :=
  run_fixed (List.forall_mem_singleton.mpr (Sql.plain_selectAll htable)) _ rfl

include htable hkey in
theorem run_get {args : List (String × Json)} {value : Json}
    (hvalue : (Json.record args).member? key = some value) :
    (get table key).request.run args = .ok [written [Sql.selectByKey table key] (bindings args [key])] := by
  have hstatements : ∀ statement ∈ [Sql.selectByKey table key], Plain statement :=
    List.forall_mem_singleton.mpr (Sql.plain_selectByKey htable hkey)
  exact run_fixed hstatements _ (evaluate?_keyValue hkey rfl hvalue)

include htable hkey in
theorem run_delete {args : List (String × Json)} {value : Json}
    (hvalue : (Json.record args).member? key = some value) :
    (delete table key).request.run args
      =
    .ok [written [Sql.selectByKey table key, Sql.deleteByKey table key] (bindings args [key])] := by
  have hstatements : ∀ statement ∈ [Sql.selectByKey table key, Sql.deleteByKey table key],
      Plain statement := by
    rw [List.forall_mem_cons, List.forall_mem_singleton]
    exact ⟨Sql.plain_selectByKey htable hkey, Sql.plain_deleteByKey htable hkey⟩
  exact run_fixed hstatements _ (evaluate?_keyValue hkey rfl hvalue)

section Create

variable {columns : List String} (hcolumns : ∀ column ∈ columns, IsName column)
variable {input : List (String × Json)}

theorem interpolate?_insertion {scope : Scope} {columns : List String} (htable : IsName table)
    (hcolumns : ∀ column ∈ columns, IsName column)
    (hcolStr : scope.lookup "colStr"
      = some (.text ("(" ++ ", ".intercalate (columns.map Sql.identifier) ++ ")")))
    (hvalStr : scope.lookup "valStr"
      = some (.text ("(" ++ ", ".intercalate (columns.map Sql.placeholder) ++ ")"))) :
    scope.interpolate? (Sql.insertInto table ++ " $colStr VALUES $valStr")
      =
    some (Sql.insertion table columns) := by
  have htext : (Sql.insertInto table ++ " $colStr VALUES $valStr").toList
      = (Sql.insertInto table ++ " ").toList ++
        '$' :: ("colStr".toList ++ (" VALUES ".toList ++ '$' :: ("valStr".toList ++ "".toList))) := by
    simp
  have hbefore : Plain (Sql.insertInto table ++ " ") :=
    plain_append_iff.mpr ⟨Sql.plain_insertInto htable, by decide⟩
  apply Scope.interpolate?_of_splice?
  . rw [htext, Scope.splice?_text hbefore.lacks, Scope.splice?_reference (by decide) hcolStr (by decide),
      Scope.splice?_text (by decide), Scope.splice?_reference (by decide) hvalStr (by decide),
      Scope.splice?_last (by decide), Sql.insertion]
    simp
  . have hlisted : Plain (", ".intercalate (columns.map Sql.identifier)) :=
      plain_joined fun column hcolumn => Sql.plain_identifier (hcolumns column hcolumn)
    have hvalues : Plain (", ".intercalate (columns.map Sql.placeholder)) :=
      plain_joined fun column hcolumn => Sql.plain_placeholder (hcolumns column hcolumn)
    unfold Sql.insertion
    simp only [plain_append_iff]
    exact ⟨⟨⟨⟨⟨Sql.plain_insertInto htable, by decide⟩, hlisted⟩, by decide⟩, hvalues⟩, by decide⟩

theorem evaluateAll?_selection {key? : Option String} (scope : Scope) (htable : IsName table)
    (hkey? : ∀ key ∈ key?, IsName key) :
    Template.evaluateAll? .written scope
      (key?.map fun key => Template.text (Sql.selectByKey table key)).toList
        = some ((key?.map (Sql.selectByKey table)).toList.map .text) := by
  have htexts : (key?.map fun key => Template.text (Sql.selectByKey table key)).toList
      = (key?.map (Sql.selectByKey table)).toList.map .text := by
    cases key? with
    | none => rfl
    | some key => rfl
  rw [htexts]
  apply Template.evaluateAll?_texts
  intro statement hstatement
  obtain ⟨key, hkey, rfl⟩ := Option.map_eq_some_iff.mp (Option.mem_toList.mp hstatement)
  exact Sql.plain_selectByKey htable (hkey? key hkey)

theorem executeAll_insertion {key? : Option String} {looped : Memory} (htable : IsName table)
    (hcolumns : ∀ column ∈ columns, IsName column) (hkey? : ∀ key ∈ key?, IsName key)
    (hstate : LoopState looped [("cols", Sql.identifier), ("vals", Sql.placeholder)] input columns) :
    ∃ memory : Memory,
      executeAll [
        setTo "colStr" (listText "cols" "(" ")"),
        setTo "valStr" (listText "vals" "(" ")"),
        requestOf
          (.text (Sql.insertInto table ++ " $colStr VALUES $valStr") ::
            (key?.map fun key => Template.text (Sql.selectByKey table key)).toList)
          (valueJson (.variable "variables"))] looped = .ok memory ∧
      memory.output = looped.output ++
        [written (Sql.insertion table columns :: (key?.map (Sql.selectByKey table)).toList)
          (bindings input columns)] := by
  let opened := looped.set "colStr" (.text ("(" ++ ", ".intercalate (columns.map Sql.identifier) ++ ")"))
  let filled := opened.set "valStr" (.text ("(" ++ ", ".intercalate (columns.map Sql.placeholder) ++ ")"))
  have hcolStr : (setTo "colStr" (listText "cols" "(" ")")).execute looped = .ok opened := by
    apply execute_listText "colStr" _ (by decide) (by decide) (by decide)
    . exact fun column hcolumn c hc => Sql.lacks_bracket_identifier (hcolumns column hcolumn) hc
    . exact hstate.gathered ("cols", Sql.identifier) (by simp)
  have hvalStr : (setTo "valStr" (listText "vals" "(" ")")).execute opened = .ok filled := by
    apply execute_listText "valStr" _ (by decide) (by decide) (by decide)
    . exact fun column hcolumn c hc => Sql.lacks_bracket_placeholder (hcolumns column hcolumn) hc
    . rw [Memory.lookup_set_of_ne _ _ (by decide)]
      exact hstate.gathered ("vals", Sql.placeholder) (by simp)
  have hinsertion : filled.scope.interpolate? (Sql.insertInto table ++ " $colStr VALUES $valStr")
      = some (Sql.insertion table columns) := by
    apply interpolate?_insertion htable hcolumns
    . rw [Memory.lookup_set_of_ne _ _ (by decide), Memory.lookup_set_self]
    . rw [Memory.lookup_set_self]
  have hvalues : (valueJson (.variable "variables")).evaluate? .written filled.scope
      = some (.record (bindings input columns)) := by
    rw [evaluate?_valueJson, Expression.evaluate?, Memory.lookup_set_of_ne _ _ (by decide),
      Memory.lookup_set_of_ne _ _ (by decide), hstate.lookup_variables]
  have hstatements : Template.evaluateAll? .written filled.scope
      (.text (Sql.insertInto table ++ " $colStr VALUES $valStr") ::
        (key?.map fun key => Template.text (Sql.selectByKey table key)).toList)
          = some ((Sql.insertion table columns :: (key?.map (Sql.selectByKey table)).toList).map .text) := by
    rw [Template.evaluateAll?, Template.evaluate?, hinsertion, evaluateAll?_selection _ htable hkey?]
    rfl
  have hrequest := execute_requestOf hstatements hvalues
  rw [Template.executeAll_of_ok hcolStr, Template.executeAll_of_ok hvalStr,
    Template.executeAll_of_ok hrequest]
  exact ⟨_, rfl, rfl⟩

include htable hcolumns in
theorem run_create {key? : Option String} (hkey? : ∀ key ∈ key?, IsName key) :
    (create table columns key?).request.run [(createArgumentName table, .record input)]
      =
    .ok [written
      (Sql.insertion table (given columns input) :: (key?.map (Sql.selectByKey table)).toList)
      (bindings input (given columns input))] := by
  obtain ⟨looped, hgathering, houtput, hstate⟩ :=
    executeAll_gathering gatherings_create hcolumns (evaluate?_input (createArgumentName table) (.record input))
  have hgiven : ∀ column ∈ given columns input, IsName column :=
    fun column hcolumn => hcolumns column (List.mem_of_mem_filter hcolumn)
  obtain ⟨memory, hinsertion, houtput'⟩ := executeAll_insertion htable hgiven hkey? hstate
  have hexecute := (hgathering _).trans hinsertion
  rw [houtput] at houtput'
  unfold create
  rw [Template.run, Template.execute, Template.executeAll_comment, ← initial]
  apply (congrArg _ hexecute).trans
  exact congrArg Except.ok houtput'

end Create

section Update

variable {columns : List String} {input : List (String × Json)}

theorem interpolate?_change {scope : Scope} (htable : IsName table) (hkey : IsName key)
    (hcolumns : ∀ column ∈ columns, IsName column)
    (hlist : scope.lookup "assignmentList"
      = some (.text ("" ++ ", ".intercalate (columns.map Sql.assignment) ++ ""))) :
    scope.interpolate? (Sql.updateSet table ++ " $assignmentList " ++ Sql.keyClause key)
      =
    some (Sql.change table columns key) := by
  have hbefore : Plain (Sql.updateSet table ++ " ") :=
    plain_append_iff.mpr ⟨Sql.plain_updateSet htable, by decide⟩
  have hbehind : Plain (" " ++ Sql.keyClause key) :=
    plain_append_iff.mpr ⟨by decide, Sql.plain_keyClause hkey⟩
  have hends : Text.EndsName (" " ++ Sql.keyClause key).toList := by
    rw [String.toList_append]
    exact Text.endsName_cons (by decide) _
  have htext : (Sql.updateSet table ++ " $assignmentList " ++ Sql.keyClause key).toList
      = (Sql.updateSet table ++ " ").toList ++
        '$' :: ("assignmentList".toList ++ (" " ++ Sql.keyClause key).toList) := by
    simp
  apply Scope.interpolate?_of_splice?
  . rw [htext, Scope.splice?_text hbefore.lacks, Scope.splice?_reference (by decide) hlist hends,
      Scope.splice?_last hbehind.lacks, Sql.change]
    simp
  . have hassignments : Plain (", ".intercalate (columns.map Sql.assignment)) :=
      plain_joined fun column hcolumn => Sql.plain_assignment (hcolumns column hcolumn)
    unfold Sql.change
    simp only [plain_append_iff]
    exact ⟨⟨⟨⟨Sql.plain_updateSet htable, by decide⟩, hassignments⟩, by decide⟩,
      Sql.plain_keyClause hkey⟩

theorem executeAll_change {looped : Memory} {value : Json} (htable : IsName table) (hkey : IsName key)
    (hcolumns : ∀ column ∈ columns, IsName column)
    (hstate : LoopState looped [("assignments", Sql.assignment)] input columns)
    (hvalue : (Json.record input).member? key = some value) :
    ∃ memory : Memory,
      executeAll [
        bind key (.property (.variable "input") key),
        setTo "assignmentList" (listText "assignments" "" ""),
        requestOf
          [.text (Sql.updateSet table ++ " $assignmentList " ++ Sql.keyClause key),
           .text (Sql.selectByKey table key)]
          (valueJson (.variable "variables"))] looped = .ok memory ∧
      memory.output = looped.output ++
        [written [Sql.change table columns key, Sql.selectByKey table key]
          (bindings input (columns ++ [key]))] := by
  let bound := looped.set "variables" (.record (bindings input (columns ++ [key])))
  let filled := bound.set "assignmentList"
    (.text ("" ++ ", ".intercalate (columns.map Sql.assignment) ++ ""))
  have hbind : (bind key (.property (.variable "input") key)).execute looped = .ok bound := by
    have hproperty : (Expression.property (.variable "input") key).evaluate? looped.scope
        = some (inputValue input key) := by
      rw [Expression.evaluate?, Expression.evaluate?, hstate.lookup_input, Option.bind_some, inputValue, hvalue]
      rfl
    rw [execute_bind hstate.lookup_variables
      (Scope.interpolate?_of_plain (Sql.plain_placeholder hkey)) hproperty, ← bindings_concat]
  have hlist : (setTo "assignmentList" (listText "assignments" "" "")).execute bound = .ok filled := by
    apply execute_listText "assignmentList" _ (by decide) (by decide) (by decide)
    . exact fun column hcolumn c hc => Sql.lacks_bracket_assignment (hcolumns column hcolumn) hc
    . rw [Memory.lookup_set_of_ne _ _ (by decide)]
      exact hstate.gathered ("assignments", Sql.assignment) (by simp)
  have hchange : filled.scope.interpolate? (Sql.updateSet table ++ " $assignmentList " ++ Sql.keyClause key)
      = some (Sql.change table columns key) := by
    apply interpolate?_change htable hkey hcolumns
    rw [Memory.lookup_set_self]
  have hselection : filled.scope.interpolate? (Sql.selectByKey table key) = some (Sql.selectByKey table key) :=
    Scope.interpolate?_of_plain (Sql.plain_selectByKey htable hkey)
  have hstatements : Template.evaluateAll? .written filled.scope
      [.text (Sql.updateSet table ++ " $assignmentList " ++ Sql.keyClause key),
       .text (Sql.selectByKey table key)]
        = some ([Sql.change table columns key, Sql.selectByKey table key].map .text) := by
    simp [Template.evaluateAll?, Template.evaluate?, hchange, hselection]
  have hvalues : (valueJson (.variable "variables")).evaluate? .written filled.scope
      = some (.record (bindings input (columns ++ [key]))) := by
    rw [evaluate?_valueJson, Expression.evaluate?, Memory.lookup_set_of_ne _ _ (by decide),
      Memory.lookup_set_self]
  have hrequest := execute_requestOf hstatements hvalues
  rw [Template.executeAll_of_ok hbind, Template.executeAll_of_ok hlist, Template.executeAll_of_ok hrequest]
  exact ⟨_, rfl, rfl⟩

def nothingToUpdate (table : String) : List Json :=
  [.text ("No fields to update on " ++ table), .text "ValidationError"]

theorem execute_refusal {memory : Memory} {items : List Json} (htable : IsName table)
    (hlist : memory.scope.lookup "assignments" = some (.list items)) :
    Template.execute
      (.branch (.reference (.call (.variable "assignments") "isEmpty" []))
        (.reference (.call (.variable "util") "error"
          [.text ("No fields to update on " ++ table), .text "ValidationError"])) none) memory
      =
    if items.isEmpty then .error (.refused (nothingToUpdate table)) else .ok memory := by
  have hmessage : memory.scope.interpolate? ("No fields to update on " ++ table) = some _ :=
    Scope.interpolate?_of_plain (plain_append_iff.mpr ⟨by decide, plain_of_isName htable⟩)
  have htype : memory.scope.interpolate? "ValidationError" = some _ :=
    Scope.interpolate?_of_plain (by decide)
  have hcondition : Template.evaluate? .used memory.scope
      (.reference (.call (.variable "assignments") "isEmpty" [])) = some (.bool items.isEmpty) := by
    simp [Template.evaluate?, Template.Position.evaluate?, Expression.evaluate?, Expression.evaluateAll?,
      hlist, Json.call?]
  rw [Template.execute, hcondition]
  cases items with
  | nil =>
    simp [Template.execute, Expression.toolArguments?, Expression.evaluateAll?, Expression.evaluate?, hmessage,
      htype, nothingToUpdate]
  | cons item items => rfl

variable (hcolumns : ∀ column ∈ columns, IsName column)

include htable hkey hcolumns in
theorem run_update {value : Json} (hvalue : (Json.record input).member? key = some value) :
    (update table columns key).request.run [(updateArgumentName table, .record input)]
      =
    if (given (columns.filter (· != key)) input).isEmpty then
      .error (.refused (nothingToUpdate table))
    else
      .ok [written
        [Sql.change table (given (columns.filter (· != key)) input) key, Sql.selectByKey table key]
        (bindings input (given (columns.filter (· != key)) input ++ [key]))] := by
  have hothers : ∀ column ∈ columns.filter (· != key), IsName column :=
    fun column hcolumn => hcolumns column (List.mem_of_mem_filter hcolumn)
  have hgiven : ∀ column ∈ given (columns.filter (· != key)) input, IsName column :=
    fun column hcolumn => hothers column (List.mem_of_mem_filter hcolumn)
  obtain ⟨looped, hgathering, houtput, hstate⟩ :=
    executeAll_gathering gatherings_update hothers (evaluate?_input (updateArgumentName table) (.record input))
  have hassignments : looped.scope.lookup "assignments"
      = some (.list (((given (columns.filter (· != key)) input).map Sql.assignment).map .text)) :=
    hstate.gathered ("assignments", Sql.assignment) (by simp)
  -- an update is refused before its key is bound, so this comes ahead of `executeAll_change`
  have hrefusal := execute_refusal htable hassignments
  rw [List.isEmpty_map, List.isEmpty_map] at hrefusal
  unfold update
  rw [Template.run, Template.execute, Template.executeAll_comment, ← initial]
  apply (congrArg _ (hgathering _)).trans
  cases hempty : (given (columns.filter (· != key)) input).isEmpty with
  | true =>
    rw [hempty] at hrefusal
    exact congrArg _ (Template.executeAll_of_error hrefusal _)
  | false =>
    rw [hempty] at hrefusal
    obtain ⟨memory, hchange, houtput'⟩ := executeAll_change htable hkey hgiven hstate hvalue
    rw [houtput] at houtput'
    apply (congrArg _ (Template.executeAll_of_ok hrefusal _)).trans
    apply (congrArg _ hchange).trans
    exact congrArg Except.ok houtput'

end Update

end Resolver
end TableGraph
