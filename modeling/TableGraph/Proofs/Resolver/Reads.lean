import TableGraph.Proofs.Sql
import TableGraph.Proofs.Template.Parts
import TableGraph.Resolver

/-!
What the mapping templates of a resolver read of the request: the arguments of the field, the columns that
a loop looks for in the input, and the key that an update takes from it.
-/

namespace TableGraph
namespace Resolver

def argumentsRead (resolver : Resolver) : List String :=
  resolver.request.argumentsRead ++ resolver.response.argumentsRead

section Responses

theorem argumentsRead_firstRow (statement : Nat) :
    (Template.sequence [raiseError, firstRow statement]).argumentsRead = [] := by
  rw [Template.argumentsRead_of_dotless]
  . simp [raiseError, requestError, firstRow, resultJson, rows, Expression.path, Template.expressions]
  . simp +decide [raiseError, requestError, firstRow, resultJson, rows, Expression.path,
      Template.expressions, Template.texts]

theorem argumentsRead_rows (table : String) : (list table).response.argumentsRead = [] := by
  rw [Template.argumentsRead_of_dotless]
  . simp [list, raiseError, requestError, resultJson, rows, Expression.path, Template.expressions]
  . simp +decide [list, raiseError, requestError, resultJson, rows, Expression.path,
      Template.expressions, Template.texts]

theorem argumentsRead_input (table : String) (columns : List String) :
    (create table columns none).response.argumentsRead = [createArgumentName table] := by
  rw [Template.argumentsRead_of_dotless]
  . simp [create, raiseError, requestError, valueJson, argument, Expression.path, Template.expressions]
  . simp +decide [create, raiseError, requestError, valueJson, argument, Expression.path,
      Template.expressions, Template.texts]

end Responses

section Requests

variable {table key : String} {columns : List String}
variable (htable : Lacks '.' table) (hkey : Lacks '.' key)
variable (hcolumns : ∀ column ∈ columns, Lacks '.' column)

include htable

theorem argumentsRead_list : (list table).argumentsRead = [] := by
  unfold argumentsRead
  rw [argumentsRead_rows, Template.argumentsRead_of_dotless]
  . simp [list, requestOf, Template.expressions]
  . simp +decide [list, requestOf, Template.expressions, Template.texts, Sql.dotless_selectAll htable]

include hkey in
theorem argumentsRead_get : (get table key).argumentsRead = [key] := by
  unfold argumentsRead
  have hresponse : (get table key).response.argumentsRead = [] := argumentsRead_firstRow 0
  rw [hresponse, Template.argumentsRead_of_dotless]
  . simp [get, requestOf, keyValue, valueJson, argument, Expression.path, Template.expressions]
  . simp +decide [get, requestOf, keyValue, valueJson, argument, Expression.path, Template.expressions,
      Template.texts, Sql.dotless_selectByKey htable hkey, Sql.dotless_placeholder hkey]

include hkey in
theorem argumentsRead_delete : (delete table key).argumentsRead = [key] := by
  unfold argumentsRead
  have hresponse : (delete table key).response.argumentsRead = [] := argumentsRead_firstRow 0
  rw [hresponse, Template.argumentsRead_of_dotless]
  . simp [delete, requestOf, keyValue, valueJson, argument, Expression.path, Template.expressions]
  . simp +decide [delete, requestOf, keyValue, valueJson, argument, Expression.path, Template.expressions,
      Template.texts, Sql.dotless_selectByKey htable hkey, Sql.dotless_deleteByKey htable hkey,
      Sql.dotless_placeholder hkey]

include hkey hcolumns in
theorem argumentsRead_update : (update table columns key).argumentsRead = [updateArgumentName table] := by
  unfold argumentsRead
  have hresponse : (update table columns key).response.argumentsRead = [] := argumentsRead_firstRow 1
  rw [hresponse, Template.argumentsRead_of_dotless]
  . simp [update, requestOf, valueJson, argument, setTo, forEachGiven, addTo, bindColumn, bind, listText,
      Expression.path, Template.expressions]
  . simp +decide [update, requestOf, valueJson, argument, setTo, forEachGiven, addTo, bindColumn, bind,
      listText, Expression.path, Template.expressions, Template.texts, or_imp, forall_and,
      Sql.dotless_selectByKey htable hkey, Sql.dotless_updateSet htable, Sql.dotless_keyClause hkey,
      Sql.dotless_placeholder hkey, htable]
    exact fun column hcolumn _ => hcolumns column hcolumn

include hcolumns in
theorem argumentsRead_create {key? : Option String} (hkey : ∀ key ∈ key?, Lacks '.' key) :
    (create table columns key?).argumentsRead
      =
    createArgumentName table :: (if key?.isSome then [] else [createArgumentName table]) := by
  have hrequest : (create table columns key?).request.argumentsRead = [createArgumentName table] := by
    rw [Template.argumentsRead_of_dotless]
    . cases key? with
      | none =>
        simp [create, requestOf, valueJson, argument, setTo, forEachGiven, addTo, bindColumn, bind, listText,
          Expression.path, Template.expressions]
      | some key =>
        simp [create, requestOf, valueJson, argument, setTo, forEachGiven, addTo, bindColumn, bind, listText,
          Expression.path, Template.expressions]
    . cases key? with
      | none =>
        simp +decide [create, requestOf, valueJson, argument, setTo, forEachGiven, addTo, bindColumn, bind,
          listText, Expression.path, Template.expressions, Template.texts, or_imp, forall_and,
          Sql.dotless_insertInto htable]
        exact hcolumns
      | some key =>
        simp +decide [create, requestOf, valueJson, argument, setTo, forEachGiven, addTo, bindColumn, bind,
          listText, Expression.path, Template.expressions, Template.texts, or_imp, forall_and,
          Sql.dotless_insertInto htable, Sql.dotless_selectByKey htable (hkey key rfl)]
        exact hcolumns
  unfold argumentsRead
  rw [hrequest]
  cases key? with
  | none =>
    rw [argumentsRead_input]
    rfl
  | some key =>
    have hresponse : (create table columns (some key)).response.argumentsRead = [] :=
      argumentsRead_firstRow 1
    rw [hresponse]
    rfl

end Requests

section Columns

variable (table : String) (columns : List String)

theorem collections_create (key? : Option String) :
    (create table columns key?).request.collections = [.list (columns.map .text)] := by
  cases key? with
  | none =>
    simp [create, requestOf, setTo, forEachGiven, addTo, bindColumn, bind, listText, valueJson,
      Template.collections]
  | some key =>
    simp [create, requestOf, setTo, forEachGiven, addTo, bindColumn, bind, listText, valueJson,
      Template.collections]

theorem collections_update (key : String) :
    (update table columns key).request.collections = [.list ((columns.filter (· != key)).map .text)] := by
  simp [update, requestOf, setTo, forEachGiven, addTo, bindColumn, bind, listText, valueJson,
    Template.collections]

theorem propertiesRead_update (key : String) :
    (update table columns key).request.propertiesRead "input" = [key] := by
  simp [update, requestOf, setTo, forEachGiven, addTo, bindColumn, bind, listText, valueJson, argument,
    Expression.path, Expression.propertyOf?, Template.propertiesRead, Template.expressions]

end Columns

end Resolver
end TableGraph
