import TableGraph.Proofs.Sql
import TableGraph.Proofs.Text.Marked

/-!
The placeholders of statements: the fixed statements have that of the key, the others those of the columns that
they are finished with.
-/

namespace TableGraph.Sql

def placeholdersIn (cs : List Char) : List String :=
  (Text.pieces ':' none cs).filterMap fun
    | .marked (c :: name) => some (String.ofList (c :: name))
    | _ => none

def placeholders (statement : String) : List String :=
  placeholdersIn statement.toList

theorem placeholdersIn_text {text : String} (htext : Lacks ':' text) (rest : List Char) :
    placeholdersIn (text.toList ++ rest) = placeholdersIn rest := by
  unfold placeholdersIn
  rw [Text.pieces_plain htext, List.filterMap_append, List.filterMap_map]
  have hplain : (text.toList.filterMap fun _ => (none : Option String)) = [] := by simp
  exact congrArg (· ++ _) hplain

theorem placeholdersIn_name {name : String} (hname : IsName name) {rest : List Char}
    (hrest : Text.EndsName rest) :
    placeholdersIn (':' :: (name.toList ++ rest)) = name :: placeholdersIn rest := by
  unfold placeholdersIn
  rw [Text.pieces_marked (fun c hc => hname.isNameChar hc) hrest, List.filterMap_cons]
  cases hchars : name.toList with
  | nil => exact absurd (String.toList_eq_nil_iff.mp hchars) hname.ne_empty
  | cons c cs =>
    dsimp only
    rw [← hchars, String.ofList_toList]

theorem placeholders_of_lacks {statement : String} (hstatement : Lacks ':' statement) :
    placeholders statement = [] := by
  have hnone := placeholdersIn_text hstatement []
  rwa [List.append_nil] at hnone

theorem placeholders_append {head name : String} (hhead : Lacks ':' head) (hname : IsName name) :
    placeholders (head ++ ":" ++ name) = [name] := by
  have hchars : (head ++ ":" ++ name).toList = head.toList ++ ':' :: (name.toList ++ []) := by simp
  rw [placeholders, hchars, placeholdersIn_text hhead, placeholdersIn_name hname (by decide)]
  rfl

section Joined

variable {columns : List String} {rest : List Char}

theorem placeholdersIn_joined {text : String → String}
    (htext : ∀ column ∈ columns, ∀ rest, Text.EndsName rest →
      placeholdersIn ((text column).toList ++ rest) = column :: placeholdersIn rest)
    (hrest : Text.EndsName rest) :
    placeholdersIn ((", ".intercalate (columns.map text)).toList ++ rest) = columns ++ placeholdersIn rest := by
  induction columns with
  | nil => simp
  | cons column columns ih =>
    rw [List.forall_mem_cons] at htext
    cases columns with
    | nil =>
      rw [List.map_singleton, String.intercalate_singleton]
      exact htext.left rest hrest
    | cons next columns =>
      -- the comma keeps the next text out of the name in front of it
      have hcomma : ∀ rest, Text.EndsName (", ".toList ++ rest) :=
        fun rest => Text.endsName_cons (by decide) _
      rw [List.map_cons, List.map_cons, String.intercalate_cons_cons, String.toList_append,
        String.toList_append, List.append_assoc, List.append_assoc, htext.left _ (hcomma _),
        placeholdersIn_text (by decide), ← List.map_cons, ih htext.right]
      rfl

end Joined

section Statements

variable {table key : String} (htable : IsName table) (hkey : IsName key)

include htable in
theorem lacks_colon_identifier : Lacks ':' (identifier table) :=
  lacks_identifier (lacks_of_isName htable (by decide)) (by decide)

include htable in
theorem placeholders_selectAll : placeholders (selectAll table) = [] := by
  apply placeholders_of_lacks
  rw [selectAll_eq htable, lacks_append_iff, lacks_append_iff]
  exact ⟨⟨by decide, lacks_of_isName htable (by decide)⟩, by decide⟩

include htable hkey in
theorem placeholders_selectByKey : placeholders (selectByKey table key) = [key] := by
  have hhead : Lacks ':' ("SELECT * FROM \x60" ++ table ++ "\x60 WHERE \x60" ++ key ++ "\x60 = ") := by
    simp only [lacks_append_iff]
    exact ⟨⟨⟨⟨by decide, lacks_of_isName htable (by decide)⟩, by decide⟩,
      lacks_of_isName hkey (by decide)⟩, by decide⟩
  rw [selectByKey_eq htable hkey, ← placeholders_append hhead hkey]
  congr 1
  rw [← String.toList_inj]
  simp

include htable hkey in
theorem placeholders_deleteByKey : placeholders (deleteByKey table key) = [key] := by
  have hhead : Lacks ':' ("DELETE FROM \x60" ++ table ++ "\x60 WHERE \x60" ++ key ++ "\x60 = ") := by
    simp only [lacks_append_iff]
    exact ⟨⟨⟨⟨by decide, lacks_of_isName htable (by decide)⟩, by decide⟩,
      lacks_of_isName hkey (by decide)⟩, by decide⟩
  rw [deleteByKey_eq htable hkey, ← placeholders_append hhead hkey]
  congr 1
  rw [← String.toList_inj]
  simp

include htable in
theorem placeholders_insertion {columns : List String} (hcolumns : ∀ column ∈ columns, IsName column) :
    placeholders (insertion table columns) = columns := by
  have hidentifiers : Lacks ':' (", ".intercalate (columns.map identifier)) := by
    apply lacks_intercalate (by decide)
    rw [List.forall_mem_map]
    exact fun column hcolumn => lacks_colon_identifier (hcolumns column hcolumn)
  have hhead : Lacks ':'
      (insertInto table ++ " (" ++ ", ".intercalate (columns.map identifier) ++ ") VALUES (") := by
    simp only [insertInto, lacks_append_iff]
    exact ⟨⟨⟨⟨by decide, lacks_colon_identifier htable⟩, by decide⟩, hidentifiers⟩, by decide⟩
  have hjoined : placeholdersIn ((", ".intercalate (columns.map placeholder)).toList ++ ")".toList)
      = columns ++ placeholdersIn ")".toList := by
    apply placeholdersIn_joined
    . intro column hcolumn rest hrest
      rw [placeholder, String.toList_append]
      exact placeholdersIn_name (hcolumns column hcolumn) hrest
    . decide
  unfold placeholders insertion
  rw [String.toList_append, String.toList_append, List.append_assoc, placeholdersIn_text hhead, hjoined]
  simp [placeholdersIn, Text.pieces]

include htable hkey in
theorem placeholders_change {columns : List String} (hcolumns : ∀ column ∈ columns, IsName column) :
    placeholders (change table columns key) = columns ++ [key] := by
  have hhead : Lacks ':' (updateSet table ++ " ") := by
    simp only [updateSet, lacks_append_iff]
    exact ⟨⟨⟨by decide, lacks_colon_identifier htable⟩, by decide⟩, by decide⟩
  have hclause : Lacks ':' (" WHERE \x60" ++ key ++ "\x60 = ") := by
    simp only [lacks_append_iff]
    exact ⟨⟨by decide, lacks_of_isName hkey (by decide)⟩, by decide⟩
  have hlast : placeholdersIn (" " ++ keyClause key).toList = [key] := by
    rw [keyClause_eq hkey, ← placeholders_append hclause hkey, placeholders]
    congr 1
    simp
  have hjoined : placeholdersIn
      ((", ".intercalate (columns.map assignment)).toList ++ (" " ++ keyClause key).toList)
        = columns ++ placeholdersIn (" " ++ keyClause key).toList := by
    apply placeholdersIn_joined
    . intro column hcolumn rest hrest
      have hname := hcolumns column hcolumn
      have hchars : (assignment column).toList ++ rest
          = ("\x60" ++ column ++ "\x60 = ").toList ++ ':' :: (column.toList ++ rest) := by
        simp [assignment_eq hname]
      have hlacks : Lacks ':' ("\x60" ++ column ++ "\x60 = ") := by
        simp only [lacks_append_iff]
        exact ⟨⟨by decide, lacks_of_isName hname (by decide)⟩, by decide⟩
      rw [hchars, placeholdersIn_text hlacks, placeholdersIn_name hname hrest]
    . rw [String.toList_append]
      exact Text.endsName_cons (by decide) _
  have hchars : (change table columns key).toList
      = (updateSet table ++ " ").toList ++
        ((", ".intercalate (columns.map assignment)).toList ++ (" " ++ keyClause key).toList) := by
    simp [change]
  rw [placeholders, hchars, placeholdersIn_text hhead, hjoined, hlast]

end Statements

end TableGraph.Sql
