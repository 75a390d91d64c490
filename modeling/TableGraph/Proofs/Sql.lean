import TableGraph.Proofs.Text.Lacks
import TableGraph.Proofs.Text.Trim
import TableGraph.Sql

/-!
The texts of statements. A statement has no characters but those of its names and its own words. It is not
trimmed if its key is a GraphQL name, and it is given in full if its table is one too.
-/

namespace TableGraph

namespace Text

theorem isBlank_of_isNameChar {c : Char} (hchar : isNameChar c = true) : isBlank c = false := by
  obtain ⟨hlow, hhigh⟩ := toNat_of_isNameChar hchar
  unfold isBlank
  simp only [Bool.or_eq_false_iff, Bool.and_eq_false_iff, decide_eq_false_iff_not, beq_eq_false_iff_ne]
  omega

end Text

namespace Sql

section Characters

variable {c : Char}

theorem lacks_identifier {name : String} (hname : Lacks c name) (hquote : c ≠ '\x60') :
    Lacks c (identifier name) := by
  unfold Lacks identifier
  rw [String.toList_ofList, List.mem_append, List.mem_cons, List.mem_flatMap, List.mem_singleton]
  rintro ((heq | ⟨d, hd, hmem⟩) | heq)
  . exact hquote heq
  . have hcd : c = d := by
      unfold identifierChar at hmem
      split at hmem
      . simpa using hmem
      . simpa using hmem
    exact hname (hcd ▸ hd)
  . exact hquote heq

theorem lacks_statement {text : String} (htext : Lacks c text) : Lacks c (statement text) := by
  unfold Lacks statement
  rw [String.toList_ofList]
  exact fun hmem => htext (Text.mem_of_mem_trim hmem)

end Characters

/-! No statement has a dot in it. -/

section Dots

variable {table key column : String}

theorem dotless_placeholder (hcolumn : Lacks '.' column) : Lacks '.' (placeholder column) :=
  lacks_append_iff.mpr ⟨by decide, hcolumn⟩

theorem dotless_equation (hcolumn : Lacks '.' column) : Lacks '.' (equation column) := by
  unfold equation marker placeholder
  rw [lacks_append_iff, lacks_append_iff]
  refine ⟨⟨lacks_identifier hcolumn (by decide), by decide⟩, ?_⟩
  split
  . decide
  . exact dotless_placeholder hcolumn

theorem dotless_selectAll (htable : Lacks '.' table) : Lacks '.' (selectAll table) := by
  apply lacks_statement
  exact lacks_append_iff.mpr ⟨by decide, lacks_identifier htable (by decide)⟩

theorem dotless_selectByKey (htable : Lacks '.' table) (hkey : Lacks '.' key) :
    Lacks '.' (selectByKey table key) := by
  apply lacks_statement
  rw [lacks_append_iff, lacks_append_iff, lacks_append_iff]
  exact ⟨⟨⟨by decide, lacks_identifier htable (by decide)⟩, by decide⟩, dotless_equation hkey⟩

theorem dotless_deleteByKey (htable : Lacks '.' table) (hkey : Lacks '.' key) :
    Lacks '.' (deleteByKey table key) := by
  apply lacks_statement
  rw [lacks_append_iff, lacks_append_iff, lacks_append_iff]
  exact ⟨⟨⟨by decide, lacks_identifier htable (by decide)⟩, by decide⟩, dotless_equation hkey⟩

theorem dotless_keyClause (hkey : Lacks '.' key) : Lacks '.' (keyClause key) :=
  lacks_append_iff.mpr ⟨by decide, lacks_statement (dotless_equation hkey)⟩

theorem dotless_insertInto (htable : Lacks '.' table) : Lacks '.' (insertInto table) :=
  lacks_append_iff.mpr ⟨by decide, lacks_identifier htable (by decide)⟩

theorem dotless_updateSet (htable : Lacks '.' table) : Lacks '.' (updateSet table) := by
  unfold updateSet
  rw [lacks_append_iff, lacks_append_iff]
  exact ⟨⟨by decide, lacks_identifier htable (by decide)⟩, by decide⟩

end Dots

/-! Nothing is lost at the ends of a statement for a key that is a GraphQL name, whatever the table is called. -/

section Untrimmed

variable {key : String} (hkey : IsName key)

include hkey in
theorem marker_eq : marker key = placeholder key := by
  unfold marker
  rw [if_neg]
  simpa using hkey.ne_empty

include hkey in
theorem equation_eq_assignment : equation key = assignment key := by
  rw [equation, marker_eq hkey, assignment]

theorem statement_of_ends {text : String} (hfirst : ∀ c, text.toList.head? = some c → Text.isBlank c = false)
    (hlast : ∀ c, text.toList.getLast? = some c → Text.isBlank c = false) : statement text = text := by
  unfold statement
  rw [Text.trim_eq_self hfirst hlast, String.ofList_toList]

include hkey in
theorem isBlank_last_assignment (head : String) {c : Char}
    (hc : (head ++ assignment key).toList.getLast? = some c) : Text.isBlank c = false := by
  have hchars : (head ++ assignment key).toList = (head ++ identifier key ++ " = :").toList ++ key.toList := by
    simp [assignment, placeholder]
  rw [hchars, List.getLast?_append_of_ne_nil _ (by simpa using hkey.ne_empty)] at hc
  exact Text.isBlank_of_isNameChar (hkey.isNameChar (List.mem_of_getLast? hc))

theorem selectAll_eq_append (table : String) : selectAll table = "SELECT * FROM " ++ identifier table := by
  unfold selectAll
  apply statement_of_ends
  . intro c hc
    obtain rfl : 'S' = c := by simpa using hc
    decide
  . intro c hc
    have hchars : ("SELECT * FROM " ++ identifier table).toList
        = ("SELECT * FROM \x60".toList ++ table.toList.flatMap identifierChar) ++ ['\x60'] := by
      simp [identifier]
    rw [hchars, List.getLast?_concat] at hc
    obtain rfl : '\x60' = c := by simpa using hc
    decide

include hkey in
theorem selectByKey_eq_append (table : String) :
    selectByKey table key = "SELECT * FROM " ++ identifier table ++ " WHERE " ++ assignment key := by
  unfold selectByKey
  rw [equation_eq_assignment hkey]
  apply statement_of_ends
  . intro c hc
    obtain rfl : 'S' = c := by simpa using hc
    decide
  . exact fun _ => isBlank_last_assignment hkey _

include hkey in
theorem deleteByKey_eq_append (table : String) :
    deleteByKey table key = "DELETE FROM " ++ identifier table ++ " WHERE " ++ assignment key := by
  unfold deleteByKey
  rw [equation_eq_assignment hkey]
  apply statement_of_ends
  . intro c hc
    obtain rfl : 'D' = c := by simpa using hc
    decide
  . exact fun _ => isBlank_last_assignment hkey _

include hkey in
theorem keyClause_eq_append : keyClause key = "WHERE " ++ assignment key := by
  unfold keyClause
  rw [equation_eq_assignment hkey, statement_of_ends]
  . intro c hc
    obtain rfl : '\x60' = c := by simpa [assignment, identifier] using hc
    decide
  . intro c hc
    rw [← String.empty_append (s := assignment key)] at hc
    exact isBlank_last_assignment hkey "" hc

end Untrimmed

section Names

variable {table key : String}

theorem flatMap_identifierChar {cs : List Char} (hquote : '\x60' ∉ cs) :
    cs.flatMap identifierChar = cs := by
  induction cs with
  | nil => rfl
  | cons c rest ih =>
    rw [List.mem_cons, not_or] at hquote
    rw [List.flatMap_cons, ih hquote.right, identifierChar, if_neg]
    . rfl
    . simpa using Ne.symm hquote.left

theorem identifier_eq {name : String} (hname : Lacks '\x60' name) :
    identifier name = "\x60" ++ name ++ "\x60" := by
  unfold identifier
  rw [flatMap_identifierChar hname, ← String.toList_inj, String.toList_ofList]
  simp

theorem assignment_eq {column : String} (hcolumn : IsName column) :
    assignment column = "\x60" ++ column ++ "\x60 = :" ++ column := by
  rw [assignment, identifier_eq (lacks_of_isName hcolumn (by decide)), ← String.toList_inj]
  simp [placeholder]

theorem keyClause_eq (hkey : IsName key) : keyClause key = "WHERE \x60" ++ key ++ "\x60 = :" ++ key := by
  rw [keyClause_eq_append hkey, assignment_eq hkey, ← String.toList_inj]
  simp

theorem selectByKey_eq (htable : IsName table) (hkey : IsName key) :
    selectByKey table key = "SELECT * FROM \x60" ++ table ++ "\x60 WHERE \x60" ++ key ++ "\x60 = :" ++ key := by
  rw [selectByKey_eq_append hkey, identifier_eq (lacks_of_isName htable (by decide)), assignment_eq hkey,
    ← String.toList_inj]
  simp

theorem deleteByKey_eq (htable : IsName table) (hkey : IsName key) :
    deleteByKey table key = "DELETE FROM \x60" ++ table ++ "\x60 WHERE \x60" ++ key ++ "\x60 = :" ++ key := by
  rw [deleteByKey_eq_append hkey, identifier_eq (lacks_of_isName htable (by decide)), assignment_eq hkey,
    ← String.toList_inj]
  simp

theorem selectAll_eq (htable : IsName table) : selectAll table = "SELECT * FROM \x60" ++ table ++ "\x60" := by
  rw [selectAll_eq_append, identifier_eq (lacks_of_isName htable (by decide)), ← String.toList_inj]
  simp

end Names

/-! Statements for GraphQL names are written as they are. -/

section Plain

variable {table column : String} (htable : IsName table) (hcolumn : IsName column)

include hcolumn in
theorem plain_identifier : Plain (identifier column) := by
  rw [identifier_eq (lacks_of_isName hcolumn (by decide)), plain_append_iff, plain_append_iff]
  exact ⟨⟨by decide, plain_of_isName hcolumn⟩, by decide⟩

include hcolumn in
theorem plain_placeholder : Plain (placeholder column) :=
  plain_append_iff.mpr ⟨by decide, plain_of_isName hcolumn⟩

include hcolumn in
theorem plain_assignment : Plain (assignment column) := by
  unfold assignment
  rw [plain_append_iff, plain_append_iff]
  exact ⟨⟨plain_identifier hcolumn, by decide⟩, plain_placeholder hcolumn⟩

include hcolumn in
theorem plain_keyClause : Plain (keyClause column) := by
  rw [keyClause_eq hcolumn]
  simp only [plain_append_iff]
  exact ⟨⟨⟨by decide, plain_of_isName hcolumn⟩, by decide⟩, plain_of_isName hcolumn⟩

include htable in
theorem plain_insertInto : Plain (insertInto table) :=
  plain_append_iff.mpr ⟨by decide, plain_identifier htable⟩

include htable in
theorem plain_updateSet : Plain (updateSet table) := by
  unfold updateSet
  rw [plain_append_iff, plain_append_iff]
  exact ⟨⟨by decide, plain_identifier htable⟩, by decide⟩

include htable in
theorem plain_selectAll : Plain (selectAll table) := by
  rw [selectAll_eq htable, plain_append_iff, plain_append_iff]
  exact ⟨⟨by decide, plain_of_isName htable⟩, by decide⟩

include htable hcolumn in
theorem plain_selectByKey : Plain (selectByKey table column) := by
  rw [selectByKey_eq htable hcolumn]
  simp only [plain_append_iff]
  exact ⟨⟨⟨⟨⟨by decide, plain_of_isName htable⟩, by decide⟩, plain_of_isName hcolumn⟩, by decide⟩,
    plain_of_isName hcolumn⟩

include htable hcolumn in
theorem plain_deleteByKey : Plain (deleteByKey table column) := by
  rw [deleteByKey_eq htable hcolumn]
  simp only [plain_append_iff]
  exact ⟨⟨⟨⟨⟨by decide, plain_of_isName htable⟩, by decide⟩, plain_of_isName hcolumn⟩, by decide⟩,
    plain_of_isName hcolumn⟩

end Plain

section Brackets

variable {c : Char} {column : String} (hcolumn : IsName column) (hc : c ∈ ['[', ']'])

include hcolumn hc

theorem lacks_bracket : Lacks c column := by
  apply lacks_of_isName hcolumn
  rcases List.mem_pair.mp hc with rfl | rfl <;> decide

theorem lacks_bracket_identifier : Lacks c (identifier column) := by
  apply lacks_identifier (lacks_bracket hcolumn hc)
  rcases List.mem_pair.mp hc with rfl | rfl <;> decide

theorem lacks_bracket_placeholder : Lacks c (placeholder column) := by
  apply lacks_append_iff.mpr ⟨_, lacks_bracket hcolumn hc⟩
  rcases List.mem_pair.mp hc with rfl | rfl <;> decide

theorem lacks_bracket_assignment : Lacks c (assignment column) := by
  unfold assignment
  rw [lacks_append_iff, lacks_append_iff]
  refine ⟨⟨lacks_bracket_identifier hcolumn hc, ?_⟩, lacks_bracket_placeholder hcolumn hc⟩
  rcases List.mem_pair.mp hc with rfl | rfl <;> decide

end Brackets

/-! The statements that are finished when they are requested, for the columns that are given. -/

def insertion (table : String) (columns : List String) : String :=
  insertInto table ++ " (" ++ ", ".intercalate (columns.map identifier) ++ ") VALUES (" ++
    ", ".intercalate (columns.map placeholder) ++ ")"

def change (table : String) (columns : List String) (key : String) : String :=
  updateSet table ++ " " ++ ", ".intercalate (columns.map assignment) ++ " " ++ keyClause key

section Finished

variable {table key : String} {columns : List String}
  (htable : IsName table) (hkey : IsName key) (hcolumns : ∀ column ∈ columns, IsName column)

include htable hcolumns in
theorem insertion_eq :
    insertion table columns
      =
    "INSERT INTO \x60" ++ table ++ "\x60 (" ++
      ", ".intercalate (columns.map fun column => "\x60" ++ column ++ "\x60") ++ ") VALUES (" ++
      ", ".intercalate (columns.map fun column => ":" ++ column) ++ ")" := by
  have hidentifiers : columns.map identifier = columns.map fun column => "\x60" ++ column ++ "\x60" := by
    apply List.map_congr_left
    intro column hcolumn
    exact identifier_eq (lacks_of_isName (hcolumns column hcolumn) (by decide))
  have hplaceholders : columns.map placeholder = columns.map fun column => ":" ++ column := rfl
  rw [insertion, insertInto, identifier_eq (lacks_of_isName htable (by decide)), hidentifiers, hplaceholders,
    ← String.toList_inj]
  simp

include htable hkey hcolumns in
theorem change_eq :
    change table columns key
      =
    "UPDATE \x60" ++ table ++ "\x60 SET " ++
      ", ".intercalate (columns.map fun column => "\x60" ++ column ++ "\x60 = :" ++ column) ++
      " WHERE \x60" ++ key ++ "\x60 = :" ++ key := by
  have hassignments : columns.map assignment
      = columns.map fun column => "\x60" ++ column ++ "\x60 = :" ++ column := by
    apply List.map_congr_left
    intro column hcolumn
    exact assignment_eq (hcolumns column hcolumn)
  rw [change, updateSet, identifier_eq (lacks_of_isName htable (by decide)), hassignments, keyClause_eq hkey,
    ← String.toList_inj]
  simp

end Finished

end Sql
end TableGraph
