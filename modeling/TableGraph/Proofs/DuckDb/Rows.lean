import TableGraph.DuckDb.Rows
import TableGraph.Proofs.Program

/-!
What rows say: those about the columns of a table each tell one column, with the common name of its type.
-/

namespace TableGraph

namespace DuckDb

variable {foreign : List String} {row : Row} {rows : List Row} {cells : List Cell} {column : Column}
  {columns : List Column}

theorem columnsOfRows_eq_mapM (foreign : List String) (rows : List Row) :
    columnsOfRows foreign rows = rows.mapM (columnOfRow foreign) := by
  induction rows with
  | nil => rfl
  | cons row rows ih =>
    rw [columnsOfRows, List.mapM_cons, ih]

theorem firstColumn_eq_mapM (rows : List Row) : firstColumn rows = rows.mapM firstCell := by
  induction rows with
  | nil => rfl
  | cons row rows ih =>
    rw [firstColumn, List.mapM_cons, ih]

theorem columnsOfRows_eq_ok_iff :
    columnsOfRows foreign rows = .ok columns
      ↔
    List.Forall₂ (fun row column => columnOfRow foreign row = .ok column) rows columns := by
  rw [columnsOfRows_eq_mapM, mapM_eq_ok_iff]

theorem firstColumn_eq_ok_iff :
    firstColumn rows = .ok cells ↔ List.Forall₂ (fun row cell => firstCell row = .ok cell) rows cells := by
  rw [firstColumn_eq_mapM, mapM_eq_ok_iff]

namespace Cell

theorem asText_eq_ok_iff {otherwise : String → Malformed} {cell : Cell} {value : String} :
    cell.asText otherwise = .ok value ↔ cell = .text value := by
  cases cell with
  | text => simp [asText, textIn?]
  | _ => simp [asText, textIn?]

theorem mapM_asText (otherwise : String → Malformed) (names : List String) :
    (names.map Json.text).mapM (asText otherwise) = .ok names := by
  rw [mapM_eq_ok_iff, List.forall₂_map_left_iff, List.forall₂_same]
  exact fun _ _ => asText_eq_ok_iff.mpr rfl

theorem namesIn_text (names : List String) : namesIn (names.map Json.text) = .ok names := by
  induction names with
  | nil => rfl
  | cons name names ih =>
    change (namesIn (names.map Json.text)).map (name :: ·) = _
    rw [ih]
    rfl

end Cell

/-- A row about a column: its name, its type, and whether a value is required. -/
structure Row.Tells (row : Row) (column : Column) (name sqlType : String) (required : Cell) : Prop where
  cells : ∃ index value primary, row = [index, .text name, .text sqlType, required, value, primary]
  name_eq : column.name = name
  sqlType_eq : column.sqlType = commonType sqlType
  nullable_eq : column.nullable = !required.isSet

theorem tells_of_columnOfRow (hcolumn : columnOfRow foreign row = .ok column) :
    ∃ name sqlType required, row.Tells column name sqlType required := by
  unfold columnOfRow at hcolumn
  split at hcolumn
  . next index nameCell typeCell required value primary =>
    obtain ⟨sqlType, htype, hcolumn⟩ := bind_eq_ok_iff.mp hcolumn
    obtain ⟨name, hname, hcolumn⟩ := bind_eq_ok_iff.mp hcolumn
    obtain rfl := Cell.asText_eq_ok_iff.mp htype
    obtain rfl := Cell.asText_eq_ok_iff.mp hname
    have heq := Except.ok.inj hcolumn
    refine ⟨name, sqlType, required, ⟨index, value, primary, rfl⟩, ?_, ?_, ?_⟩
    . rw [← heq]
    . rw [← heq]
    . rw [← heq]
  . cases hcolumn

theorem commonType_of_unnamed {sqlType : String} (hlookup : typeAliases.lookup (baseName sqlType) = none) :
    commonType sqlType = sqlType := by
  unfold commonType
  rw [hlookup]
  rfl

theorem commonType_of_lookup {sqlType common : String}
    (hlookup : typeAliases.lookup (baseName sqlType) = some common) : commonType sqlType = common := by
  unfold commonType
  rw [hlookup]
  rfl

end DuckDb
end TableGraph
