import TableGraph.Proofs.Fault.Call
import TableGraph.Proofs.TableTypes

/-!
The faults of a table. Its name is checked first, then its key, then the names of its columns and those of its
references, each from left to right; a table is refused with the fault of the first check that fails.
-/

namespace TableGraph

namespace Fault

def ofName (name : String) (details : Details) : Fault where
  kind := .schema
  message := "'" ++ name ++ "' is not a valid GraphQL name"
  code := "SCHEMA_ERROR"
  details := details
  suggestions := [
    "Names must start with a letter or underscore",
    "Only letters, digits and underscores are allowed",
    "Rename the table or column"]
  correlation? := none

def ofKey (table : String) (columns : List String) : Fault where
  kind := .primaryKey
  message :=
    "Table '" ++ table ++ "' " ++
      (if columns.isEmpty then "has no primary key" else "has a composite primary key") ++
      "; expected exactly one primary key column"
  code := "PRIMARY_KEY_ERROR"
  details := [("primary_keys", .list (columns.map .text)), ("table", .text table)]
  suggestions := FaultKind.primaryKey.suggestions
  correlation? := none

end Fault

namespace Table

def IsKeyed (table : Table) : Prop :=
  (table.columns.filter (·.isPrimaryKey)).length = 1

instance (table : Table) : Decidable table.IsKeyed :=
  inferInstanceAs (Decidable (_ = 1))

variable {table : Table} {strict : Bool} {fault : Fault}

theorem isNone_keyColumn?_iff : table.keyColumn?.isNone = true ↔ ¬table.IsKeyed := by
  unfold keyColumn? keyColumns IsKeyed
  cases hprimary : table.columns.filter (·.isPrimaryKey) with
  | nil => simp
  | cons column others =>
    cases others with
    | nil => simp
    | cons other others => simp

/-! A check that fails has one fault, one that passes has none. -/

theorem textEntry_of_isAcceptedName {name : String} (hname : isAcceptedName name = true) (entry : String) :
    Report.textEntry entry (some name) = [(entry, .text name)] := by
  have hempty : ¬name.isEmpty = true := by
    intro hempty
    rw [String.isEmpty_iff.mp hempty] at hname
    cases hname
  unfold Report.textEntry
  exact if_neg hempty

theorem nameFault_eq (table : Table) (name : String) (column? : Option String) :
    table.nameFault name column?
      =
    .ofName name (Report.textEntry "table" (some table.name) ++ Report.textEntry "column" column?) := by
  have htable : Details.putAll [] (Report.textEntry "table" (some table.name))
      = Report.textEntry "table" (some table.name) :=
    Details.putAll_textEntry rfl (some table.name)
  have hcolumn : List.lookup "column" (Report.textEntry "table" (some table.name)) = none := by
    rw [← htable, Details.lookup_textEntry_of_ne _ (by decide)]
    rfl
  unfold nameFault Report.fault Report.entries
  dsimp only
  rw [Details.putAll_append, htable, Details.putAll_textEntry hcolumn]
  rfl

theorem head?_nameFaults (table : Table) (name : String) (column? : Option String) :
    (table.nameFaults name column?).head? = some fault
      ↔
    isAcceptedName name = false ∧ fault = table.nameFault name column? := by
  unfold nameFaults
  split
  . next hname => simp [hname]
  . next hname => simp [hname, eq_comm]

theorem head?_flatMap_nameFaults {α : Type} (table : Table) (items : List α) (nameOf : α → String)
    (column? : α → Option String) :
    (items.flatMap fun item => table.nameFaults (nameOf item) (column? item)).head? = some fault
      ↔
    ∃ before item after, items = before ++ item :: after ∧
      (∀ item ∈ before, isAcceptedName (nameOf item) = true) ∧ isAcceptedName (nameOf item) = false ∧
        fault = table.nameFault (nameOf item) (column? item) := by
  rw [List.head?_flatMap, List.findSome?_eq_some_iff]
  simp only [head?_nameFaults, List.head?_eq_none_iff, nameFaults_eq_nil_iff]
  constructor
  . rintro ⟨before, item, after, hitems, ⟨hitem, hfault⟩, hbefore⟩
    exact ⟨before, item, after, hitems, hbefore, hitem, hfault⟩
  . rintro ⟨before, item, after, hitems, hbefore, hitem, hfault⟩
    exact ⟨before, item, after, hitems, ⟨hitem, hfault⟩, hbefore⟩

theorem keyFaults_lenient (table : Table) : table.keyFaults false = [] := by
  rfl

theorem keyFaults_of_isKeyed (hkeyed : table.IsKeyed) (strict : Bool) : table.keyFaults strict = [] := by
  unfold keyFaults
  rw [if_neg]
  rw [Bool.and_eq_true, isNone_keyColumn?_iff]
  exact fun hboth => hboth.right hkeyed

theorem keyFaults_of_not_isKeyed (hname : isAcceptedName table.name = true) (hkeyed : ¬table.IsKeyed) :
    table.keyFaults true = [.ofKey table.name table.keyColumns] := by
  unfold keyFaults Report.fault Report.entries
  rw [Bool.true_and, if_pos (isNone_keyColumn?_iff.mpr hkeyed)]
  dsimp only
  rw [textEntry_of_isAcceptedName hname]
  rfl

theorem keyFaults_eq_nil_iff : table.keyFaults strict = [] ↔ strict = false ∨ table.IsKeyed := by
  unfold keyFaults
  rw [← Bool.not_eq_true strict, ← not_not (a := table.IsKeyed), ← isNone_keyColumn?_iff, ← not_and_or,
    ← Bool.and_eq_true]
  split
  . next hfails => simp [hfails]
  . next hpasses => simp [hpasses]

theorem head?_keyFaults (hname : isAcceptedName table.name = true) :
    (table.keyFaults strict).head? = some fault
      ↔
    strict = true ∧ ¬table.IsKeyed ∧ fault = .ofKey table.name table.keyColumns := by
  by_cases hkeyed : table.IsKeyed
  . simp [keyFaults_of_isKeyed hkeyed, hkeyed]
  . cases strict with
    | false => simp [keyFaults_lenient]
    | true => simp [keyFaults_of_not_isKeyed hname hkeyed, hkeyed, eq_comm]

theorem faults_strict_eq_nil_iff : table.faults true = [] ↔ table.faults false = [] ∧ table.IsKeyed := by
  simp only [faults_eq_nil_iff, keyFaults_eq_nil_iff, Bool.true_eq_false, false_or, true_or, and_true]
  constructor
  . rintro ⟨⟨⟨hname, hkeyed⟩, hcolumns⟩, hreferences⟩
    exact ⟨⟨⟨hname, hcolumns⟩, hreferences⟩, hkeyed⟩
  . rintro ⟨⟨⟨hname, hcolumns⟩, hreferences⟩, hkeyed⟩
    exact ⟨⟨⟨hname, hkeyed⟩, hcolumns⟩, hreferences⟩

theorem warnings_of_isKeyed (hkeyed : table.IsKeyed) (strict : Bool) : table.warnings strict = [] := by
  unfold warnings
  rw [if_neg]
  rw [Bool.and_eq_true, isNone_keyColumn?_iff]
  exact fun hwarned => hwarned.right hkeyed

/-! A table is refused with its first fault. -/

theorem types_eq_error_iff {options : TableOptions} :
    table.types options = .error fault ↔ (table.faults options.strict).head? = some fault := by
  unfold types
  split
  . next hfaults => simp [hfaults]
  . next hfaults => simp [hfaults]

inductive FirstFault (table : Table) (strict : Bool) : Fault → Prop where
  | name (hname : isAcceptedName table.name = false) :
      FirstFault table strict (.ofName table.name (Report.textEntry "table" (some table.name)))
  | key (hname : isAcceptedName table.name = true) (hstrict : strict = true) (hkeyed : ¬table.IsKeyed) :
      FirstFault table strict (.ofKey table.name table.keyColumns)
  | column (hname : isAcceptedName table.name = true) (hkeyed : strict = false ∨ table.IsKeyed)
      {before after : List Column} {column : Column} (hcolumns : table.columns = before ++ column :: after)
      (hbefore : ∀ earlier ∈ before, isAcceptedName earlier.name = true)
      (hcolumn : isAcceptedName column.name = false) :
      FirstFault table strict
        (.ofName column.name (("table", .text table.name) :: Report.textEntry "column" (some column.name)))
  | reference (hname : isAcceptedName table.name = true) (hkeyed : strict = false ∨ table.IsKeyed)
      (hcolumns : ∀ column ∈ table.columns, isAcceptedName column.name = true)
      {before after : List String} {reference : String}
      (hreferences : table.references = before ++ reference :: after)
      (hbefore : ∀ earlier ∈ before, isAcceptedName earlier = true)
      (hreference : isAcceptedName reference = false) :
      FirstFault table strict (.ofName reference [("table", .text table.name)])

theorem nameFault_table (table : Table) :
    table.nameFault table.name none = .ofName table.name (Report.textEntry "table" (some table.name)) := by
  rw [nameFault_eq]
  exact congrArg (Fault.ofName _) (List.append_nil _)

theorem nameFault_of_isAcceptedName (hname : isAcceptedName table.name = true) (name : String)
    (column? : Option String) :
    table.nameFault name column?
      =
    .ofName name (("table", .text table.name) :: Report.textEntry "column" column?) := by
  rw [nameFault_eq, textEntry_of_isAcceptedName hname]
  rfl

theorem head?_faults_iff : (table.faults strict).head? = some fault ↔ table.FirstFault strict fault := by
  unfold faults
  simp only [List.head?_append, Option.or_eq_some_iff, Option.or_eq_none_iff, List.head?_eq_none_iff,
    List.flatMap_eq_nil_iff, nameFaults_eq_nil_iff, keyFaults_eq_nil_iff, head?_nameFaults,
    head?_flatMap_nameFaults table _ Column.name fun column => some column.name,
    head?_flatMap_nameFaults table table.references (fun reference => reference) fun _ => none]
  constructor
  . rintro (((⟨hname, rfl⟩ | ⟨hname, hfault⟩) | ⟨⟨hname, hkeyed⟩, hcolumn⟩) |
      ⟨⟨⟨hname, hkeyed⟩, hcolumns⟩, hreference⟩)
    . rw [nameFault_table]
      exact .name hname
    . obtain ⟨hstrict, hkeyed, rfl⟩ := (head?_keyFaults hname).mp hfault
      exact .key hname hstrict hkeyed
    . obtain ⟨before, column, after, heq, hbefore, hcolumn, rfl⟩ := hcolumn
      rw [nameFault_of_isAcceptedName hname]
      exact .column hname hkeyed heq hbefore hcolumn
    . obtain ⟨before, reference, after, heq, hbefore, hreference, rfl⟩ := hreference
      rw [nameFault_of_isAcceptedName hname]
      exact .reference hname hkeyed hcolumns heq hbefore hreference
  . rintro (hname | ⟨hname, hstrict, hkeyed⟩ | ⟨hname, hkeyed, heq, hbefore, hcolumn⟩ |
      ⟨hname, hkeyed, hcolumns, heq, hbefore, hreference⟩)
    . exact .inl (.inl (.inl ⟨hname, (nameFault_table table).symm⟩))
    . exact .inl (.inl (.inr ⟨hname, (head?_keyFaults hname).mpr ⟨hstrict, hkeyed, rfl⟩⟩))
    . exact .inl (.inr ⟨⟨hname, hkeyed⟩, _, _, _, heq, hbefore, hcolumn,
        (nameFault_of_isAcceptedName hname _ _).symm⟩)
    . exact .inr ⟨⟨⟨hname, hkeyed⟩, hcolumns⟩, _, _, _, heq, hbefore, hreference,
        (nameFault_of_isAcceptedName hname _ none).symm⟩

theorem types_strict_eq_error (hfaults : table.faults false = []) (hkeyed : ¬table.IsKeyed)
    (overrides : Overrides) :
    table.types ⟨true, overrides⟩ = .error (.ofKey table.name table.keyColumns) := by
  obtain ⟨⟨⟨hname, -⟩, -⟩, -⟩ := faults_eq_nil_iff.mp hfaults
  rw [types_eq_error_iff, head?_faults_iff]
  exact .key hname rfl hkeyed

/--
A table is accepted exactly if all of its names are, and if it has one primary key column where one is asked
for. Else it is refused with the fault of the first check that fails: of its name, then of its key, then of
its columns and then of its references, both from left to right.
-/
theorem types_outcome (table : Table) (options : TableOptions) :
    ((∃ types, table.types options = .ok types)
      ↔
      isAcceptedName table.name = true ∧
      (∀ column ∈ table.columns, isAcceptedName column.name = true) ∧
      (∀ reference ∈ table.references, isAcceptedName reference = true) ∧
      (options.strict = false ∨ table.IsKeyed)) ∧
    ∀ fault, table.types options = .error fault ↔ table.FirstFault options.strict fault := by
  refine ⟨?_, ?_⟩
  . simp only [types_eq_ok_iff, exists_and_left, exists_eq, and_true, faults_eq_nil_iff, keyFaults_eq_nil_iff]
    constructor
    . rintro ⟨⟨⟨hname, hkeyed⟩, hcolumns⟩, hreferences⟩
      exact ⟨hname, hcolumns, hreferences, hkeyed⟩
    . rintro ⟨hname, hcolumns, hreferences, hkeyed⟩
      exact ⟨⟨⟨hname, hkeyed⟩, hcolumns⟩, hreferences⟩
  . intro fault
    rw [types_eq_error_iff, head?_faults_iff]

/-- The key is missed before the first column is looked at. -/
example :
    types ⟨"pairs", [⟨"first name", "TEXT", false, .primary⟩, ⟨"b", "INT", false, .primary⟩], ["2fa"]⟩ {}
      =
    .error (.ofKey "pairs" ["first name", "b"]) :=
  rfl

end Table
end TableGraph
