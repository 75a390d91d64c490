import TableGraph.DuckDb.Lookup

/-!
Where a name without a schema is found: in the schema `main` of the file if a table there has that name, and
otherwise nowhere but among the views of the session. Other schemas of the file are not looked through.
-/

namespace TableGraph
namespace DuckDb

namespace QualifiedName

structure IsPlain (name : String) : Prop where
  nonempty : name ≠ ""
  no_points : '.' ∉ name.toList
  no_quotes : '"' ∉ name.toList

instance (name : String) : Decidable (IsPlain name) :=
  decidable_of_iff (name ≠ "" ∧ '.' ∉ name.toList ∧ '"' ∉ name.toList)
    ⟨fun ⟨nonempty, no_points, no_quotes⟩ => ⟨nonempty, no_points, no_quotes⟩,
     fun ⟨nonempty, no_points, no_quotes⟩ => ⟨nonempty, no_points, no_quotes⟩⟩

theorem componentsFrom_plain (run : List Char) {cs : List Char} (hpoints : '.' ∉ cs) (hquotes : '"' ∉ cs) :
    componentsFrom .plain run cs = .ok [String.ofList (run.reverse ++ cs)] := by
  induction cs generalizing run with
  | nil => rw [componentsFrom, List.append_nil]
  | cons c cs ih =>
    rw [List.mem_cons, not_or] at hpoints hquotes
    rw [componentsFrom, if_neg (by simpa using Ne.symm hquotes.left), if_neg (by simpa using Ne.symm hpoints.left),
      ih _ hpoints.right hquotes.right, List.reverse_cons, List.append_assoc]
    rfl

theorem parse_of_isPlain {name : String} (hname : IsPlain name) : parse name = .ok ⟨[], name⟩ := by
  have hcomponents : componentsFrom .start [] name.toList = .ok [name] := by
    cases hlist : name.toList with
    | nil => exact absurd (String.toList_eq_nil_iff.mp hlist) hname.nonempty
    | cons c cs =>
      have hpoints := hname.no_points
      have hquotes := hname.no_quotes
      rw [hlist, List.mem_cons, not_or] at hpoints hquotes
      rw [componentsFrom, if_neg (by simpa using Ne.symm hquotes.left), if_neg (by simpa using Ne.symm hpoints.left),
        componentsFrom_plain _ hpoints.right hquotes.right, List.reverse_singleton, List.singleton_append, ← hlist,
        String.ofList_toList]
  have hnonempty : [name].any String.isEmpty = false := by
    simpa using hname.nonempty
  unfold parse
  rw [hcomponents]
  change (if [name].any String.isEmpty = true then _ else _) = _
  rw [hnonempty]
  rfl

end QualifiedName

theorem sameName_refl (name : String) : sameName name name = true :=
  beq_self_eq_true _

theorem sameName_comm (a b : String) : sameName a b = sameName b a := by
  unfold sameName
  rw [Bool.eq_iff_iff, beq_iff_eq, beq_iff_eq, eq_comm]

def sessionViews : List CatalogTable :=
  mainViews ++ catalogViews

namespace Catalog

open QualifiedName

structure IsDistinct (catalog : Catalog) : Prop where
  temp : sameName catalog.database "temp" = false
  system : sameName catalog.database "system" = false

def mainTables (catalog : Catalog) : List CatalogTable :=
  catalog.tables.filter (·.schema == "main")

/-- A file whose tables of `main` all stand for themselves. -/
structure IsOrdinary (catalog : Catalog) : Prop where
  distinct : catalog.IsDistinct
  names : catalog.mainTables.Pairwise fun a b => sameName a.name b.name = false
  plain : ∀ own ∈ catalog.mainTables, IsPlain own.name
  columns : ∀ own ∈ catalog.mainTables, own.columns ≠ []

variable {catalog : Catalog} {name : String} {table : CatalogTable}

theorem isNamed_temp (hdistinct : catalog.IsDistinct) (schema : String) :
    CatalogSchema.isNamed ⟨"temp", "main", []⟩ catalog.database schema = false := by
  unfold CatalogSchema.isNamed
  rw [sameName_comm, hdistinct.temp]
  rfl

theorem find?_ownSchemas_of_other {database : String} (hother : sameName catalog.database database = false)
    (schema : String) : catalog.ownSchemas.find? (·.isNamed database schema) = none := by
  unfold ownSchemas
  rw [List.find?_eq_none, List.forall_mem_map]
  intro name _
  unfold CatalogSchema.isNamed
  rw [hother]
  simp

theorem schemaAt?_main (hdistinct : catalog.IsDistinct) :
    catalog.schemaAt? (catalog.database, "main") = some ⟨catalog.database, "main", catalog.mainTables⟩ := by
  have hmain : CatalogSchema.isNamed ⟨catalog.database, "main", catalog.mainTables⟩ catalog.database "main" = true := by
    unfold CatalogSchema.isNamed
    rw [sameName_refl, sameName_refl]
    rfl
  unfold schemaAt? schemas ownSchemas
  rw [List.cons_append, List.find?_cons_of_neg (by simpa using isNamed_temp hdistinct "main"), List.eraseDups_cons,
    List.map_cons, List.cons_append]
  exact List.find?_cons_of_pos hmain

theorem schemaAt?_system (hdistinct : catalog.IsDistinct) (schema : String) :
    catalog.schemaAt? ("system", schema) = systemSchemas.find? (·.isNamed "system" schema) := by
  have htemp : CatalogSchema.isNamed ⟨"temp", "main", []⟩ "system" schema = false := by
    unfold CatalogSchema.isNamed
    rw [show sameName "temp" "system" = false by decide]
    rfl
  unfold schemaAt? schemas
  rw [List.cons_append, List.find?_cons_of_neg (by simpa using htemp), List.find?_append,
    find?_ownSchemas_of_other hdistinct.system]
  rfl

theorem filterMap_searchPath (hdistinct : catalog.IsDistinct) :
    catalog.searchPath.filterMap catalog.schemaAt?
      =
    [⟨"temp", "main", []⟩, ⟨catalog.database, "main", catalog.mainTables⟩, ⟨"system", "main", mainViews⟩,
      ⟨"system", "pg_catalog", catalogViews⟩] := by
  have htemp : catalog.schemaAt? ("temp", "main") = some ⟨"temp", "main", []⟩ := rfl
  change [("temp", "main"), (catalog.database, "main"), ("system", "main"), ("system", "pg_catalog")].filterMap
    catalog.schemaAt? = _
  rw [List.filterMap_cons_some htemp, List.filterMap_cons_some (schemaAt?_main hdistinct),
    List.filterMap_cons_some (schemaAt?_system hdistinct "main"),
    List.filterMap_cons_some (schemaAt?_system hdistinct "pg_catalog")]
  rfl

theorem findText_eq_ok_iff (hdistinct : catalog.IsDistinct) (hname : IsPlain name) :
    catalog.findText name = .ok table
      ↔
    (catalog.mainTables ++ sessionViews).find? (sameName name ·.name) = some table := by
  have hfound : (catalog.searchPath.filterMap catalog.schemaAt?).findSome? (·.table? name) =
      (catalog.mainTables ++ sessionViews).find? (sameName name ·.name) := by
    have htables : (catalog.searchPath.filterMap catalog.schemaAt?).flatMap (·.tables) =
        catalog.mainTables ++ sessionViews := by
      rw [filterMap_searchPath hdistinct]
      simp [sessionViews]
    rw [← htables, List.find?_flatMap]
    rfl
  unfold findText
  rw [parse_of_isPlain hname]
  change catalog.find ⟨[], name⟩ = _ ↔ _
  unfold find
  change (pure catalog.searchPath >>= _) = _ ↔ _
  rw [pure_bind]
  dsimp only
  rw [hfound]
  cases (catalog.mainTables ++ sessionViews).find? (sameName name ·.name) with
  | some found => simp [pure, Except.pure]
  | none => simp

theorem mem_of_findText (hdistinct : catalog.IsDistinct) (hname : IsPlain name)
    (hfound : catalog.findText name = .ok table) : table ∈ catalog.mainTables ∨ table ∈ sessionViews :=
  List.mem_append.mp (List.mem_of_find?_eq_some ((findText_eq_ok_iff hdistinct hname).mp hfound))

theorem findText_of_mem_mainTables (hdistinct : catalog.IsDistinct)
    (hnames : catalog.mainTables.Pairwise fun a b => sameName a.name b.name = false)
    (htable : table ∈ catalog.mainTables) (hname : IsPlain table.name) : catalog.findText table.name = .ok table := by
  obtain ⟨before, after, heq⟩ := List.append_of_mem htable
  have hfind : catalog.mainTables.find? (sameName table.name ·.name) = some table := by
    rw [heq, List.pairwise_append] at hnames
    refine List.find?_eq_some_iff_append.mpr ⟨sameName_refl _, before, after, heq, ?_⟩
    intro other hother
    rw [sameName_comm, hnames.right.right other hother table List.mem_cons_self]
    rfl
  rw [findText_eq_ok_iff hdistinct hname, List.find?_append, hfind]
  rfl

end Catalog
end DuckDb
end TableGraph
