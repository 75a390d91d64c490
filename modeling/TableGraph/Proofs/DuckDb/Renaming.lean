import TableGraph.Proofs.DuckDb.Catalog

/-!
What an opened file tells under another name. Where no name in question mentions the database, neither what is found
nor what is told depends on how the database is called.
-/

namespace TableGraph
namespace DuckDb
namespace Catalog

open QualifiedName

def tablesAt? (catalog : Catalog) (place : String × String) : Option (List CatalogTable) :=
  (catalog.schemaAt? place).map (·.tables)

def ownTables? (catalog : Catalog) (schema : String) : Option (List CatalogTable) :=
  (("main" :: catalog.tables.map (·.schema)).eraseDups.find? (sameName · schema)).map fun name =>
    catalog.tables.filter (·.schema == name)

def sessionTables? (database schema : String) : Option (List CatalogTable) :=
  ((⟨"temp", "main", []⟩ :: systemSchemas : List CatalogSchema).find? (·.isNamed database schema)).map (·.tables)

section Places

variable {catalog : Catalog}

theorem tablesAt?_own (hdistinct : catalog.IsDistinct) (schema : String) :
    catalog.tablesAt? (catalog.database, schema) = catalog.ownTables? schema := by
  have hsystem : systemSchemas.find? (·.isNamed catalog.database schema) = none := by
    have hdatabases : ∀ found ∈ systemSchemas, found.database = "system" := by
      unfold systemSchemas
      simp
    rw [List.find?_eq_none]
    intro found hfound
    unfold CatalogSchema.isNamed
    rw [hdatabases found hfound, sameName_comm, hdistinct.system]
    simp
  have hnamed (name : String) :
      CatalogSchema.isNamed ⟨catalog.database, name, catalog.tables.filter (·.schema == name)⟩ catalog.database schema
        =
      sameName name schema := by
    unfold CatalogSchema.isNamed
    rw [sameName_refl, Bool.true_and]
  unfold tablesAt? schemaAt? schemas ownTables? ownSchemas
  rw [List.cons_append, List.find?_cons_of_neg (by simpa using isNamed_temp hdistinct schema), List.find?_append,
    hsystem, Option.or_none, List.find?_map, Option.map_map]
  simp only [Function.comp_def, hnamed]

theorem tablesAt?_other {database : String} (hother : sameName catalog.database database = false) (schema : String) :
    catalog.tablesAt? (database, schema) = sessionTables? database schema := by
  unfold tablesAt? sessionTables? schemaAt? schemas
  rw [List.cons_append, List.find?_cons, List.find?_append, find?_ownSchemas_of_other hother, Option.none_or,
    List.find?_cons]

end Places

def searched (catalog : Catalog) (qualifiers : List String) : Option (List (Option (List CatalogTable))) :=
  (catalog.places qualifiers).toOption.map (·.map catalog.tablesAt?)

theorem toOption_find (catalog : Catalog) (name : QualifiedName) :
    (catalog.find name).toOption
      =
    (catalog.searched name.qualifiers).bind fun held =>
      held.findSome? (·.bind (·.find? (sameName name.name ·.name))) := by
  have hplaces (places : List (String × String)) :
      (places.map catalog.tablesAt?).findSome? (·.bind (·.find? (sameName name.name ·.name)))
        =
      (places.filterMap catalog.schemaAt?).findSome? (·.table? name.name) := by
    induction places with
    | nil => rfl
    | cons place places ih =>
      rw [List.map_cons, List.findSome?_cons, ih]
      unfold tablesAt?
      cases hschema : catalog.schemaAt? place with
      | none => rw [List.filterMap_cons_none hschema]; rfl
      | some schema => rw [List.filterMap_cons_some hschema, List.findSome?_cons]; rfl
  unfold find searched
  rw [toOption_bind, Option.bind_map]
  congr 1
  funext places
  rw [Function.comp_apply, hplaces]
  dsimp only
  split
  . next hfound => exact hfound.symm
  . next hfound => exact hfound.symm

theorem toOption_findText (catalog : Catalog) (text : String) :
    (catalog.findText text).toOption = (parse text).toOption.bind fun name => (catalog.find name).toOption := by
  unfold findText
  cases parse text with
  | ok name => rfl
  | error fault => rfl

theorem toOption_describe (catalog : Catalog) (schema name : String) :
    (catalog.describe schema name).toOption
      =
    (catalog.findText name).toOption.bind fun found =>
      if found.columns.isEmpty then none else some (catalog.described schema name found) := by
  unfold describe
  cases catalog.findText name with
  | error failure => rfl
  | ok found =>
    dsimp only
    cases hcolumns : found.columns.isEmpty with
    | true => exact (if_pos hcolumns).symm
    | false => exact (if_neg (by simp [hcolumns])).symm

theorem ambiguity?_isSome (catalog : Catalog) (name : String) :
    (catalog.ambiguity? name).isSome
      =
    (catalog.isDatabase name && ((catalog.placesOfSchema name).map catalog.tablesAt?).any (·.isSome)) := by
  have hheld : Option.isSome ∘ catalog.tablesAt? = fun place => (catalog.schemaAt? place).isSome := by
    funext place
    exact Option.isSome_map
  unfold ambiguity?
  cases catalog.isDatabase name with
  | false => rfl
  | true => rw [if_pos rfl, Option.isSome_map, List.isSome_find?, List.any_map, hheld, Bool.true_and]

theorem searched_one (catalog : Catalog) (name : String) :
    catalog.searched [name]
      =
    if (catalog.ambiguity? name).isSome then none
    else
      some ((if catalog.isDatabase name then catalog.placesOfDatabase name else catalog.placesOfSchema name).map
        catalog.tablesAt?) := by
  unfold searched places
  dsimp only
  cases catalog.ambiguity? name with
  | none => rfl
  | some failure => rfl

theorem searched_two (catalog : Catalog) (database schema : String) :
    catalog.searched [database, schema]
      =
    some (if catalog.isDatabase database then [catalog.tablesAt? (database, schema)] else []) := by
  unfold searched places
  dsimp only
  split
  . rfl
  . rfl

/-! ## Copies -/

/-- Two catalogs of the same tables, each with a name of its own for the database. -/
structure Copies (catalog copy : Catalog) : Prop where
  tables : copy.tables = catalog.tables
  distinct : catalog.IsDistinct
  copyDistinct : copy.IsDistinct

structure Spares (catalog copy : Catalog) (name : String) : Prop where
  database : sameName name catalog.database = false
  copyDatabase : sameName name copy.database = false

variable {catalog copy : Catalog}

namespace Spares

variable {name : String} (hname : Spares catalog copy name)

include hname

theorem isDatabase_eq : copy.isDatabase name = catalog.isDatabase name := by
  unfold isDatabase databases
  simp only [List.any_cons, hname.database, hname.copyDatabase]

theorem placesOfDatabase_eq : copy.placesOfDatabase name = catalog.placesOfDatabase name := by
  unfold placesOfDatabase searchPath databases
  simp only [List.map_cons, List.map_nil, List.cons_append, List.nil_append, List.filter_cons, hname.database,
    hname.copyDatabase, Bool.false_eq_true, if_false]

theorem tablesAt?_eq {place : String × String} (hplace : sameName name place.1 = true) :
    copy.tablesAt? place = catalog.tablesAt? place := by
  have hother {database : String} (hdatabase : sameName name database = false) : sameName database place.1 = false := by
    rw [sameName_comm] at hdatabase
    unfold sameName at hplace hdatabase ⊢
    rwa [← eq_of_beq hplace]
  rw [← Prod.eta place, tablesAt?_other (hother hname.copyDatabase), tablesAt?_other (hother hname.database)]

theorem tablesAt?_placesOfDatabase :
    ∀ place ∈ catalog.placesOfDatabase name, copy.tablesAt? place = catalog.tablesAt? place :=
  fun _ hplace => hname.tablesAt?_eq (List.mem_filter.mp hplace).right

end Spares

namespace Copies

variable (hcopies : Copies catalog copy)

include hcopies

theorem ownTables?_eq (schema : String) : copy.ownTables? schema = catalog.ownTables? schema := by
  unfold ownTables?
  rw [hcopies.tables]

theorem tablesAt?_databases (schema : String) :
    (copy.databases.map (·, schema)).map copy.tablesAt?
      =
    (catalog.databases.map (·, schema)).map catalog.tablesAt? := by
  simp only [databases, List.map_cons, List.map_nil, tablesAt?_own hcopies.distinct, tablesAt?_own hcopies.copyDistinct,
    tablesAt?_other hcopies.distinct.temp, tablesAt?_other hcopies.copyDistinct.temp,
    tablesAt?_other hcopies.distinct.system, tablesAt?_other hcopies.copyDistinct.system, hcopies.ownTables?_eq]

theorem tablesAt?_searchPath : copy.searchPath.map copy.tablesAt? = catalog.searchPath.map catalog.tablesAt? := by
  unfold searchPath
  rw [List.map_append, List.map_append, hcopies.tablesAt?_databases, List.map_singleton, List.map_singleton,
    tablesAt?_other hcopies.distinct.system, tablesAt?_other hcopies.copyDistinct.system]

theorem tablesAt?_placesOfSchema (schema : String) :
    (copy.placesOfSchema schema).map copy.tablesAt? = (catalog.placesOfSchema schema).map catalog.tablesAt? := by
  unfold placesOfSchema
  split
  . exact hcopies.tablesAt?_databases schema
  . split
    . rw [List.map_singleton, List.map_singleton, tablesAt?_other hcopies.distinct.system,
        tablesAt?_other hcopies.copyDistinct.system]
    . rw [List.map_singleton, List.map_singleton, tablesAt?_own hcopies.distinct, tablesAt?_own hcopies.copyDistinct,
        hcopies.ownTables?_eq]

theorem ambiguity?_isSome_eq {name : String} (hname : Spares catalog copy name) :
    (copy.ambiguity? name).isSome = (catalog.ambiguity? name).isSome := by
  rw [ambiguity?_isSome, ambiguity?_isSome, hname.isDatabase_eq, hcopies.tablesAt?_placesOfSchema]

theorem searched_eq {qualifiers : List String} (hqualifiers : ∀ name ∈ qualifiers.head?, Spares catalog copy name) :
    copy.searched qualifiers = catalog.searched qualifiers := by
  rcases qualifiers with _ | ⟨first, _ | ⟨second, _ | ⟨third, rest⟩⟩⟩
  . exact congrArg some hcopies.tablesAt?_searchPath
  . have hfirst := hqualifiers first rfl
    rw [searched_one, searched_one, hcopies.ambiguity?_isSome_eq hfirst, hfirst.isDatabase_eq]
    split
    . rfl
    . split
      . rw [hfirst.placesOfDatabase_eq, List.map_congr_left hfirst.tablesAt?_placesOfDatabase]
      . rw [hcopies.tablesAt?_placesOfSchema]
  . have hfirst := hqualifiers first rfl
    have hplace : copy.tablesAt? (first, second) = catalog.tablesAt? (first, second) :=
      hfirst.tablesAt?_eq (sameName_refl first)
    rw [searched_two, searched_two, hfirst.isDatabase_eq, hplace]
  . rfl

theorem toOption_findText_eq {text : String}
    (htext : ∀ name, parse text = .ok name → ∀ qualifier ∈ name.qualifiers.head?, Spares catalog copy qualifier) :
    (copy.findText text).toOption = (catalog.findText text).toOption := by
  rw [toOption_findText, toOption_findText]
  apply Option.bind_congr
  intro name hname
  rw [toOption_find, toOption_find, hcopies.searched_eq (htext name (toOption_eq_some_iff.mp hname))]

theorem toOption_describe_eq (schema : String) {text : String}
    (htext : ∀ name, parse text = .ok name → ∀ qualifier ∈ name.qualifiers.head?, Spares catalog copy qualifier) :
    (copy.describe schema text).toOption = (catalog.describe schema text).toOption := by
  have hdescribed (found : CatalogTable) : copy.described schema text found = catalog.described schema text found := by
    unfold described foreignKeysOf referring
    rw [hcopies.tables]
  rw [toOption_describe, toOption_describe, hcopies.toOption_findText_eq htext]
  simp only [hdescribed]

theorem baseTables_eq (schema : String) : copy.baseTables schema = catalog.baseTables schema := by
  unfold baseTables
  rw [hcopies.tables]

end Copies

/-- A file whose database is called like nothing else: like no other database of a session, not like the schema that
tables are listed from, and like nothing before the first point of a table's name. -/
structure IsFree (catalog : Catalog) : Prop extends catalog.IsDistinct where
  views : sameName "information_schema" catalog.database = false
  unmentioned : ∀ table ∈ catalog.tables, ∀ name, parse table.name = .ok name →
    ∀ qualifier ∈ name.qualifiers.head?, sameName qualifier catalog.database = false

theorem IsFree.of_isPlain (hdistinct : catalog.IsDistinct)
    (hviews : sameName "information_schema" catalog.database = false)
    (hplain : ∀ table ∈ catalog.tables, IsPlain table.name) : catalog.IsFree where
  toIsDistinct := hdistinct
  views := hviews
  unmentioned := by
    intro table htable name hname qualifier hqualifier
    rw [parse_of_isPlain (hplain table htable)] at hname
    cases hname
    cases hqualifier

theorem listed_of_views (hviews : sameName "information_schema" catalog.database = false) (schema : String) :
    catalog.listed schema = .ok (catalog.baseTables schema) := by
  have hdatabase : catalog.isDatabase "information_schema" = false := by
    unfold isDatabase databases
    simp only [List.any_cons, hviews]
    decide
  unfold listed ambiguity?
  rw [hdatabase]
  rfl

/-- What a file tells of a schema does not depend on what its database is called. -/
theorem toOption_describeAll_eq (htables : copy.tables = catalog.tables) (hcatalog : catalog.IsFree)
    (hcopy : copy.IsFree) {database other : String} (hselect : catalog.select database = .ok ())
    (hselectCopy : copy.select other = .ok ()) (schema : String) :
    (copy.describeAll other schema).toOption = (catalog.describeAll database schema).toOption := by
  have hcopies : Copies catalog copy := ⟨htables, hcatalog.toIsDistinct, hcopy.toIsDistinct⟩
  unfold describeAll
  rw [hselect, hselectCopy, listed_of_views hcatalog.views, listed_of_views hcopy.views, hcopies.baseTables_eq]
  apply toOption_mapM_congr
  intro name hname
  obtain ⟨own, hown, -, -, rfl⟩ := mem_baseTables_iff.mp hname
  apply hcopies.toOption_describe_eq
  intro name hparse qualifier hqualifier
  exact
    ⟨hcatalog.unmentioned own hown name hparse qualifier hqualifier,
      hcopy.unmentioned own (htables ▸ hown) name hparse qualifier hqualifier⟩

/-! ## Names that do not serve -/

theorem select_eq_ok_iff {database : String} :
    catalog.select database = .ok () ↔ database = "" ∨ database = catalog.database := by
  unfold select answer
  by_cases hempty : database = ""
  . simp [hempty]
  . by_cases hdatabase : database = catalog.database
    . simp [hdatabase, Except.map]
    . simp [hempty, hdatabase, Except.map]

theorem listed_of_not_views (hviews : sameName "information_schema" catalog.database = true) (schema : String) :
    (catalog.listed schema).toOption = none := by
  have hdatabase : catalog.isDatabase "information_schema" = true := by
    unfold isDatabase databases
    simp [hviews]
  have hschema : (catalog.schemaAt? ("system", "information_schema")).isSome = true := by
    unfold schemaAt? schemas
    rw [List.find?_isSome]
    exact ⟨⟨"system", "information_schema", informationViews⟩, List.mem_append_right _ (by simp [systemSchemas]), rfl⟩
  have hplaces : catalog.placesOfSchema "information_schema" = [("system", "information_schema")] := rfl
  have hambiguous : (catalog.ambiguity? "information_schema").isSome = true := by
    rw [ambiguity?_isSome, hdatabase, hplaces, List.map_singleton, List.any_cons]
    unfold tablesAt?
    rw [Option.isSome_map, hschema]
    rfl
  obtain ⟨failure, hfailure⟩ := Option.isSome_iff_exists.mp hambiguous
  unfold listed
  rw [hfailure]
  rfl

theorem describeAll_of_not_selected {database : String} (hempty : database ≠ "") (hother : database ≠ catalog.database)
    (schema : String) : (catalog.describeAll database schema).toOption = none := by
  cases hselect : catalog.select database with
  | ok _ => exact absurd (select_eq_ok_iff.mp hselect) (not_or.mpr ⟨hempty, hother⟩)
  | error failure =>
    unfold describeAll
    rw [hselect]
    rfl

theorem describeAll_of_not_listed {schema : String} (hlisted : (catalog.listed schema).toOption = none)
    (database : String) : (catalog.describeAll database schema).toOption = none := by
  unfold describeAll
  rw [toOption_bind]
  cases catalog.select database with
  | ok _ =>
    change (catalog.listed schema >>= _).toOption = none
    rw [toOption_bind, hlisted]
    rfl
  | error failure => rfl

end Catalog
end DuckDb
end TableGraph
