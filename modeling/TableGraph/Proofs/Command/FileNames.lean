import TableGraph.Proofs.Command.Tables
import TableGraph.Proofs.DuckDb.Build
import TableGraph.Proofs.DuckDb.Naming
import TableGraph.Proofs.DuckDb.Renaming

/-!
What commands owe to the name of a file. The reader is asked to begin with the stem of the file's name, which has to be
the name of the database. Where it is, and nothing else goes by that name, a command shows and writes what the contents
of the file tell; where it is not, every command is given up.
-/

namespace TableGraph
namespace Command

open DuckDb

def Effect.isResult : Effect → Bool
  | .show _ | .makeDirectory _ | .write _ => true
  | .report _ | .log _ => false

/-- What a command shows, makes and writes, and its exit code. -/
def Outcome.result (outcome : Outcome) : List Effect × Nat :=
  (outcome.effects.filter Effect.isResult, outcome.ending.exitCode)

theorem filter_isResult_shown (verbose : Bool) (log : Log) : (shown verbose log).filter Effect.isResult = [] := by
  unfold shown
  rw [List.filter_map]
  simp [Effect.isResult, Function.comp_def]

theorem filter_isResult_faultReport (fault : Fault) (verbose : Bool) :
    (faultReport fault verbose).filter Effect.isResult = [] := by
  unfold faultReport
  rw [List.filter_map]
  simp [Effect.isResult, Function.comp_def]

theorem result_after_shown (outcome : Outcome) (verbose : Bool) (log : Log) :
    (outcome.after (shown verbose log)).result = outcome.result := by
  unfold Outcome.result Outcome.after
  rw [List.filter_append, filter_isResult_shown, List.nil_append]

theorem result_abort {effects : List Effect} (heffects : effects.filter Effect.isResult = []) :
    (Outcome.abort effects).result = ([], 1) := by
  unfold Outcome.result Outcome.abort
  rw [List.filter_append, heffects]
  rfl

variable {workspace : Workspace} {id : String} {request : Request} {catalog : Catalog}

theorem database_of_openDatabase {name : String} (hopen : workspace.openDatabase name = .ok catalog) :
    catalog.database = databaseName (.ofString name) := by
  unfold Workspace.openDatabase at hopen
  dsimp only at hopen
  generalize workspace.files.named? name = entry at hopen
  rcases entry with _ | _ | _ | tables
  . cases hopen
  . cases hopen
  . cases hopen
  . rw [← Except.ok.inj hopen]

theorem result_withBuild (next : Build → Outcome) (hopen : workspace.openDatabase request.database = .ok catalog) :
    (withBuild workspace id request next).result
      =
    match (runFresh (Build.run (reader catalog.connection "main") { strict := request.strict } id
      (FilePath.ofString request.database).stem)).1.toOption with
    | some build => (next build).result
    | none => ([], 1) := by
  unfold withBuild
  rw [hopen]
  dsimp only
  generalize runFresh (Build.run (reader catalog.connection "main") { strict := request.strict } id
    (FilePath.ofString request.database).stem) = told
  obtain ⟨outcome, session⟩ := told
  cases outcome with
  | ok build => exact result_after_shown (next build) request.verbose session.log
  | error failure =>
    cases failure with
    | fault fault =>
      apply result_abort
      rw [List.filter_append, filter_isResult_shown, filter_isResult_faultReport]
      rfl
    | other className text =>
      change ((shown request.verbose session.log).filter Effect.isResult, 1) = _
      rw [filter_isResult_shown]
      rfl

theorem result_listTables (hopen : workspace.openDatabase request.database = .ok catalog) :
    (listTables workspace request).result
      =
    match (catalog.describeAll (FilePath.ofString request.database).stem request.schemaName).toOption with
    | some tables => ([.show (lines ("📊 Tables:" :: tables.map tableLine))], 0)
    | none => ([], 1) := by
  obtain ⟨log, -, heq⟩ := listTables_eq workspace request hopen
  rw [heq, result_after_shown]
  cases catalog.describeAll (FilePath.ofString request.database).stem request.schemaName with
  | ok tables => rfl
  | error failure => rfl

section NotDescribed

variable (hopen : workspace.openDatabase request.database = .ok catalog)
  (hdescribed : ∀ schema, (catalog.describeAll (FilePath.ofString request.database).stem schema).toOption = none)

include hopen hdescribed

theorem result_withBuild_of_not_described (next : Build → Outcome) :
    (withBuild workspace id request next).result = ([], 1) := by
  rw [result_withBuild next hopen]
  unfold runFresh
  rw [Build.toOption_run_eq_none (hdescribed "main")]

theorem result_of_not_described : (request.run workspace id).result = ([], 1) := by
  unfold Request.run
  split
  . exact result_withBuild_of_not_described hopen hdescribed showSchema
  . exact result_withBuild_of_not_described hopen hdescribed (writeBuild workspace request)
  . rw [result_listTables hopen, hdescribed]

end NotDescribed

section Described

variable {other : String} {copy : Catalog} (hopen : workspace.openDatabase request.database = .ok catalog)
  (hcopy : workspace.openDatabase other = .ok copy)
  (hdescribed : ∀ schema,
    (copy.describeAll (FilePath.ofString other).stem schema).toOption
      =
    (catalog.describeAll (FilePath.ofString request.database).stem schema).toOption)

include hopen hcopy hdescribed

theorem result_withBuild_of_described {next otherNext : Build → Outcome}
    (hnext : ∀ build (database : String), otherNext { build with database } = next build) :
    (withBuild workspace id { request with database := other } otherNext).result
      =
    (withBuild workspace id request next).result := by
  rw [result_withBuild next hopen, result_withBuild otherNext hcopy]
  unfold runFresh
  rw [Build.toOption_run_eq (hdescribed "main")]
  generalize Except.toOption _ = built
  cases built with
  | none => rfl
  | some build => exact congrArg Outcome.result (hnext build _)

theorem result_of_described :
    ({ request with database := other }.run workspace id).result = (request.run workspace id).result := by
  unfold Request.run
  dsimp only
  split
  . exact result_withBuild_of_described hopen hcopy hdescribed fun build database => rfl
  . exact result_withBuild_of_described hopen hcopy hdescribed fun build database => rfl
  . rw [result_listTables hopen, result_listTables hcopy, hdescribed]

end Described

/--
The reader begins with the stem of the file's name. Where that is the name of the database, which it is for a name of
one part that is not reserved, with one ending or none, the reader begins without a change of the connection's
database; otherwise it asks for another database, and what comes of that is up to the connection. An opened file has no
other database, and so every command on it is given up, with nothing shown or written. So it is if the database is
called like the schema that tables are listed from. But two files with the same tables whose names tell the names of
their databases serve every command alike, if nothing else goes by these names.
-/
theorem Request.run_named (workspace : Workspace) (id : String) (request : Request) {other : String}
    {catalog copy : Catalog} (hopen : workspace.openDatabase request.database = .ok catalog)
    (hcopy : workspace.openDatabase other = .ok copy) (htables : copy.tables = catalog.tables) :
    (∀ {κ : Type} (connection : Connection κ) (schema : String) (state : ReaderState κ),
      connection.answer .currentDatabase state.connection = .ok [[.text catalog.database]] →
        let path := FilePath.ofString request.database
        let asked := connection.after .currentDatabase state.connection
        let begun := (reader connection schema).begin path.stem state
        (begun.1.outcome, begun.2.connection)
          =
        if path.TellsDatabase then (.ok (), asked)
        else
          ((connection.answer (.use path.stem) asked).map fun _ => (), connection.after (.use path.stem) asked)) ∧
    (¬(FilePath.ofString request.database).TellsDatabase ∨
        sameName "information_schema" catalog.database = true →
      (request.run workspace id).result = ([], 1)) ∧
    ((FilePath.ofString request.database).TellsDatabase → (FilePath.ofString other).TellsDatabase →
      catalog.IsFree → copy.IsFree →
        ({ request with database := other }.run workspace id).result = (request.run workspace id).result) := by
  have hdatabase := database_of_openDatabase hopen
  have hcopyDatabase := database_of_openDatabase hcopy
  refine ⟨?_, ?_, ?_⟩
  . intro κ connection schema state hcurrent
    refine (begin_of_current connection schema _ state hcurrent).trans ?_
    by_cases hpath : (FilePath.ofString request.database).TellsDatabase
    . rw [if_pos hpath, if_pos (.inr (hdatabase ▸ FilePath.stem_of_tellsDatabase hpath))]
    . have hother := mt FilePath.tellsDatabase_of_stem hpath
      rw [if_neg hpath, if_neg (not_or.mpr ⟨FilePath.stem_ne_empty hpath, hdatabase ▸ hother⟩)]
  . rintro (hpath | hviews)
    . apply result_of_not_described hopen
      apply Catalog.describeAll_of_not_selected (FilePath.stem_ne_empty hpath)
      rw [hdatabase]
      exact mt FilePath.tellsDatabase_of_stem hpath
    . apply result_of_not_described hopen
      exact fun schema => Catalog.describeAll_of_not_listed (Catalog.listed_of_not_views hviews schema) _
  . intro hpath hotherPath hfree hcopyFree
    apply result_of_described hopen hcopy
    rw [FilePath.stem_of_tellsDatabase hpath, FilePath.stem_of_tellsDatabase hotherPath, ← hdatabase, ← hcopyDatabase]
    have hselect (catalog : Catalog) : catalog.select catalog.database = .ok () :=
      Catalog.select_eq_ok_iff.mpr (.inr rfl)
    exact Catalog.toOption_describeAll_eq htables hfree hcopyFree (hselect catalog) (hselect copy)

def heldTables : List CatalogTable :=
  [{ name := "t", columns := [{ name := "id", type := "INTEGER" }], primaryKey := ["id"] }]

def heldCopies : Workspace where
  directory := "/data"
  files := [
    (FilePath.ofString "shop.duckdb", .database heldTables),
    (FilePath.ofString "store.duckdb", .database heldTables),
    (FilePath.ofString "shop.v1.duckdb", .database heldTables)]

def buildOf (database : String) : Request where
  verb := .build
  database
  output := defaultOutput
  strict := true
  verbose := false
  schemaName := "main"

theorem Request.run_named_copies :
    ((buildOf "store.duckdb").run heldCopies "b1").result = ((buildOf "shop.duckdb").run heldCopies "b1").result ∧
    ((buildOf "shop.duckdb").run heldCopies "b1").ending.exitCode = 0 := by
  have hopen : heldCopies.openDatabase "shop.duckdb" = .ok ⟨"shop", heldTables⟩ := rfl
  have hcopy : heldCopies.openDatabase "store.duckdb" = .ok ⟨"store", heldTables⟩ := rfl
  have hfree : Catalog.IsFree ⟨"shop", heldTables⟩ := .of_isPlain ⟨by decide, by decide⟩ (by decide) (by decide)
  have hcopyFree : Catalog.IsFree ⟨"store", heldTables⟩ := .of_isPlain ⟨by decide, by decide⟩ (by decide) (by decide)
  obtain ⟨-, -, hsame⟩ := Request.run_named heldCopies "b1" (buildOf "shop.duckdb") hopen hcopy rfl
  exact ⟨hsame (by decide +kernel) (by decide +kernel) hfree hcopyFree, by decide +kernel⟩

/-- Two copies hold one database, and yet commands serve for the one and are given up for the other. -/
theorem run_renamed :
    heldCopies.openDatabase "shop.duckdb" = .ok ⟨"shop", heldTables⟩ ∧
    heldCopies.openDatabase "shop.v1.duckdb" = .ok ⟨"shop", heldTables⟩ ∧
    ∀ verb ∈ ["schema", "build", "tables"],
      (run heldCopies "b1" [verb, "shop.duckdb"]).ending.exitCode = 0 ∧
      (run heldCopies "b1" [verb, "shop.v1.duckdb"]).ending.exitCode = 1 :=
  ⟨rfl, rfl, by decide +kernel⟩

end Command
end TableGraph
