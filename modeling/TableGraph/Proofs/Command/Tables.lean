import TableGraph.Command.Run
import TableGraph.Proofs.DuckDb.Catalog

/-!
What the command that lists tables tells. The tables are those of the requested schema, with their foreign keys and
references there. The columns and the key of each are those of the table that its name alone stands for, which is
never one of another schema than `main`.
-/

namespace TableGraph
namespace Command

open DuckDb Reading

variable {catalog : Catalog} {schema : String}

theorem readTable_comesTo (catalog : Catalog) (schema name : String) :
    ComesTo (readTable (reader catalog.connection schema) name) (catalog.describe schema name) := by
  have htable : catalog.describe schema name =
      ((catalog.describe schema name).map (·.columns) >>= fun columns =>
        (Except.ok (catalog.referring schema name) >>= fun references =>
          .ok (Table.mk name columns references) : Except Failure Table)) := by
    unfold Catalog.describe
    cases catalog.findText name with
    | error failure => rfl
    | ok found =>
      dsimp only
      split
      . rfl
      . rfl
  rw [htable]
  apply (ComesTo.call fun state => catalog.reader_describeTable schema name state).bind
  intro columns
  apply (ComesTo.call fun state => catalog.reader_referencingTables schema name state).bind
  intro references
  exact .pure _

theorem readEach_comesTo (catalog : Catalog) (schema : String) (names : List String) :
    ComesTo (readEach (reader catalog.connection schema) names) (names.mapM (catalog.describe schema)) := by
  induction names with
  | nil => exact .pure []
  | cons name names ih =>
    rw [List.mapM_cons]
    apply (readTable_comesTo catalog schema name).bind
    intro table
    apply ih.bind
    intro tables
    exact .pure _

theorem readTables_comesTo (catalog : Catalog) (schema database : String) :
    ComesTo (readTables (reader catalog.connection schema) database) (catalog.describeAll database schema) := by
  apply (ComesTo.call fun state => catalog.reader_begin schema state database).bind
  intro _
  refine ComesTo.thenFinally ?_ (.call fun _ => rfl)
  apply (ComesTo.call fun state => catalog.reader_listTables schema state database).bind
  exact readEach_comesTo catalog schema

/-! The lines that the command logs are those of the reader. -/

section Writes

variable {p : LogLine → Prop} {reader : Reader σ} (hreader : ∀ line, reader.Logs line → p line)

include hreader

theorem readEach_writes (names : List String) : Writes p (readEach reader names) := by
  induction names with
  | nil => exact .pure []
  | cons name names ih =>
    refine Writes.bind ?_ fun table => ih.bind fun tables => .pure _
    refine Writes.bind (.call fun state line hline => hreader line ⟨.describeTable name, state, hline⟩) ?_
    intro columns
    refine Writes.bind (.call fun state line hline => hreader line ⟨.referencingTables name, state, hline⟩) ?_
    exact fun references => .pure _

theorem readTables_writes (database : String) : Writes p (readTables reader database) := by
  refine Writes.bind (.call fun state line hline => hreader line ⟨.begin database, state, hline⟩) fun _ => ?_
  refine Writes.thenFinally ?_ (.call fun state line hline => hreader line ⟨.finish, state, hline⟩)
  refine Writes.bind (.call fun state line hline => hreader line ⟨.listTables database, state, hline⟩) ?_
  exact readEach_writes hreader

end Writes

theorem listTables_eq (workspace : Workspace) (request : Request)
    (hopen : workspace.openDatabase request.database = .ok catalog) :
    ∃ log : Log,
      (∀ line ∈ log, line.level = .debug) ∧
      listTables workspace request
        =
      Outcome.after
        (match catalog.describeAll (FilePath.ofString request.database).stem request.schemaName with
        | .ok tables => ⟨[.show (lines ("📊 Tables:" :: tables.map tableLine))], .done⟩
        | .error failure => .abort [.report ("❌ Error: " ++ failure.text ++ "\n")])
        (shown request.verbose log) := by
  have hreader : ∀ line, (reader catalog.connection request.schemaName).Logs line → line.level = .debug :=
    fun _ => reader_logs
  have houtcome := readTables_comesTo catalog request.schemaName (FilePath.ofString request.database).stem
    { state := { connection := () } }
  obtain ⟨log, hlog, hdebug⟩ := readTables_writes hreader (FilePath.ofString request.database).stem
    { state := { connection := () } }
  refine ⟨log, hdebug, ?_⟩
  unfold listTables runFresh
  rw [hopen]
  dsimp only
  generalize (readTables _ _).run _ = result at houtcome hlog ⊢
  obtain ⟨outcome, session⟩ := result
  change outcome = _ at houtcome
  change session.log = log at hlog
  dsimp only
  rw [houtcome, hlog]
  cases catalog.describeAll (FilePath.ofString request.database).stem request.schemaName with
  | ok tables => rfl
  | error failure =>
    unfold Outcome.after Outcome.abort
    rw [← List.append_assoc]

/-- What is told of a table: its columns and key are those of the table that its name alone stands for, and its
references are in a schema. -/
structure Tells (catalog : Catalog) (schema : String) (table : Table) (found : CatalogTable) : Prop where
  stands : catalog.findText table.name = .ok found
  columns : table.columns.length = found.columns.length
  keyColumns : table.keyColumns = (found.columns.filter found.isKey).map (·.name)
  references : table.references = catalog.referring schema table.name

theorem tells_of_describe {name : String} {table : Table} (htable : catalog.describe schema name = .ok table) :
    ∃ found, Tells catalog schema table found := by
  obtain ⟨found, hfound, -, rfl⟩ := Catalog.describe_eq_ok_iff.mp htable
  exact ⟨found, hfound, List.length_map _, Catalog.keyColumns_described, rfl⟩

/--
The command lists the tables of an opened file, or is given up with the text of what failed; it logs nothing but what
verbose logs show. It lists each base table of the requested schema, in the order of their names, with the tables of
the schema that refer to it. But the columns and the key are those of the table that the name alone stands for. For
a plain name this is never a table of another schema than `main`: it is the one of `main`, if that has the name,
whichever schema was requested, and else a view of the session. So tables of `main` are told as they are, and those
of an ordinary file always can be.
-/
theorem listTables_tells (workspace : Workspace) (request : Request)
    (hopen : workspace.openDatabase request.database = .ok catalog) :
    ∃ log : Log,
      (∀ line ∈ log, line.level = .debug) ∧
      listTables workspace request
        =
      Outcome.after
        (match catalog.describeAll (FilePath.ofString request.database).stem request.schemaName with
        | .ok tables => ⟨[.show (lines ("📊 Tables:" :: tables.map tableLine))], .done⟩
        | .error failure => .abort [.report ("❌ Error: " ++ failure.text ++ "\n")])
        (shown request.verbose log) ∧
      (∀ tables,
        catalog.describeAll (FilePath.ofString request.database).stem request.schemaName = .ok tables →
          tables.map (·.name) = catalog.baseTables request.schemaName ∧
          ∀ table ∈ tables, ∃ own ∈ catalog.tables, ∃ found,
            own.schema = request.schemaName ∧ own.isView = false ∧ own.name = table.name ∧
            Tells catalog request.schemaName table found ∧
            (catalog.IsDistinct → QualifiedName.IsPlain table.name →
              (found ∈ catalog.mainTables ∨ found ∈ sessionViews) ∧
              (catalog.mainTables.Pairwise (fun a b => sameName a.name b.name = false) →
                (∀ other ∈ catalog.mainTables, other.name = table.name → found = other) ∧
                (request.schemaName = "main" → found = own)))) ∧
      (request.schemaName = "main" → catalog.IsOrdinary →
        catalog.select (FilePath.ofString request.database).stem = .ok () →
        catalog.ambiguity? "information_schema" = none →
          ∃ tables,
            catalog.describeAll (FilePath.ofString request.database).stem request.schemaName = .ok tables) := by
  obtain ⟨log, hdebug, heq⟩ := listTables_eq workspace request hopen
  refine ⟨log, hdebug, heq, ?_, fun hmain hordinary hselect hviews =>
    hmain ▸ Catalog.describeAll_main hordinary hselect hviews⟩
  intro tables htables
  obtain ⟨hnames, hdescribed⟩ := Catalog.describe_of_describeAll htables
  refine ⟨hnames, ?_⟩
  intro table htable
  have hlisted : table.name ∈ catalog.baseTables request.schemaName := hnames ▸ List.mem_map_of_mem htable
  obtain ⟨own, hown, hschema, hview, hname⟩ := Catalog.mem_baseTables_iff.mp hlisted
  obtain ⟨found, htells⟩ := tells_of_describe (hdescribed table htable)
  refine ⟨own, hown, found, hschema, hview, hname, htells, ?_⟩
  intro hdistinct hplain
  refine ⟨Catalog.mem_of_findText hdistinct hplain htells.stands, ?_⟩
  intro hnames
  have hfound : ∀ other ∈ catalog.mainTables, other.name = table.name → found = other := by
    intro other hother hsame
    have hstands := htells.stands
    rw [← hsame] at hplain hstands
    exact Except.ok.inj (hstands.symm.trans (Catalog.findText_of_mem_mainTables hdistinct hnames hother hplain))
  refine ⟨hfound, ?_⟩
  intro hmain
  rw [hmain] at hschema
  exact hfound own (List.mem_filter.mpr ⟨hown, beq_iff_eq.mpr hschema⟩) hname

def namesakes : List CatalogTable := [
  { name := "t", columns := [{ name := "id", type := "INTEGER" }], primaryKey := ["id"] },
  { name := "t", schema := "other"
    columns := [{ name := "code", type := "INTEGER" }, { name := "label", type := "VARCHAR" }]
    primaryKey := ["code"] }]

def namesakesAt : Workspace where
  directory := "/data"
  files := [(FilePath.ofString "a.duckdb", .database namesakes)]

def listing (schemaName : String) : Request where
  verb := .tables
  database := "a.duckdb"
  output := defaultOutput
  strict := true
  verbose := false
  schemaName

theorem isOrdinary_namesakes : Catalog.IsOrdinary ⟨"a", namesakes⟩ where
  distinct := ⟨by decide, by decide⟩
  names := by decide
  plain := by decide
  columns := by decide

theorem listTables_tells_main :
    ∃ log, ∃ table : Table, ∃ own ∈ namesakes, ∃ found,
      listTables namesakesAt (listing "main")
        =
      Outcome.after ⟨[.show (lines ["📊 Tables:", tableLine table])], .done⟩ (shown false log) ∧
      own.schema = "main" ∧ own.name = table.name ∧
      Tells ⟨"a", namesakes⟩ "main" table found ∧ found = own := by
  have hopen : namesakesAt.openDatabase "a.duckdb" = .ok ⟨"a", namesakes⟩ := rfl
  obtain ⟨log, -, heq, htold, hlisted⟩ := listTables_tells namesakesAt (listing "main") hopen
  obtain ⟨tables, htables⟩ := hlisted rfl isOrdinary_namesakes rfl rfl
  obtain ⟨hnames, htold⟩ := htold tables htables
  have hbase : Catalog.baseTables ⟨"a", namesakes⟩ "main" = ["t"] := by decide +kernel
  have hsole : tables.map (·.name) = ["t"] := hnames.trans hbase
  obtain ⟨table, rfl, hname⟩ := List.map_eq_singleton_iff.mp hsole
  obtain ⟨own, hown, found, hschema, -, hsame, htells, hstands⟩ := htold table List.mem_cons_self
  obtain ⟨-, hmain⟩ := hstands isOrdinary_namesakes.distinct (hname ▸ by decide)
  obtain ⟨-, hfound⟩ := hmain isOrdinary_namesakes.names
  rw [htables] at heq
  exact ⟨log, table, own, hown, found, heq, hschema, hsame, htells, hfound rfl⟩

/-- Listed from the other schema it is the namesake of `main` that is told, with its one column and its key. -/
theorem listTables_namesakes :
    (run namesakesAt "b1" ["tables", "a.duckdb", "--schema-name", "other"]).effects =
      [.show "📊 Tables:\n  - t (1 columns, key: id)\n"] ∧
    (run namesakesAt "b1" ["tables", "a.duckdb", "--schema-name", "other"]).ending.exitCode = 0 ∧
    (namesakes.filter (·.schema == "other")).map (fun own => (own.name, own.columns.length, own.primaryKey)) =
      [("t", 2, ["code"])] := by
  decide +kernel

end Command
end TableGraph
