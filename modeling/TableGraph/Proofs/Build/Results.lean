import TableGraph.Proofs.Build.Options
import TableGraph.Proofs.Record
import TableGraph.Proofs.Schema.Acceptance

/-!
What builds that check their documents return: among others, all compatible tables with GraphQL names.
-/

namespace TableGraph

theorem Reader.describes_given {tables : List Table} (hdistinct : (tables.map (·.name)).Nodup) (state : Unit) :
    (given tables).Describes state tables := by
  have hdescribes : ∀ some : List Table, (∀ table ∈ some, table ∈ tables) →
      ∀ state, (given tables).Describes state some := by
    intro some hsome
    induction some with
    | nil => exact fun _ => trivial
    | cons table some ih =>
      rw [List.forall_mem_cons] at hsome
      have hfind : given.find tables table.name = .ok table := by
        unfold given.find
        rw [find?_of_nodup (·.name) hdistinct hsome.left]
      intro state
      refine ⟨⟨?_, ?_⟩, ih hsome.right _⟩
      . change given.find tables table.name >>= _ = _
        rw [hfind]
        rfl
      . change given.find tables table.name >>= _ = _
        rw [hfind]
        rfl
  exact hdescribes tables (fun _ htable => htable) state

namespace Build

def IsValidated (build : Build) : Prop :=
  ∃ (σ : Type) (reader : Reader σ) (options : BuildOptions) (id database : String) (session : Session σ),
    options.validate = true ∧ ((run reader options id database).run session).1 = .ok build

def ofTables (tables : List Table) : Build :=
  ⟨"shop", tables.map (·.typesWith []), .ofTables (tables.map (·.typesWith []))⟩

theorem isValidated_ofTables {tables : List Table} (hnonempty : tables ≠ [])
    (hnamed : ∀ table ∈ tables, table.IsNamed) (hfaults : ∀ table ∈ tables, table.faults false = [])
    (hscalars : ∀ table ∈ tables, ∀ column ∈ table.columns, Table.scalarOf [] column ∈ knownScalars)
    (hcompatible : Compatible tables) : (ofTables tables).IsValidated := by
  refine ⟨Unit, .given tables, ⟨⟨false, []⟩, true⟩, "b1", "shop", ⟨(), [], []⟩, rfl, ?_⟩
  apply run_eq_ok_iff.mpr
  refine ⟨tables, ⟨⟨⟨rfl, rfl⟩, Reader.describes_given hcompatible.distinct _, ?_⟩, hnonempty, fun _ => ?_⟩,
    rfl, rfl⟩
  . exact Table.mapM_types_eq_ok_iff.mpr ⟨hfaults, rfl⟩
  . obtain ⟨hnone, -⟩ := Document.failure?_of_names (Document.isName_of_mem_names hnamed)
    exact hnone ((Document.violations_ofTables_eq_nil_iff hscalars).mpr hcompatible)

def keyTable (name : String) : Table where
  name := name
  columns := [⟨"id", "INTEGER", false, .primary⟩]

theorem isValidated_keyTable {name : String} (hname : IsName name)
    (hreserved : name ∉ rootTypeNames ++ Scalar.serviceNames) : (ofTables [keyTable name]).IsValidated := by
  have hnamed : (keyTable name).IsNamed := ⟨hname, by simp [keyTable]; decide, by simp [keyTable]⟩
  apply isValidated_ofTables
  . simp
  . exact List.forall_mem_singleton.mpr hnamed
  . exact List.forall_mem_singleton.mpr (hnamed.faults_eq_nil rfl)
  . simp only [List.forall_mem_singleton, keyTable]
    decide
  . constructor
    . simp
    . simp [not_mem_derivedNames]
    . exact List.forall_mem_singleton.mpr hreserved
    . simp [keyTable]
    . simp [keyTable]

end Build
end TableGraph
