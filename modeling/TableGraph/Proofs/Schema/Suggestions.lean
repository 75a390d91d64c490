import TableGraph.Proofs.Schema.Acceptance
import TableGraph.Proofs.Text.Lacks

/-!
Suggestions can be looked for in the document of any tables that were accepted, as long as the scalars that
go before the known ones are ASCII texts and the names of the tables have not too many digits.
-/

namespace TableGraph

theorem isAscii_of_isAcceptedName {name : String} (hname : isAcceptedName name = true) : IsAscii name := by
  intro c hc
  by_contra hhigh
  have hchar : isNameChar c = false := by
    rw [Bool.eq_false_iff]
    intro hchar
    have hbound := (toNat_of_isNameChar hchar).right
    omega
  have hbreak : c ≠ '\n' := by
    rintro rfl
    exact hhigh (by decide)
  exact lacks_of_isAcceptedName hname hchar hbreak hc

theorem Scalar.of_ofSqlType {p : String → Prop} (hknown : ∀ entry ∈ known, p entry.2) (hstring : p "String")
    {overrides : Overrides} (hoverrides : ∀ entry ∈ overrides, p entry.2) (sqlType : String) :
    p (ofSqlType overrides sqlType) := by
  unfold ofSqlType
  dsimp only
  split
  . next scalar hscalar =>
    unfold Overrides.scalar? at hscalar
    obtain ⟨entry, hentry, rfl⟩ := Option.map_eq_some_iff.mp hscalar
    exact hoverrides entry (List.mem_reverse.mp (List.mem_of_find?_eq_some hentry))
  . cases hlookup : known.lookup (baseName sqlType) with
    | none => exact hstring
    | some scalar =>
      obtain ⟨before, after, heq, -⟩ := List.lookup_eq_some_iff.mp hlookup
      apply hknown (baseName sqlType, scalar)
      rw [heq]
      exact List.mem_append_right _ List.mem_cons_self

theorem isAscii_scalarOf {overrides : Overrides} (hoverrides : ∀ entry ∈ overrides, IsAscii entry.2)
    (column : Column) : IsAscii (Table.scalarOf overrides.byBaseName column) := by
  apply Scalar.of_ofSqlType
  . decide
  . decide
  . unfold Overrides.byBaseName
    rwa [List.forall_mem_map]

theorem Document.isAscii_of_references_ofTables {tables : List Table} {options : TableOptions}
    {types : List TableTypes} (htypes : tables.mapM (·.types options) = .ok types)
    (hoverrides : ∀ entry ∈ options.overrides, IsAscii entry.2) :
    ∀ definition ∈ ofTables types, ∀ name ∈ definition.references, IsAscii name := by
  obtain ⟨hfaults, rfl⟩ := Table.mapM_types_eq_ok_iff.mp htypes
  simp only [Table.faults_eq_nil_iff] at hfaults
  have hserves : Serves IsAscii IsAscii tables := by
    have hnames : ∀ table ∈ tables, IsAscii table.name :=
      fun table htable => isAscii_of_isAcceptedName (hfaults table htable).left.left.left
    constructor
    . decide
    . intro table htable
      exact ⟨isAscii_append (isAscii_append (by decide) (hnames table htable)) (by decide),
        isAscii_append (isAscii_append (by decide) (hnames table htable)) (by decide)⟩
    . decide
    . decide
    . intro table htable
      exact ⟨hnames table htable, isAscii_append (hnames table htable) (by decide)⟩
  simp only [← Definition.refersTo_self_iff, refersTo_ofTables_iff hserves, and_self]
  intro table htable
  refine ⟨fun column _ => isAscii_scalarOf hoverrides column, ?_⟩
  intro reference hreference
  have haccepted := (hfaults table htable).right reference hreference
  exact isAscii_append (isAscii_of_isAcceptedName haccepted) (by decide)

/-- If all scalars are ASCII texts, those that were given included, then digits alone are in the way of suggestions,
and only those in the name of a table. -/
theorem Document.suggestionProblem?_ofTables {tables : List Table} {options : TableOptions}
    {types : List TableTypes} (htypes : tables.mapM (·.types options) = .ok types)
    (hoverrides : ∀ entry ∈ options.overrides, IsAscii entry.2) :
    (∀ problem, (ofTables types).suggestionProblem? = some problem →
      ∃ digits, Text.maxDigits < digits ∧ problem = .overlongRun digits) ∧
    ((∀ table ∈ tables, Text.HasShortRuns table.name.toList) → (ofTables types).suggestionProblem? = none) := by
  have hreferences := isAscii_of_references_ofTables htypes hoverrides
  refine ⟨fun problem hproblem => ?_, fun hshort => ?_⟩
  . obtain ⟨digits, hlong, heq, -⟩ := failure?_of_suggestionProblem? hreferences hproblem
    exact ⟨digits, hlong, heq⟩
  . obtain ⟨-, rfl⟩ := Table.mapM_types_eq_ok_iff.mp htypes
    exact suggestionProblem?_of_hasShortRuns hreferences (hasShortRuns_of_mem_knownNames _ hshort)

end TableGraph
