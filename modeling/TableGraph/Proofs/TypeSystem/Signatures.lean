import TableGraph.TypeSystem.Violation

/-!
The signatures of the fields of a document. In a document without violations a field of a type has one
signature at most.
-/

namespace TableGraph

structure Signature where
  args : List InputValue
  type : TypeRef
  deriving DecidableEq, Repr

namespace Definition

def signatures : Definition → List (String × Signature)
  | .object type => type.fields.map fun field => (field.name, ⟨field.args, field.type⟩)
  | .input type => type.fields.map fun field => (field.name, ⟨[], field.type⟩)
  | .schema _ => []

theorem map_fst_signatures (definition : Definition) :
    definition.signatures.map (·.1) = definition.fieldNames := by
  cases definition with
  | object => apply List.map_map
  | input => apply List.map_map
  | schema => rfl

end Definition

theorem filter_eq_singleton {α : Type} {items : List α} {key? : α → Option String}
    (hkeys : (items.filterMap key?).Nodup) {item : α} (hmem : item ∈ items) {key : String}
    (hkey : key? item = some key) : items.filter (key? · == some key) = [item] := by
  induction items with
  | nil => cases hmem
  | cons first rest ih =>
    rw [List.filterMap_cons] at hkeys
    rcases List.mem_cons.mp hmem with rfl | hmem
    . rw [hkey] at hkeys
      have hfresh := (List.nodup_cons.mp hkeys).left
      rw [List.filter_cons_of_pos (by simp [hkey]), List.filter_eq_nil_iff.mpr]
      intro other hother heq
      exact hfresh (List.mem_filterMap.mpr ⟨other, hother, eq_of_beq heq⟩)
    . have hother : key ∈ rest.filterMap key? := List.mem_filterMap.mpr ⟨item, hmem, hkey⟩
      have hne : key? first ≠ some key := by
        intro heq
        rw [heq] at hkeys
        exact (List.nodup_cons.mp hkeys).left hother
      have hrest : (rest.filterMap key?).Nodup := by
        split at hkeys
        . exact hkeys
        . exact (List.nodup_cons.mp hkeys).right
      rw [List.filter_cons_of_neg (by simpa using hne)]
      exact ih hrest hmem

namespace Document

/-- All signatures that a document declares for a field of a type. -/
def signatures (document : Document) (type field : String) : List Signature :=
  (document.filter (·.name? == some type)).flatMap fun definition =>
    (definition.signatures.filter (·.1 == field)).map (·.2)

variable {document : Document} (htypes : document.typeNames.Nodup) {definition : Definition}
  (hmem : definition ∈ document) {type field : String} (hname : definition.name? = some type)

include htypes hmem hname

theorem signatures_eq :
    document.signatures type field = (definition.signatures.filter (·.1 == field)).map (·.2) := by
  unfold signatures
  rw [filter_eq_singleton htypes hmem hname]
  apply List.flatMap_singleton

theorem signatures_eq_singleton (hfields : definition.fieldNames.Nodup) {signature : Signature}
    (hsignature : (field, signature) ∈ definition.signatures) :
    document.signatures type field = [signature] := by
  rw [← definition.map_fst_signatures, ← List.filterMap_eq_map] at hfields
  have honly := filter_eq_singleton hfields hsignature rfl
  rw [signatures_eq htypes hmem hname]
  simp only [Function.comp_apply, Option.some_beq_some] at honly
  rw [honly]
  rfl

theorem signatures_eq_nil (hfield : field ∉ definition.fieldNames) :
    document.signatures type field = [] := by
  rw [← definition.map_fst_signatures] at hfield
  rw [signatures_eq htypes hmem hname, List.map_eq_nil_iff, List.filter_eq_nil_iff]
  intro entry hentry heq
  exact hfield (List.mem_map.mpr ⟨entry, hentry, eq_of_beq heq⟩)

end Document
end TableGraph
