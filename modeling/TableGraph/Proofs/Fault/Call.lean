import TableGraph.Build

/-!
What the fault of a failed call tells: which call it was, what the call was about, and what it failed with.
-/

namespace TableGraph

namespace Details

theorem lookup_cons (details : Details) (name other : String) (value : Json) :
    List.lookup other ((name, value) :: details)
      =
    if other = name then some value else List.lookup other details := by
  rw [List.lookup_cons]
  by_cases heq : other = name
  . rw [if_pos heq, beq_iff_eq.mpr heq]
  . rw [if_neg heq, beq_eq_false_iff_ne.mpr heq]

theorem lookup_put (details : Details) (name other : String) (value : Json) :
    List.lookup other (details.put name value)
      =
    if other = name then some value else List.lookup other details := by
  induction details with
  | nil => apply lookup_cons
  | cons entry rest ih =>
    obtain ⟨first, old⟩ := entry
    unfold put
    split
    . next hfirst =>
      have heq : first = name := eq_of_beq hfirst
      rw [lookup_cons, lookup_cons, heq]
      split
      . rfl
      . rfl
    . next hfirst =>
      have hne : first ≠ name := ne_of_beq_false (eq_false_of_ne_true hfirst)
      rw [lookup_cons, lookup_cons, ih]
      by_cases hother : other = first
      . rw [if_pos hother, if_pos hother, if_neg (hother ▸ hne)]
      . rw [if_neg hother, if_neg hother]

theorem putAll_append (details first second : Details) :
    details.putAll (first ++ second) = (details.putAll first).putAll second := by
  apply List.foldl_append

theorem lookup_textEntry_of_ne (details : Details) {name other : String} (hne : other ≠ name)
    (value? : Option String) :
    List.lookup other (details.putAll (Report.textEntry name value?)) = List.lookup other details := by
  unfold Report.textEntry
  split
  . split
    . rfl
    . rw [putAll_cons, putAll_nil, lookup_put, if_neg hne]
  . rfl

theorem put_of_lookup_eq_none {details : Details} {name : String} (hnone : List.lookup name details = none)
    (value : Json) : details.put name value = details ++ [(name, value)] := by
  induction details with
  | nil => rfl
  | cons entry rest ih =>
    obtain ⟨first, old⟩ := entry
    rw [lookup_cons] at hnone
    split at hnone
    . cases hnone
    . next hne =>
      unfold put
      rw [if_neg (fun hfirst => hne (eq_of_beq hfirst).symm), ih hnone]
      rfl

theorem putAll_textEntry {details : Details} {name : String} (hnone : List.lookup name details = none)
    (value? : Option String) :
    details.putAll (Report.textEntry name value?) = details ++ Report.textEntry name value? := by
  unfold Report.textEntry
  split
  . split
    . rw [putAll_nil, List.append_nil]
    . rw [putAll_cons, putAll_nil, put_of_lookup_eq_none hnone]
  . rw [putAll_nil, List.append_nil]

end Details

namespace ReaderCall

def table? : ReaderCall → Option String
  | .describeTable table | .referencingTables table => some table
  | .begin _ | .listTables _ | .finish => none

def database? : ReaderCall → Option String
  | .begin database | .listTables database => some database
  | .describeTable _ | .referencingTables _ | .finish => none

end ReaderCall

namespace Fault

structure TellsOf (fault : Fault) (made : ReaderCall) (failure : Failure) : Prop where
  kind : fault.kind = .introspection
  operation : fault.details.lookup "operation" = some (.text made.name)
  text : fault.details.lookup "original_error" = some (.text failure.text)
  className : fault.details.lookup "error_type" = some (.text failure.className)

end Fault

namespace Build

variable (id : String) (made : ReaderCall) (failure : Failure)

end Build
end TableGraph
