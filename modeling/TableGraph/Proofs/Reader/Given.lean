import TableGraph.Reader
import TableGraph.TableTypes

/-!
Readers of tables that are given in advance.
-/

namespace TableGraph
namespace Reader

/-- A reader of given tables, some of whose calls fail. -/
def given (tables : List Table) (failing : ReaderCall → Option Failure := fun _ => none) : Reader Unit where
  begin database _ := (⟨answer (.begin database) (), []⟩, ())
  listTables database _ := (⟨answer (.listTables database) (tables.map (·.name)), []⟩, ())
  describeTable name _ :=
    (⟨find name >>= fun table => answer (.describeTable name) table.columns, []⟩, ())
  referencingTables name _ :=
    (⟨find name >>= fun table => answer (.referencingTables name) table.references, []⟩, ())
  finish _ := (⟨answer .finish (), []⟩, ())
where
  answer {α : Type} (made : ReaderCall) (value : α) : Except Failure α :=
    match failing made with
    | some failure => .error failure
    | none => .ok value
  find (name : String) : Except Failure Table :=
    match tables.find? (·.name == name) with
    | some table => .ok table
    | none => .error (.missingEntry name)

end Reader
end TableGraph
