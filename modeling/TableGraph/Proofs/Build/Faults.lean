import TableGraph.Proofs.Build.Course
import TableGraph.Proofs.Build.Log
import TableGraph.Proofs.Fault.Table
import TableGraph.Proofs.Reader.Given
import TableGraph.Proofs.Schema.Suggestions

/-!
What the fault of a build tells: which call failed first, or why a table or the document was refused, and
which build that was. Two failures come through as they are: that of releasing the reader, and that of
looking for suggestions.
-/

namespace TableGraph

namespace Build

variable {σ : Type} {reader : Reader σ} {options : BuildOptions} {id database : String} {state : σ}

/-- What the fault of a build with a certain id tells about its cause. -/
def Cause.ToldBy (id database : String) (fault : Fault) : Cause → Prop
  | .call made failure => fault.TellsOf made failure
  | .table refusal => (refusal.kind = .schema ∨ refusal.kind = .primaryKey) ∧ fault = refusal.stamp id
  | .noTables => fault.kind = .schema ∧ fault = (emptyFault database).stamp id
  | .document (.fault refusal) => refusal.kind = .schema ∧ fault = refusal.stamp id
  | .document _ => False

def Tells (id database : String) (cause : Cause) (outcome : Except Failure Build) : Prop :=
  ∃ fault, outcome = .error (.fault fault) ∧ fault.correlation? = some id ∧ cause.ToldBy id database fault

/-- A build ends without a fault, because it cannot look for suggestions for its document. -/
def FailsToSuggest (reader : Reader σ) (options : BuildOptions) (database : String) (state : σ)
    (outcome : Except Failure Build) : Prop :=
  ∃ tables types problem, Reads reader options.toTableOptions database state tables types ∧
    (Document.ofTables types).suggestionProblem? = some problem ∧ outcome = .error problem.failure

theorem FailsToSuggest.overlong (hoverrides : ∀ entry ∈ options.overrides, IsAscii entry.2)
    {outcome : Except Failure Build} (hfails : FailsToSuggest reader options database state outcome) :
    (∃ digits, Text.maxDigits < digits ∧ outcome = .error (.overlong (some digits))) ∧
    ¬∀ name ∈ reader.listed database (reader.after (.begin database) state), Text.HasShortRuns name.toList := by
  obtain ⟨tables, types, problem, hreads, hproblem, rfl⟩ := hfails
  obtain ⟨hdigits, hshort⟩ := Document.suggestionProblem?_ofTables hreads.accepted hoverrides
  refine ⟨?_, fun hnames => ?_⟩
  . obtain ⟨digits, hlong, rfl⟩ := hdigits problem hproblem
    exact ⟨digits, hlong, rfl⟩
  . unfold Reader.listed at hnames
    rw [hreads.opens.listed, List.forall_mem_map] at hnames
    rw [hshort hnames] at hproblem
    cases hproblem

def held : Failure :=
  .other "RuntimeError" "worker is busy"

end Build
end TableGraph
