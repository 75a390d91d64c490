import TableGraph.Proofs.Program
import TableGraph.Reader

/-!
What the programs that use a reader do to a session: the outcome and the session that they leave.
-/

namespace TableGraph
namespace Reading

variable {σ α β : Type}

theorem run_pure (value : α) (session : Session σ) :
    (pure value : Reading σ α).run session = (.ok value, session) := by
  rfl

theorem run_throw (failure : Failure) (session : Session σ) :
    (throw failure : Reading σ α).run session = (.error failure, session) := by
  rfl

theorem run_map (program : Reading σ α) (f : α → β) (session : Session σ) :
    ((do return f (← program)).run session).1 = (program.run session).1.map f := by
  rw [run_bind]
  rcases program.run session with ⟨_ | _, _⟩
  . rfl
  . rfl

theorem run_call (made : ReaderCall) (answer : σ → Reply α × σ) (session : Session σ) :
    (call made answer).run session
      =
    ((answer session.state).1.outcome,
      ⟨(answer session.state).2, session.calls ++ [made],
        session.log ++ (answer session.state).1.log⟩) := by
  rfl

theorem run_say (lines : Log) (session : Session σ) :
    (say lines).run session = (.ok (), { session with log := session.log ++ lines }) := by
  rfl

theorem run_observe (program : Reading σ α) (session : Session σ) :
    (observe program).run session
      =
    (.ok (program.run session).1, (program.run session).2) := by
  rfl

theorem run_resume (outcome : Except Failure α) (session : Session σ) :
    (resume outcome).run session = (outcome, session) := by
  rfl

/-- The last program runs in any case, and its failure goes before the one of the first. -/
theorem run_thenFinally (program : Reading σ α) (last : Reading σ Unit) (session : Session σ) :
    (program.thenFinally last).run session
      =
    match last.run (program.run session).2 with
    | (.ok _, after) => ((program.run session).1, after)
    | (.error failure, after) => (.error failure, after) := by
  unfold thenFinally
  rw [run_bind_of_ok (run_observe program session), run_bind]
  split
  . next hlast =>
    rw [hlast]
    apply run_resume
  . next hlast =>
    rw [hlast]

/-- Whatever the first program returns, the second one returns too, and it leaves the same session. -/
def Carries (program other : Reading σ α) : Prop :=
  ∀ session after value, program.run session = (.ok value, after) → other.run session = (.ok value, after)

namespace Carries

variable {program other : Reading σ α}

theorem refl (program : Reading σ α) : Carries program program :=
  fun _ _ _ hrun => hrun

theorem bind {next otherNext : α → Reading σ β} (hprogram : Carries program other)
    (hnext : ∀ value, Carries (next value) (otherNext value)) :
    Carries (program >>= next) (other >>= otherNext) := by
  intro session after value hrun
  rcases hfirst : program.run session with ⟨failure | first, middle⟩
  . rw [run_bind_of_error hfirst] at hrun
    cases hrun
  . rw [run_bind_of_ok hfirst] at hrun
    rw [run_bind_of_ok (hprogram _ _ _ hfirst)]
    exact hnext first _ _ _ hrun

theorem thenFinally (hprogram : Carries program other) (last : Reading σ Unit) :
    Carries (program.thenFinally last) (other.thenFinally last) := by
  intro session after value hrun
  rw [run_thenFinally] at hrun
  rcases hfirst : program.run session with ⟨failure | first, middle⟩
  . rw [hfirst] at hrun
    split at hrun
    . cases hrun
    . cases hrun
  . rw [run_thenFinally, hprogram _ _ _ hfirst]
    rwa [hfirst] at hrun

end Carries

def ComesTo (program : Reading σ α) (outcome : Except Failure α) : Prop :=
  ∀ session, (program.run session).1 = outcome

namespace ComesTo

variable {program : Reading σ α} {outcome : Except Failure α}

theorem pure (value : α) : ComesTo (pure value : Reading σ α) (.ok value) :=
  fun _ => rfl

theorem call {made : ReaderCall} {answer : σ → Reply α × σ} (hanswer : ∀ state, (answer state).1.outcome = outcome) :
    ComesTo (call made answer) outcome :=
  fun session => hanswer session.state

theorem bind {next : α → Reading σ β} {later : α → Except Failure β} (hprogram : ComesTo program outcome)
    (hnext : ∀ value, ComesTo (next value) (later value)) : ComesTo (program >>= next) (outcome >>= later) := by
  intro session
  rw [outcome_bind, hprogram]
  congr 1
  funext value
  rw [hnext]

theorem thenFinally {last : Reading σ Unit} (hprogram : ComesTo program outcome) (hlast : ComesTo last (.ok ())) :
    ComesTo (program.thenFinally last) outcome := by
  intro session
  have hreleased := hlast (program.run session).2
  rw [run_thenFinally]
  split
  . exact hprogram session
  . next hfailed =>
    rw [hfailed] at hreleased
    cases hreleased

end ComesTo

end Reading
end TableGraph
