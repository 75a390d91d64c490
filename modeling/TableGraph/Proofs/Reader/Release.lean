import TableGraph.Proofs.Reader.Plan
import TableGraph.Proofs.Reader.Session

/-!
Programs that do nothing to a reader but call it, so that the calls they make tell the state in which they leave it,
and programs that release the reader when they are done with it.
-/

namespace TableGraph
namespace Reading

variable {σ α β : Type} {reader : Reader σ} {session middle after : Session σ} {calls later : List ReaderCall}
  {p : ReaderCall → Prop}

/-- From one session to another these calls were made, and nothing else was done to the reader. -/
structure Made (reader : Reader σ) (session after : Session σ) (calls : List ReaderCall) : Prop where
  calls_eq : after.calls = session.calls ++ calls
  state_eq : after.state = reader.afterAll calls session.state

namespace Made

theorem refl (session : Session σ) : Made reader session session [] where
  calls_eq := (List.append_nil _).symm
  state_eq := rfl

theorem trans (hfirst : Made reader session middle calls) (hsecond : Made reader middle after later) :
    Made reader session after (calls ++ later) where
  calls_eq := by rw [hsecond.calls_eq, hfirst.calls_eq, List.append_assoc]
  state_eq := by rw [hsecond.state_eq, hfirst.state_eq, Reader.afterAll_append]

end Made

def Calls (reader : Reader σ) (p : ReaderCall → Prop) (program : Reading σ α) : Prop :=
  ∀ session, ∃ made, Made reader session (program.run session).2 made ∧ ∀ call ∈ made, p call

namespace Calls

variable {program : Reading σ α}

theorem pure (value : α) : Calls reader p (pure value : Reading σ α) :=
  fun session => ⟨[], .refl session, by simp⟩

theorem throw (failure : Failure) : Calls reader p (throw failure : Reading σ α) :=
  fun session => ⟨[], .refl session, by simp⟩

theorem say (lines : Log) : Calls reader p (say lines : Reading σ Unit) :=
  fun _ => ⟨[], ⟨(List.append_nil _).symm, rfl⟩, by simp⟩

theorem call {made : ReaderCall} {answer : σ → Reply α × σ} (hmade : p made)
    (hanswer : ∀ state, (answer state).2 = reader.after made state) : Calls reader p (call made answer) :=
  fun session => ⟨[made], ⟨rfl, hanswer session.state⟩, by simpa using hmade⟩

theorem observe (hprogram : Calls reader p program) : Calls reader p (observe program) := by
  intro session
  rw [run_observe]
  exact hprogram session

theorem bind {next : α → Reading σ β} (hprogram : Calls reader p program)
    (hnext : ∀ value, Calls reader p (next value)) : Calls reader p (program >>= next) := by
  intro session
  obtain ⟨made, hmade, hcalls⟩ := hprogram session
  rcases hrun : program.run session with ⟨failure | value, middle⟩
  . rw [run_bind_of_error hrun]
    rw [hrun] at hmade
    exact ⟨made, hmade, hcalls⟩
  . rw [run_bind_of_ok hrun]
    rw [hrun] at hmade
    obtain ⟨later, hlater, hlaterCalls⟩ := hnext value middle
    exact ⟨made ++ later, hmade.trans hlater, List.forall_mem_append.mpr ⟨hcalls, hlaterCalls⟩⟩

theorem each {step : String → Reading σ α} {program : List String → Reading σ (List α)}
    (hnil : program [] = Pure.pure [])
    (hcons : ∀ name names, program (name :: names) = do
      let value ← step name
      let values ← program names
      return value :: values)
    (hstep : ∀ name, Calls reader p (step name)) (names : List String) : Calls reader p (program names) := by
  induction names with
  | nil =>
    rw [hnil]
    exact .pure []
  | cons name names ih =>
    rw [hcons]
    apply (hstep name).bind
    intro value
    apply ih.bind
    intro values
    exact .pure _

variable (reader)

theorem listTables (database : String) : Calls reader (· ≠ .finish) (reader.callListTables database) :=
  .call (by simp) fun _ => rfl

theorem describeTable (name : String) : Calls reader (· ≠ .finish) (reader.callDescribeTable name) :=
  .call (by simp) fun _ => rfl

theorem referencingTables (name : String) : Calls reader (· ≠ .finish) (reader.callReferencingTables name) :=
  .call (by simp) fun _ => rfl

end Calls

/-- From one session to another calls were made that begin with the given ones, and the last one of them, and no
other, released the reader. -/
def Released (reader : Reader σ) (session after : Session σ) (calls : List ReaderCall) : Prop :=
  ∃ made, .finish ∉ made ∧ Made reader session after (calls ++ made ++ [.finish])

theorem Made.released (hmade : Made reader session middle calls) (hreleased : Released reader middle after later) :
    Released reader session after (calls ++ later) := by
  obtain ⟨made, hfinish, hlater⟩ := hreleased
  refine ⟨made, hfinish, ?_⟩
  rw [List.append_assoc, List.append_assoc, ← List.append_assoc later]
  exact hmade.trans hlater

/-- A program that does not release the reader by itself is followed by a call that does, whatever it comes to. -/
theorem Calls.released {program : Reading σ α} (hprogram : Calls reader (· ≠ .finish) program)
    (session : Session σ) :
    Released reader session ((program.thenFinally reader.callFinish).run session).2 [] := by
  obtain ⟨made, hmade, hcalls⟩ := hprogram session
  have hfinish : Made reader (program.run session).2 (reader.callFinish.run (program.run session).2).2 [.finish] :=
    ⟨rfl, rfl⟩
  refine ⟨made, fun hmem => hcalls _ hmem rfl, ?_⟩
  rw [List.nil_append, run_thenFinally]
  split
  . next hlast =>
    rw [hlast] at hfinish
    exact hmade.trans hfinish
  . next hlast =>
    rw [hlast] at hfinish
    exact hmade.trans hfinish

end Reading
end TableGraph
