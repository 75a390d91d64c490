import TableGraph.Proofs.Reader.Session

/-!
What the programs that use a reader write to the log. A program that is put together from others writes
what these write.
-/

namespace TableGraph

def Reader.logOf (reader : Reader σ) (made : ReaderCall) (state : σ) : Log :=
  match made with
  | .begin database => (reader.begin database state).1.log
  | .listTables database => (reader.listTables database state).1.log
  | .describeTable table => (reader.describeTable table state).1.log
  | .referencingTables table => (reader.referencingTables table state).1.log
  | .finish => (reader.finish state).1.log

def Reader.Logs (reader : Reader σ) (line : LogLine) : Prop :=
  ∃ made state, line ∈ reader.logOf made state

namespace Reading

variable {σ α β : Type} {p : LogLine → Prop}

def Writes (p : LogLine → Prop) (program : Reading σ α) : Prop :=
  ∀ session, ∃ lines, (program.run session).2.log = session.log ++ lines ∧ ∀ line ∈ lines, p line

namespace Writes

variable {program : Reading σ α}

theorem pure (value : α) : Writes p (pure value : Reading σ α) := by
  intro session
  rw [run_pure]
  exact ⟨[], (List.append_nil _).symm, by simp⟩

theorem throw (failure : Failure) : Writes p (throw failure : Reading σ α) := by
  intro session
  rw [run_throw]
  exact ⟨[], (List.append_nil _).symm, by simp⟩

theorem resume (outcome : Except Failure α) : Writes p (resume outcome : Reading σ α) := by
  intro session
  rw [run_resume]
  exact ⟨[], (List.append_nil _).symm, by simp⟩

theorem say {lines : Log} (hlines : ∀ line ∈ lines, p line) : Writes p (say lines : Reading σ Unit) := by
  intro session
  rw [run_say]
  exact ⟨lines, rfl, hlines⟩

theorem call {made : ReaderCall} {answer : σ → Reply α × σ}
    (hanswer : ∀ state, ∀ line ∈ (answer state).1.log, p line) : Writes p (call made answer) := by
  intro session
  rw [run_call]
  exact ⟨_, rfl, hanswer session.state⟩

theorem observe (hprogram : Writes p program) : Writes p (observe program) := by
  intro session
  rw [run_observe]
  exact hprogram session

theorem bind {next : α → Reading σ β} (hprogram : Writes p program)
    (hnext : ∀ value, Writes p (next value)) : Writes p (program >>= next) := by
  intro session
  obtain ⟨lines, hlog, hlines⟩ := hprogram session
  generalize hrun : program.run session = result at hlog
  rcases result with ⟨failure | value, after⟩
  . rw [run_bind_of_error hrun]
    exact ⟨lines, hlog, hlines⟩
  . rw [run_bind_of_ok hrun]
    obtain ⟨later, hlater, hlaterLines⟩ := hnext value after
    refine ⟨lines ++ later, ?_, List.forall_mem_append.mpr ⟨hlines, hlaterLines⟩⟩
    rw [hlater, hlog, List.append_assoc]

theorem thenFinally {last : Reading σ Unit} (hprogram : Writes p program) (hlast : Writes p last) :
    Writes p (program.thenFinally last) := by
  unfold Reading.thenFinally
  apply bind hprogram.observe
  intro outcome
  apply bind hlast
  intro _
  apply resume

end Writes
end Reading
end TableGraph
