import Mathlib.Data.List.Forall2

/-!
Programs that may fail, and keep a state: what follows on one that has returned, and on one that has not.
-/

namespace TableGraph

section Failing

variable {ε α β : Type}

theorem bind_eq_ok_iff {program : Except ε α} {next : α → Except ε β} {value : β} :
    program >>= next = .ok value ↔ ∃ first, program = .ok first ∧ next first = .ok value := by
  constructor
  . intro hrun
    cases program with
    | error failure => cases hrun
    | ok first => exact ⟨first, rfl, hrun⟩
  . rintro ⟨first, rfl, hnext⟩
    exact hnext

inductive Corresponds (related : α → β → Prop) : Except ε α → Except ε β → Prop where
  | ok {first : α} {second : β} (hrelated : related first second) : Corresponds related (.ok first) (.ok second)
  | error (failure : ε) : Corresponds related (.error failure) (.error failure)

namespace Corresponds

variable {related : α → β → Prop} {program : Except ε α} {other : Except ε β}

theorem bind {γ δ : Type} {goal : γ → δ → Prop} {next : α → Except ε γ} {otherNext : β → Except ε δ}
    (hprogram : Corresponds related program other)
    (hnext : ∀ first second, related first second → Corresponds goal (next first) (otherNext second)) :
    Corresponds goal (program >>= next) (other >>= otherNext) := by
  cases hprogram with
  | ok hrelated => exact hnext _ _ hrelated
  | error failure => exact .error failure

theorem eq_map {f : α → β} (hprogram : Corresponds (fun first second => second = f first) program other) :
    other = program.map f := by
  cases hprogram with
  | ok hrelated =>
    rw [hrelated]
    rfl
  | error failure => rfl

end Corresponds

theorem mapM_eq_ok_iff {f : α → Except ε β} {items : List α} {results : List β} :
    items.mapM f = .ok results ↔ List.Forall₂ (fun item result => f item = .ok result) items results := by
  induction items generalizing results with
  | nil =>
    rw [List.forall₂_nil_left_iff]
    constructor
    . rintro ⟨⟩
      rfl
    . rintro rfl
      rfl
  | cons item items ih =>
    simp only [List.mapM_cons, bind_eq_ok_iff, ih, List.forall₂_cons_left_iff]
    constructor
    . rintro ⟨result, hitem, rest, hrest, ⟨⟩⟩
      exact ⟨result, rest, hitem, hrest, rfl⟩
    . rintro ⟨result, rest, hitem, hrest, rfl⟩
      exact ⟨result, hitem, rest, hrest, rfl⟩

theorem exists_mapM_eq_ok {f : α → Except ε β} {items : List α}
    (hitems : ∀ item ∈ items, ∃ result, f item = .ok result) : ∃ results, items.mapM f = .ok results := by
  induction items with
  | nil => exact ⟨[], rfl⟩
  | cons item items ih =>
    rw [List.forall_mem_cons] at hitems
    obtain ⟨⟨result, hresult⟩, hrest⟩ := hitems
    obtain ⟨results, hresults⟩ := ih hrest
    rw [List.mapM_cons, hresult, hresults]
    exact ⟨result :: results, rfl⟩

theorem mapM_around {f : α → Except ε β} {before after : List α}
    (hbefore : ∀ item ∈ before, ∃ result, f item = .ok result)
    (hafter : ∀ item ∈ after, ∃ result, f item = .ok result) :
    ∃ front rest, ∀ item,
      (before ++ item :: after).mapM f = (f item).map fun result => front ++ result :: rest := by
  obtain ⟨front, hfront⟩ := exists_mapM_eq_ok hbefore
  obtain ⟨rest, hrest⟩ := exists_mapM_eq_ok hafter
  refine ⟨front, rest, fun item => ?_⟩
  rw [List.mapM_append, hfront, List.mapM_cons, hrest]
  cases f item with
  | _ => rfl

theorem toOption_eq_some_iff {program : Except ε α} {value : α} :
    program.toOption = some value ↔ program = .ok value := by
  cases program with
  | ok first => simp [Except.toOption]
  | error failure => simp [Except.toOption]

theorem toOption_bind (program : Except ε α) (next : α → Except ε β) :
    (program >>= next).toOption = program.toOption.bind fun value => (next value).toOption := by
  cases program with
  | ok value => rfl
  | error failure => rfl

theorem toOption_mapM_congr {f g : α → Except ε β} {items : List α}
    (hitems : ∀ item ∈ items, (f item).toOption = (g item).toOption) :
    (items.mapM f).toOption = (items.mapM g).toOption := by
  induction items with
  | nil => rfl
  | cons item items ih =>
    rw [List.forall_mem_cons] at hitems
    rw [List.mapM_cons, List.mapM_cons, toOption_bind, toOption_bind, hitems.left]
    congr 1
    funext value
    rw [toOption_bind, toOption_bind, ih hitems.right]

end Failing

section Stateful

variable {S ε α β : Type} {program : ExceptT ε (StateM S) α} {next : α → ExceptT ε (StateM S) β}
  {state after : S}

theorem run_bind (program : ExceptT ε (StateM S) α) (next : α → ExceptT ε (StateM S) β) (state : S) :
    (program >>= next).run state
      =
    match program.run state with
    | (.ok value, state) => (next value).run state
    | (.error failure, state) => (.error failure, state) := by
  rw [ExceptT.run_bind]
  generalize hrun : program.run state = result
  rcases result with ⟨_ | _, _⟩
  . dsimp [bind, StateT.bind]
    rw [hrun]
    rfl
  . dsimp [bind, StateT.bind]
    rw [hrun]

theorem run_bind_of_ok {value : α} (hrun : program.run state = (.ok value, after)) :
    (program >>= next).run state = (next value).run after := by
  rw [run_bind, hrun]

theorem run_bind_of_error {failure : ε} (hrun : program.run state = (.error failure, after)) :
    (program >>= next).run state = (.error failure, after) := by
  rw [run_bind, hrun]

theorem outcome_bind (program : ExceptT ε (StateM S) α) (next : α → ExceptT ε (StateM S) β) (state : S) :
    ((program >>= next).run state).1
      =
    (program.run state).1 >>= fun value => ((next value).run (program.run state).2).1 := by
  rw [run_bind]
  rcases program.run state with ⟨_ | _, _⟩
  . rfl
  . rfl

def Keeps (p : S → Prop) (program : ExceptT ε (StateM S) α) : Prop :=
  ∀ state, p state → p (program.run state).2

theorem Keeps.pure {p : S → Prop} (value : α) : Keeps p (pure value : ExceptT ε (StateM S) α) :=
  fun _ hstate => hstate

theorem Keeps.throw {p : S → Prop} (failure : ε) : Keeps p (throw failure : ExceptT ε (StateM S) α) :=
  fun _ hstate => hstate

theorem Keeps.bind {p : S → Prop} (hprogram : Keeps p program) (hnext : ∀ value, Keeps p (next value)) :
    Keeps p (program >>= next) := by
  intro state hstate
  have hafter := hprogram state hstate
  rcases hrun : program.run state with ⟨failure | value, after⟩
  . rw [run_bind_of_error hrun]
    rwa [hrun] at hafter
  . rw [run_bind_of_ok hrun]
    rw [hrun] at hafter
    exact hnext value after hafter

end Stateful

end TableGraph
