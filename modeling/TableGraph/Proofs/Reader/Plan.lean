import Mathlib.Data.List.Basic
import TableGraph.Reader
import TableGraph.TableTypes

/-!
Plans of reader calls, and how far a plan is followed: up to the first call after which one cannot go on,
because it failed or because it completes the description of a table that is refused.
-/

namespace TableGraph

/-- `made` is `plan`, cut right after the first place where it halts. -/
structure CutAfterFirst (halts : List α → Prop) (plan made : List α) : Prop where
  isPrefix : made <+: plan
  goesOn : ∀ before, before <+: made → before ≠ made → ¬halts before
  complete : made = plan ∨ halts made

namespace CutAfterFirst

theorem nil {halts : List α → Prop} : CutAfterFirst halts [] [] where
  isPrefix := List.prefix_rfl
  goesOn := by
    intro before hstart hne
    exact absurd (List.prefix_nil.mp hstart) hne
  complete := .inl rfl

variable {halts : List α → Prop} {plan rest made : List α}

theorem of_halts (hcut : CutAfterFirst halts plan made) (hhalts : halts made) :
    CutAfterFirst halts (plan ++ rest) made where
  isPrefix := hcut.isPrefix.trans (List.prefix_append plan rest)
  goesOn := hcut.goesOn
  complete := .inr hhalts

theorem append {haltsLater : List α → Prop} (hcut : CutAfterFirst halts plan plan)
    (hgoesOn : ¬halts plan) (hrest : CutAfterFirst haltsLater rest made)
    (hnil : ¬haltsLater [])
    (hlater : ∀ calls, calls ≠ [] → (halts (plan ++ calls) ↔ haltsLater calls)) :
    CutAfterFirst halts (plan ++ rest) (plan ++ made) where
  isPrefix := (List.prefix_append_right_inj plan).mpr hrest.isPrefix
  goesOn := by
    intro before hstart hne
    rcases List.prefix_or_prefix_of_prefix hstart (List.prefix_append plan made) with hle | hge
    . by_cases heq : before = plan
      . rw [heq]
        exact hgoesOn
      . exact hcut.goesOn before hle heq
    . obtain ⟨calls, rfl⟩ := hge
      by_cases hcalls : calls = []
      . rw [hcalls, List.append_nil]
        exact hgoesOn
      . rw [hlater calls hcalls]
        apply hrest.goesOn
        . exact (List.prefix_append_right_inj plan).mp hstart
        . intro heq
          exact hne (by rw [heq])
  complete := by
    rcases hrest.complete with heq | hhalts
    . exact .inl (by rw [heq])
    . have hmade : made ≠ [] := by
        intro heq
        rw [heq] at hhalts
        exact hnil hhalts
      exact .inr ((hlater made hmade).mpr hhalts)

end CutAfterFirst

namespace Reader

variable {σ : Type} (reader : Reader σ) (options : TableOptions)

def after (made : ReaderCall) (state : σ) : σ :=
  match made with
  | .begin database => (reader.begin database state).2
  | .listTables database => (reader.listTables database state).2
  | .describeTable table => (reader.describeTable table state).2
  | .referencingTables table => (reader.referencingTables table state).2
  | .finish => (reader.finish state).2

def afterAll (calls : List ReaderCall) (state : σ) : σ :=
  calls.foldl (fun state made => reader.after made state) state

def failure? (made : ReaderCall) (state : σ) : Option Failure :=
  match made with
  | .begin database => failureOf (reader.begin database state).1.outcome
  | .listTables database => failureOf (reader.listTables database state).1.outcome
  | .describeTable table => failureOf (reader.describeTable table state).1.outcome
  | .referencingTables table => failureOf (reader.referencingTables table state).1.outcome
  | .finish => failureOf (reader.finish state).1.outcome
where
  failureOf {α : Type} : Except Failure α → Option Failure
    | .ok _ => none
    | .error failure => some failure

/-- A table that is described from a state on, and then refused. -/
def Refuses (table : String) (state : σ) : Prop :=
  ∃ columns references fault,
    (reader.describeTable table state).1.outcome = .ok columns ∧
    (reader.referencingTables table (reader.after (.describeTable table) state)).1.outcome =
      .ok references ∧
    Table.types ⟨table, columns, references⟩ options = .error fault

/-- Calls after which one cannot go on: the last one failed, or it completed the description of a table
that is refused. -/
def Halts (state : σ) (calls : List ReaderCall) : Prop :=
  ∃ before last, calls = before ++ [last] ∧
    ((reader.failure? last (reader.afterAll before state)).isSome ∨
      ∃ table earlier, last = .referencingTables table ∧
        before = earlier ++ [.describeTable table] ∧
        reader.Refuses options table (reader.afterAll earlier state))

def listed (database : String) (state : σ) : List String :=
  match (reader.listTables database state).1.outcome with
  | .ok names => names
  | .error _ => []

variable {reader options}

theorem failureOf_eq_none_iff {α : Type} {outcome : Except Failure α} :
    failure?.failureOf outcome = none ↔ ∃ value, outcome = .ok value := by
  cases outcome with
  | ok value => simp [failure?.failureOf]
  | error failure => simp [failure?.failureOf]

theorem failureOf_eq_some_iff {α : Type} {outcome : Except Failure α} {failure : Failure} :
    failure?.failureOf outcome = some failure ↔ outcome = .error failure := by
  cases outcome with
  | ok value => simp [failure?.failureOf]
  | error failure => simp [failure?.failureOf]

theorem afterAll_append (before calls : List ReaderCall) (state : σ) :
    reader.afterAll (before ++ calls) state = reader.afterAll calls (reader.afterAll before state) := by
  unfold afterAll
  rw [List.foldl_append]

theorem not_halts_nil (state : σ) : ¬reader.Halts options state [] := by
  rintro ⟨before, last, hcalls, -⟩
  simp at hcalls

theorem halts_concat {state : σ} {before : List ReaderCall} {last : ReaderCall} :
    reader.Halts options state (before ++ [last])
      ↔
    (reader.failure? last (reader.afterAll before state)).isSome ∨
      ∃ table earlier, last = .referencingTables table ∧
        before = earlier ++ [.describeTable table] ∧
        reader.Refuses options table (reader.afterAll earlier state) := by
  constructor
  . rintro ⟨front, final, heq, hhalts⟩
    obtain ⟨rfl, rfl⟩ := List.append_inj' heq rfl |>.imp_right List.singleton_inj.mp
    exact hhalts
  . intro hhalts
    exact ⟨before, last, rfl, hhalts⟩

theorem halts_singleton {state : σ} {made : ReaderCall} :
    reader.Halts options state [made] ↔ (reader.failure? made state).isSome := by
  rw [← List.nil_append [made], halts_concat]
  apply or_iff_left
  rintro ⟨table, earlier, -, heq, -⟩
  simp at heq

theorem halts_described {state : σ} {table : String} :
    reader.Halts options state [.describeTable table, .referencingTables table]
      ↔
    (reader.failure? (.referencingTables table) (reader.after (.describeTable table) state)).isSome ∨
      reader.Refuses options table state := by
  rw [← List.singleton_append, halts_concat]
  apply or_congr_right
  constructor
  . rintro ⟨other, earlier, hlast, heq, hrefuses⟩
    obtain rfl := ReaderCall.referencingTables.inj hlast
    have hfront : [] ++ [.describeTable table] = earlier ++ [.describeTable table] := heq
    obtain ⟨rfl, -⟩ := List.append_inj' hfront rfl
    exact hrefuses
  . intro hrefuses
    exact ⟨table, [], rfl, rfl, hrefuses⟩

/-- Calls behind others halt as they would from the state that those leave. A table that is refused must
have been described behind them, so the last of them may not describe one. -/
theorem halts_append {state : σ} {before calls : List ReaderCall}
    (hbefore : ∀ table earlier, before ≠ earlier ++ [.describeTable table]) (hcalls : calls ≠ []) :
    reader.Halts options state (before ++ calls)
      ↔
    reader.Halts options (reader.afterAll before state) calls := by
  obtain ⟨front, last, rfl⟩ := List.eq_nil_or_concat' calls |>.resolve_left hcalls
  rw [← List.append_assoc, halts_concat, halts_concat, afterAll_append]
  apply or_congr_right
  constructor
  . rintro ⟨table, earlier, hlast, heq, hrefuses⟩
    -- the table was described by the call in front of `last`, which must not be one of `before`
    rcases List.eq_nil_or_concat' front with rfl | ⟨middle, final, rfl⟩
    . rw [List.append_nil] at heq
      exact absurd heq (hbefore table earlier)
    . rw [← List.append_assoc] at heq
      obtain ⟨rfl, hfinal⟩ := List.append_inj' heq rfl
      rw [afterAll_append] at hrefuses
      exact ⟨table, middle, hlast, by rw [hfinal], hrefuses⟩
  . rintro ⟨table, earlier, hlast, rfl, hrefuses⟩
    rw [← afterAll_append] at hrefuses
    exact ⟨table, before ++ earlier, hlast, by rw [List.append_assoc], hrefuses⟩

end Reader
end TableGraph
