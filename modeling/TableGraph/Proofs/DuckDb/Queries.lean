import TableGraph.Proofs.DuckDb.Reader
import TableGraph.Proofs.Text.Layout

/-!
The two queries that have a name in their text. A database reads such a name up to the first quote that is not one
of a pair, and takes each pair for one quote. So a text is read as the query about a name if it is the text of that
query, and only then. The other queries have no names in their texts, but places for them.
-/

namespace TableGraph
namespace DuckDb

open Text Querying

/-! ## Reading a name in quotes -/

def readInside (quote : Char) : List Char → Option (List Char × List Char)
  | [] => none
  | [c] => if c == quote then some ([], []) else none
  | c :: d :: cs =>
    if c == quote then
      if d == quote then (readInside quote cs).map fun (name, rest) => (quote :: name, rest)
      else some ([], d :: cs)
    else
      (readInside quote (d :: cs)).map fun (name, rest) => (c :: name, rest)

def readBetween? (before : String) (quote : Char) (after text : String) : Option String :=
  match List.isPrefixOf? (before.toList ++ [quote]) text.toList with
  | none => none
  | some inside =>
    match readInside quote inside with
    | some (name, rest) => if rest == after.toList then some (String.ofList name) else none
    | none => none

def readUse? (text : String) : Option String :=
  readBetween? "USE " '"' "" text

def readColumns? (text : String) : Option String :=
  readBetween? "PRAGMA table_info(" '\x27' ")" text

def insideQuotes (quote c : Char) : List Char :=
  if c == quote then [c, c] else [c]

section Names

variable {quote : Char} {name rest cs : List Char}

theorem readInside_insideQuotes (name : List Char) (hrest : Ends (· == quote) rest) :
    readInside quote (name.flatMap (insideQuotes quote) ++ quote :: rest) = some (name, rest) := by
  induction name with
  | nil =>
    cases rest with
    | nil => simp [readInside]
    | cons d rest =>
      have hd : (d == quote) = false := by simpa [Ends] using hrest
      simp [readInside, hd]
  | cons c name ih =>
    rw [List.flatMap_cons, insideQuotes, List.append_assoc]
    by_cases hc : c = quote
    . rw [hc, if_pos (beq_self_eq_true _)]
      simp [readInside, ih]
    . rw [if_neg (by simpa using hc)]
      -- a character stands in front of at least one other, the closing quote
      obtain ⟨d, behind, hbehind⟩ : ∃ d behind, name.flatMap (insideQuotes quote) ++ quote :: rest = d :: behind :=
        List.exists_cons_of_ne_nil (by simp)
      rw [hbehind] at ih ⊢
      simp [readInside, hc, ih]

theorem eq_of_readInside (hread : readInside quote cs = some (name, rest)) :
    cs = name.flatMap (insideQuotes quote) ++ quote :: rest ∧ Ends (· == quote) rest := by
  induction cs using readInside.induct quote generalizing name with
  | case1 => cases hread
  | case2 c hc =>
    rw [readInside, if_pos hc] at hread
    cases hread
    rw [eq_of_beq hc]
    exact ⟨rfl, rfl⟩
  | case3 c hc =>
    rw [readInside, if_neg hc] at hread
    cases hread
  | case4 c d cs hc hd ih =>
    rw [readInside, if_pos hc, if_pos hd, Option.map_eq_some_iff] at hread
    obtain ⟨⟨name, rest⟩, hread, ⟨⟩⟩ := hread
    obtain ⟨rfl, hrest⟩ := ih hread
    rw [eq_of_beq hc, eq_of_beq hd, List.flatMap_cons, insideQuotes, if_pos (beq_self_eq_true _)]
    exact ⟨rfl, hrest⟩
  | case5 c d cs hc hd =>
    rw [readInside, if_pos hc, if_neg hd] at hread
    cases hread
    rw [eq_of_beq hc]
    exact ⟨rfl, ends_cons (by simpa using hd) cs⟩
  | case6 c d cs hc ih =>
    rw [readInside, if_neg hc, Option.map_eq_some_iff] at hread
    obtain ⟨⟨name, rest⟩, hread, ⟨⟩⟩ := hread
    obtain ⟨heq, hrest⟩ := ih hread
    rw [heq, List.flatMap_cons, insideQuotes, if_neg hc]
    exact ⟨rfl, hrest⟩

end Names

theorem toList_enclose (quote : Char) (name : String) :
    (enclose quote name).toList = quote :: (name.toList.flatMap (insideQuotes quote) ++ [quote]) :=
  String.toList_ofList

theorem readBetween?_eq_some_iff (before after text name : String) {quote : Char}
    (hafter : Ends (· == quote) after.toList) :
    readBetween? before quote after text = some name ↔ text = before ++ enclose quote name ++ after := by
  have htext : text = before ++ enclose quote name ++ after
      ↔
      text.toList = (before.toList ++ [quote]) ++
        (name.toList.flatMap (insideQuotes quote) ++ quote :: after.toList) := by
    rw [← String.toList_inj, String.toList_append, String.toList_append, toList_enclose]
    simp
  rw [htext]
  unfold readBetween?
  constructor
  . intro hread
    split at hread
    . cases hread
    . next inside hinside =>
      split at hread
      . next inner rest hinner =>
        split at hread
        . next hrest =>
          obtain rfl := Option.some.inj hread
          obtain ⟨rfl, -⟩ := eq_of_readInside hinner
          rw [String.toList_ofList, ← eq_of_beq hrest]
          exact (List.isPrefixOf?_eq_some_iff_append_eq.mp hinside).symm
        . cases hread
      . cases hread
  . intro heq
    rw [List.isPrefixOf?_eq_some_iff_append_eq.mpr heq.symm]
    dsimp only
    rw [readInside_insideQuotes _ hafter]
    simp

/-! ## The queries that are put -/

def Connection.recording (connection : Connection κ) : Connection (κ × List Query) where
  execute query state :=
    (connection.answer query state.1, (connection.after query state.1, state.2 ++ [query]))

def Connection.current (connection : Connection κ) (state : κ) : Except Failure Cell := do
  content (onlyCell (← connection.answer .currentDatabase state))

section Recording

variable {κ : Type} (connection : Connection κ) (schema database table : String) (state : κ × List Query) (log : Log)

theorem run_ask_recording (query : Query) :
    (ask connection.recording query).run (state, log)
      =
    (connection.answer query state.1,
      ((connection.after query state.1, state.2 ++ [query]), log ++ asked query)) :=
  rfl

theorem recorded_useDatabase :
    ((useDatabase connection.recording database).run (state, log)).2.1.2
      =
    state.2 ++ .currentDatabase ::
      match connection.current state.1 with
      | .ok current => if database ≠ "" ∧ Cell.textIn? current ≠ some database then [.use database] else []
      | .error _ => [] := by
  unfold useDatabase Connection.current
  rw [run_bind, run_ask_recording]
  cases connection.answer .currentDatabase state.1 with
  | error failure => rfl
  | ok rows =>
    dsimp only
    rw [run_bind, run_expect]
    change _ = state.2 ++ .currentDatabase :: match content (onlyCell rows) with | .ok _ => _ | .error _ => _
    cases content (onlyCell rows) with
    | error failure => rfl
    | ok current =>
      dsimp only
      by_cases hother : database ≠ "" ∧ Cell.textIn? current ≠ some database
      . rw [if_pos (by simpa using hother), if_pos hother, run_bind, run_ask_recording]
        cases connection.answer (.use database) (connection.after .currentDatabase state.1) with
        | error failure => exact List.append_assoc ..
        | ok rows => exact List.append_assoc ..
      . rw [if_neg (by simpa using hother), if_neg hother]
        rfl

theorem recorded_describeTable :
    ∃ later,
      ((describeTable connection.recording schema table).run (state, log)).2.1.2 = state.2 ++ .columns table :: later ∧
      ∀ query ∈ later, query = .foreignKeys table schema := by
  unfold describeTable
  rw [run_bind, run_ask_recording]
  cases connection.answer (.columns table) state.1 with
  | error failure => exact ⟨[], rfl, by simp⟩
  | ok rows =>
    cases rows with
    | nil => exact ⟨[], rfl, by simp⟩
    | cons row rows =>
      refine ⟨[.foreignKeys table schema], ?_, by simp⟩
      change ((ask connection.recording (.foreignKeys table schema) >>= _).run _).2.1.2 = _
      rw [run_bind, run_ask_recording]
      cases connection.answer (.foreignKeys table schema) (connection.after (.columns table) state.1) with
      | error failure => exact List.append_assoc ..
      | ok keys =>
        dsimp only
        rw [run_bind, run_expect]
        cases content (keyColumnNames keys) with
        | error failure => exact List.append_assoc ..
        | ok foreign =>
          dsimp only
          rw [run_expect]
          exact List.append_assoc ..

end Recording

/--
The text that changes the database is read as one name, which is that database, and so is the text that asks for the
columns of a table; no other text is read as a change to that database, or as that question. The database is changed
exactly if its name is not empty and is not that of the current one, which the reader asks for before. Of a table the
reader first asks for the columns, and then at most for its foreign keys, in a text without names.
-/
theorem queries_enclosed (connection : Connection κ) (schema database table : String)
    (state : ReaderState (κ × List Query)) :
    (∀ text name, readUse? text = some name ↔ text = (Query.use name).sql) ∧
    (∀ text name, readColumns? text = some name ↔ text = (Query.columns name).sql) ∧
    (∀ current, connection.current state.connection.1 = .ok current →
      ((reader connection.recording schema).begin database state).2.connection.2
        =
      state.connection.2 ++ .currentDatabase ::
        if database ≠ "" ∧ Cell.textIn? current ≠ some database then [.use database] else []) ∧
    ∃ later,
      ((reader connection.recording schema).describeTable table state).2.connection.2
        =
      state.connection.2 ++ .columns table :: later ∧
      ∀ query ∈ later, query = .foreignKeys table schema := by
  refine ⟨?_, ?_, ?_, recorded_describeTable connection schema table state.connection []⟩
  . intro text name
    have hread := readBetween?_eq_some_iff "USE " "" text name (show Ends (· == '"') "".toList from rfl)
    rwa [String.append_empty] at hread
  . intro text name
    exact readBetween?_eq_some_iff _ _ text name (ends_cons (by decide) [])
  . intro current hcurrent
    refine (recorded_useDatabase connection database state.connection []).trans ?_
    rw [hcurrent]

def bare (current : String) : Connection Unit where
  execute query state :=
    (.ok (match query with
      | .currentDatabase => [[.text current]]
      | _ => []), state)

theorem queries_enclosed_quote :
    (Query.use "\"; DROP TABLE t; --").sql = "USE \"\"\"; DROP TABLE t; --\"" ∧
    readUse? "USE \"\"\"; DROP TABLE t; --\"" = some "\"; DROP TABLE t; --" ∧
    ((reader (bare "shop").recording "main").begin "\"; DROP TABLE t; --" ⟨((), []), false⟩).2.connection.2
      =
    [.currentDatabase, .use "\"; DROP TABLE t; --"] := by
  have hsql : (Query.use "\"; DROP TABLE t; --").sql = "USE \"\"\"; DROP TABLE t; --\"" := by decide
  obtain ⟨hread, -, hbegin, -⟩ :=
    queries_enclosed (bare "shop") "main" "\"; DROP TABLE t; --" "t" ⟨((), []), false⟩
  refine ⟨hsql, (hread _ _).mpr hsql.symm, (hbegin (.text "shop") rfl).trans ?_⟩
  rw [if_pos ⟨by decide, by decide⟩]
  rfl

end DuckDb
end TableGraph
