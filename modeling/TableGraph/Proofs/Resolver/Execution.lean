import TableGraph.Proofs.Sql
import TableGraph.Proofs.Template.Execution
import TableGraph.Resolver

/-!
What the requests of resolvers do step by step. A loop over the columns keeps the lists that it fills and the
values that it binds in step: after any number of columns, they hold those of the columns that were given.
-/

namespace TableGraph
namespace Resolver

open Template (Memory Stop executeAll)

def given (columns : List String) (input : List (String × Json)) : List String :=
  columns.filter fun column => input.any (·.1 == column)

def inputValue (input : List (String × Json)) (column : String) : Json :=
  ((Json.record input).member? column).getD .null

def bindings (input : List (String × Json)) (columns : List String) : List (String × Json) :=
  columns.foldl (fun bound column => Json.put bound (Sql.placeholder column) (inputValue input column)) []

theorem bindings_concat (input : List (String × Json)) (columns : List String) (column : String) :
    bindings input (columns ++ [column])
      =
    Json.put (bindings input columns) (Sql.placeholder column) (inputValue input column) := by
  unfold bindings
  rw [List.foldl_append]
  rfl

section Steps

variable {memory : Memory}

theorem execute_setTo {name : String} {template : Template} {value : Json}
    (hvalue : template.evaluate? .used memory.scope = some value) :
    (setTo name template).execute memory = .ok (memory.set name value) := by
  rw [setTo, Template.execute, hvalue]
  rfl

theorem execute_addTo {list text value : String} {items : List Json}
    (hlist : memory.scope.lookup list = some (.list items))
    (htext : memory.scope.interpolate? text = some value) :
    (addTo list text).execute memory = .ok (memory.set list (.list (items ++ [.text value]))) := by
  rw [addTo, Template.execute, Expression.effect?, hlist]
  simp [Expression.evaluateAll?, Expression.evaluate?, htext, Json.update?]

theorem execute_bind {name placeholder : String} {expression : Expression} {value : Json}
    {bound : List (String × Json)} (hbound : memory.scope.lookup "variables" = some (.record bound))
    (hname : memory.scope.interpolate? (Sql.placeholder name) = some placeholder)
    (hvalue : expression.evaluate? memory.scope = some value) :
    (bind name expression).execute memory
      =
    .ok (memory.set "variables" (.record (Json.put bound placeholder value))) := by
  rw [bind, Template.execute, Expression.effect?, hbound]
  simp [Expression.evaluateAll?, Expression.evaluate?, hname, hvalue, Json.update?]

end Steps

/-- A list that a loop fills: its variable, and the text that it gets for a column. -/
abbrev Gathering := String × (String → String)

def Gathering.add (gathering : Gathering) : Template :=
  addTo gathering.1 (gathering.2 "$col")

def loopVariables : List String :=
  ["input", "variables", "col"]

/-- Lists that can be filled side by side, each with the texts that its template stands for. -/
structure Gatherings (lists : List Gathering) : Prop where
  distinct : (lists.map (·.1)).Nodup
  apart : ∀ list ∈ lists, list.1 ∉ loopVariables
  texts : ∀ list ∈ lists, ∀ (scope : Scope) (column : String), IsName column →
    scope.lookup "col" = some (.text column) → scope.interpolate? (list.2 "$col") = some (list.2 column)

namespace Gatherings

variable {lists : List Gathering} (hlists : Gatherings lists) {name : String}

include hlists

theorem ne {list : Gathering} (hlist : list ∈ lists) (hname : name ∈ loopVariables) : list.1 ≠ name := by
  rintro rfl
  exact hlists.apart list hlist hname

theorem not_mem (hname : name ∈ loopVariables) : name ∉ lists.map (·.1) := by
  intro hmem
  obtain ⟨list, hlist, heq⟩ := List.mem_map.mp hmem
  exact hlists.ne hlist hname heq

end Gatherings

def Gathered (memory : Memory) (lists : List Gathering) (columns : List String) : Prop :=
  ∀ list ∈ lists, memory.scope.lookup list.1 = some (.list ((columns.map list.2).map .text))

/-- A step that sets one list after the other leaves all other variables alone. A step for one list may
look at that list and at the column, but not at the other lists. -/
theorem executeAll_each {lists : List Gathering} (hdistinct : (lists.map (·.1)).Nodup)
    (hcol : "col" ∉ lists.map (·.1)) {step : Gathering → Template} {value : Gathering → Json}
    {memory : Memory}
    (hstep : ∀ list ∈ lists, ∀ memory' : Memory,
      memory'.scope.lookup list.1 = memory.scope.lookup list.1 →
      memory'.scope.lookup "col" = memory.scope.lookup "col" →
        (step list).execute memory' = .ok (memory'.set list.1 (value list))) :
    ∃ memory' : Memory,
      (∀ parts, executeAll (lists.map step ++ parts) memory = executeAll parts memory') ∧
      memory'.output = memory.output ∧
      (∀ list ∈ lists, memory'.scope.lookup list.1 = some (value list)) ∧
      ∀ name, name ∉ lists.map (·.1) → memory'.scope.lookup name = memory.scope.lookup name := by
  induction lists generalizing memory with
  | nil =>
    refine ⟨memory, fun parts => rfl, rfl, ?_, fun name _ => rfl⟩
    exact fun list hlist => absurd hlist List.not_mem_nil
  | cons list lists ih =>
    rw [List.map_cons, List.nodup_cons] at hdistinct
    rw [List.map_cons, List.mem_cons, not_or] at hcol
    rw [List.forall_mem_cons] at hstep
    -- the first list is none of the others, so setting it changes nothing that their steps look at
    have hrest : ∀ other ∈ lists, ∀ memory' : Memory,
        memory'.scope.lookup other.1 = (memory.set list.1 (value list)).scope.lookup other.1 →
        memory'.scope.lookup "col" = (memory.set list.1 (value list)).scope.lookup "col" →
          (step other).execute memory' = .ok (memory'.set other.1 (value other)) := by
      intro other hother memory' hsame hsameCol
      have hne : other.1 ≠ list.1 := by
        intro heq
        exact hdistinct.left (List.mem_map.mpr ⟨other, hother, heq⟩)
      rw [Memory.lookup_set_of_ne _ _ hne] at hsame
      rw [Memory.lookup_set_of_ne _ _ hcol.left] at hsameCol
      exact hstep.right other hother memory' hsame hsameCol
    obtain ⟨memory', hrun, houtput, hset, hframe⟩ := ih hdistinct.right hcol.right hrest
    refine ⟨memory', ?_, houtput, ?_, ?_⟩
    . intro parts
      rw [List.map_cons, List.cons_append, Template.executeAll_of_ok (hstep.left memory rfl rfl)]
      apply hrun
    . intro other hother
      rcases List.mem_cons.mp hother with rfl | hother
      . rw [hframe _ hdistinct.left, Memory.lookup_set_self]
      . exact hset other hother
    . intro name hname
      rw [List.map_cons, List.mem_cons, not_or] at hname
      rw [hframe name hname.right, Memory.lookup_set_of_ne _ _ hname.left]

section Lists

variable {lists : List Gathering} (hlists : Gatherings lists) {memory : Memory}

include hlists

theorem Gathered.set {columns : List String} (hgathered : Gathered memory lists columns) {name : String}
    (hname : name ∈ loopVariables) (value : Json) : Gathered (memory.set name value) lists columns := by
  intro list hlist
  rw [Memory.lookup_set_of_ne _ _ (hlists.ne hlist hname)]
  exact hgathered list hlist

theorem executeAll_empties (memory : Memory) :
    ∃ memory' : Memory,
      (∀ parts, executeAll (lists.map (fun list => setTo list.1 (.list [])) ++ parts) memory
        = executeAll parts memory') ∧
      memory'.output = memory.output ∧ Gathered memory' lists [] ∧
      ∀ name, name ∉ lists.map (·.1) → memory'.scope.lookup name = memory.scope.lookup name := by
  apply executeAll_each hlists.distinct (hlists.not_mem (by decide))
  intro list _ memory' _ _
  exact execute_setTo rfl

theorem executeAll_adds {columns : List String} (hgathered : Gathered memory lists columns)
    {column : String} (hname : IsName column) (hcolumn : memory.scope.lookup "col" = some (.text column)) :
    ∃ memory' : Memory,
      (∀ parts, executeAll (lists.map (·.add) ++ parts) memory = executeAll parts memory') ∧
      memory'.output = memory.output ∧ Gathered memory' lists (columns ++ [column]) ∧
      ∀ name, name ∉ lists.map (·.1) → memory'.scope.lookup name = memory.scope.lookup name := by
  apply executeAll_each hlists.distinct (hlists.not_mem (by decide))
  intro list hlist memory' hsame hsameCol
  rw [hgathered list hlist] at hsame
  rw [hcolumn] at hsameCol
  have htext := hlists.texts list hlist memory'.scope column hname hsameCol
  rw [Gathering.add, execute_addTo hsame htext]
  simp

end Lists

section ColumnTexts

variable {scope : Scope} {column : String} (hname : IsName column)
variable (hcolumn : scope.lookup "col" = some (.text column))

include hname hcolumn

theorem interpolate?_identifier :
    scope.interpolate? (Sql.identifier "$col") = some (Sql.identifier column) := by
  have htext : (Sql.identifier "$col").toList = "\x60".toList ++ '$' :: ("col".toList ++ "\x60".toList) := by
    decide
  apply Scope.interpolate?_of_splice? _ (Sql.plain_identifier hname)
  rw [htext, Scope.splice?_text (by decide), Scope.splice?_reference (by decide) hcolumn (by decide),
    Scope.splice?_last (by decide), Sql.identifier_eq (lacks_of_isName hname (by decide))]
  simp

theorem interpolate?_placeholder :
    scope.interpolate? (Sql.placeholder "$col") = some (Sql.placeholder column) := by
  have htext : (Sql.placeholder "$col").toList = ":".toList ++ '$' :: ("col".toList ++ "".toList) := by
    decide
  apply Scope.interpolate?_of_splice? _ (Sql.plain_placeholder hname)
  rw [htext, Scope.splice?_text (by decide), Scope.splice?_reference (by decide) hcolumn (by decide),
    Scope.splice?_last (by decide), Sql.placeholder]
  simp

theorem interpolate?_assignment :
    scope.interpolate? (Sql.assignment "$col") = some (Sql.assignment column) := by
  have htext : (Sql.assignment "$col").toList
      = "\x60".toList ++ '$' ::
        ("col".toList ++ ("\x60 = :".toList ++ '$' :: ("col".toList ++ "".toList))) := by
    decide
  apply Scope.interpolate?_of_splice? _ (Sql.plain_assignment hname)
  rw [htext, Scope.splice?_text (by decide), Scope.splice?_reference (by decide) hcolumn (by decide),
    Scope.splice?_text (by decide), Scope.splice?_reference (by decide) hcolumn (by decide),
    Scope.splice?_last (by decide), Sql.assignment_eq hname]
  simp

end ColumnTexts

def ifGiven (parts : List Template) : Template :=
  .branch (.reference (.call (.variable "input") "containsKey" [.variable "col"])) (.sequence parts) none

/-- What a loop over the columns of an input keeps up. -/
structure LoopState (memory : Memory) (lists : List Gathering) (input : List (String × Json))
    (columns : List String) : Prop where
  gathered : Gathered memory lists columns
  lookup_input : memory.scope.lookup "input" = some (.record input)
  lookup_variables : memory.scope.lookup "variables" = some (.record (bindings input columns))

section Loop

variable {lists : List Gathering} (hlists : Gatherings lists) {input : List (String × Json)}

include hlists

theorem LoopState.set_column {memory : Memory} {columns : List String}
    (hstate : LoopState memory lists input columns) (value : Json) :
    LoopState (memory.set "col" value) lists input columns where
  gathered := hstate.gathered.set hlists (by decide) value
  lookup_input := by rw [Memory.lookup_set_of_ne _ _ (by decide), hstate.lookup_input]
  lookup_variables := by rw [Memory.lookup_set_of_ne _ _ (by decide), hstate.lookup_variables]

theorem executeAll_gather {memory : Memory} {columns : List String}
    (hstate : LoopState memory lists input columns) {column : String} (hname : IsName column)
    (hcolumn : memory.scope.lookup "col" = some (.text column)) :
    ∃ memory' : Memory,
      executeAll (lists.map (·.add) ++ [bindColumn]) memory = .ok memory' ∧
      memory'.output = memory.output ∧ LoopState memory' lists input (columns ++ [column]) := by
  obtain ⟨added, hadds, houtput, hgathered, hframe⟩ :=
    executeAll_adds hlists hstate.gathered hname hcolumn
  have hvariables := hframe "variables" (hlists.not_mem (by decide))
  have hinput := hframe "input" (hlists.not_mem (by decide))
  have hcol := hframe "col" (hlists.not_mem (by decide))
  rw [hstate.lookup_variables] at hvariables
  rw [hstate.lookup_input] at hinput
  rw [hcolumn] at hcol
  have hvalue : Expression.evaluate? added.scope (.call (.variable "input") "get" [.variable "col"])
      = some (inputValue input column) := by
    simp [Expression.evaluate?, Expression.evaluateAll?, hinput, hcol, Json.call?, inputValue]
  have hbind := execute_bind hvariables (interpolate?_placeholder hname hcol) hvalue
  rw [← bindings_concat] at hbind
  refine ⟨added.set "variables" (.record (bindings input (columns ++ [column]))), ?_, houtput, ?_⟩
  . rw [hadds]
    exact Template.executeAll_of_ok hbind []
  . refine ⟨hgathered.set hlists (by decide) _, ?_, ?_⟩
    . rw [Memory.lookup_set_of_ne _ _ (by decide), hinput]
    . rw [Memory.lookup_set_self]

omit hlists in
theorem execute_ifGiven {memory : Memory} {column : String}
    (hinput : memory.scope.lookup "input" = some (.record input))
    (hcolumn : memory.scope.lookup "col" = some (.text column)) (parts : List Template) :
    (ifGiven parts).execute memory
      =
    if input.any (·.1 == column) then executeAll parts memory else .ok memory := by
  have hguard : Template.evaluate? .used memory.scope
      (.reference (.call (.variable "input") "containsKey" [.variable "col"]))
        = some (.bool (input.any (·.1 == column))) := by
    simp [Template.evaluate?, Template.Position.evaluate?, Expression.evaluate?, Expression.evaluateAll?,
      hinput, hcolumn, Json.call?]
  rw [ifGiven, Template.execute, hguard]
  cases input.any (·.1 == column) with
  | false => rfl
  | true =>
    dsimp only
    rw [Template.execute, if_pos rfl]

theorem execute_turn {memory : Memory} {columns : List String}
    (hstate : LoopState memory lists input columns) {column : String} (hname : IsName column) :
    ∃ memory' : Memory,
      executeAll [ifGiven (lists.map (·.add) ++ [bindColumn])] (memory.set "col" (.text column)) = .ok memory' ∧
      memory'.output = memory.output ∧ LoopState memory' lists input (columns ++ given [column] input) := by
  have hset := hstate.set_column hlists (.text column)
  have hcolumn : (memory.set "col" (.text column)).scope.lookup "col" = some (.text column) :=
    Memory.lookup_set_self memory _
  have hturn := execute_ifGiven hset.lookup_input hcolumn (lists.map (·.add) ++ [bindColumn])
  cases hgiven : input.any (·.1 == column) with
  | false =>
    rw [hgiven] at hturn
    refine ⟨memory.set "col" (.text column), Template.executeAll_of_ok hturn [], rfl, ?_⟩
    simpa [given, hgiven] using hset
  | true =>
    obtain ⟨memory', hgather, houtput, hstate'⟩ := executeAll_gather hlists hset hname hcolumn
    rw [hgiven, if_pos rfl, hgather] at hturn
    refine ⟨memory', Template.executeAll_of_ok hturn [], houtput, ?_⟩
    simpa [given, hgiven] using hstate'

/-- The loop runs through all columns, by induction on those that are left. -/
theorem foldlM_turns {columns : List String} (hcolumns : ∀ column ∈ columns, IsName column)
    {memory : Memory} {before : List String} (hstate : LoopState memory lists input before) :
    ∃ memory' : Memory,
      (columns.map Json.text).foldlM (fun memory item =>
        executeAll [ifGiven (lists.map (·.add) ++ [bindColumn])] (memory.set "col" item)) memory = .ok memory' ∧
      memory'.output = memory.output ∧ LoopState memory' lists input (before ++ given columns input) := by
  induction columns generalizing memory before with
  | nil =>
    refine ⟨memory, rfl, rfl, ?_⟩
    rwa [given, List.filter_nil, List.append_nil]
  | cons column columns ih =>
    rw [List.forall_mem_cons] at hcolumns
    obtain ⟨next, hturn, houtput, hnext⟩ := execute_turn hlists hstate hcolumns.left
    obtain ⟨last, hturns, houtput', hlast⟩ := ih hcolumns.right hnext
    have hgiven : given (column :: columns) input = given [column] input ++ given columns input := by
      unfold given
      rw [← List.filter_append]
      rfl
    refine ⟨last, ?_, houtput'.trans houtput, ?_⟩
    . rw [List.map_cons, List.foldlM_cons, hturn]
      exact hturns
    . rwa [hgiven, ← List.append_assoc]

theorem execute_forEachGiven {columns : List String} (hcolumns : ∀ column ∈ columns, IsName column)
    {memory : Memory} (hstate : LoopState memory lists input []) :
    ∃ memory' : Memory,
      (forEachGiven columns (lists.map (·.add) ++ [bindColumn])).execute memory = .ok memory' ∧
      memory'.output = memory.output ∧ LoopState memory' lists input (given columns input) := by
  obtain ⟨memory', hturns, houtput, hlast⟩ := foldlM_turns hlists hcolumns hstate
  refine ⟨memory', ?_, houtput, hlast⟩
  have hitems : Template.evaluate? .used memory.scope (.list (columns.map .text))
      = some (.list (columns.map .text)) := by
    rw [Template.evaluate?, Template.evaluateAll?_texts _ fun column hcolumn =>
      plain_of_isName (hcolumns column hcolumn)]
    rfl
  rw [forEachGiven, Template.execute, hitems]
  exact hturns

theorem executeAll_gathering {columns : List String} (hcolumns : ∀ column ∈ columns, IsName column)
    {memory : Memory} {argument : Template}
    (hargument : argument.evaluate? .used memory.scope = some (.record input)) :
    ∃ memory' : Memory,
      (∀ parts, executeAll
        (setTo "input" argument :: (lists.map (fun list => setTo list.1 (.list [])) ++
          setTo "variables" (.object []) ::
          forEachGiven columns (lists.map (·.add) ++ [bindColumn]) :: parts)) memory
        = executeAll parts memory') ∧
      memory'.output = memory.output ∧ LoopState memory' lists input (given columns input) := by
  obtain ⟨emptied, hempty, houtput, hgathered, hframe⟩ :=
    executeAll_empties hlists (memory.set "input" (.record input))
  have hready : LoopState (emptied.set "variables" (.record [])) lists input [] := by
    refine ⟨hgathered.set hlists (by decide) _, ?_, ?_⟩
    . rw [Memory.lookup_set_of_ne _ _ (by decide), hframe "input" (hlists.not_mem (by decide)),
        Memory.lookup_set_self]
    . apply Memory.lookup_set_self
  obtain ⟨memory', hloop, houtput', hstate⟩ := execute_forEachGiven hlists hcolumns hready
  refine ⟨memory', ?_, ?_, hstate⟩
  . intro parts
    have hvariables : (setTo "variables" (.object [])).execute emptied
        = .ok (emptied.set "variables" (.record [])) := execute_setTo rfl
    rw [Template.executeAll_of_ok (execute_setTo hargument), hempty, Template.executeAll_of_ok hvariables,
      Template.executeAll_of_ok hloop]
  . rw [houtput', Memory.output_set, houtput, Memory.output_set]

end Loop

section Requests

variable {memory : Memory}

def written (statements : List String) (values : List (String × Json)) : Json :=
  .record [
    ("version", .text requestVersion),
    ("statements", .list (statements.map .text)),
    ("variableMap", .record values)]

theorem execute_requestOf {statements : List Template} {texts : List String} {values : Template}
    {bound : List (String × Json)}
    (hstatements : Template.evaluateAll? .written memory.scope statements = some (texts.map .text))
    (hvalues : values.evaluate? .written memory.scope = some (.record bound)) :
    (requestOf statements values).execute memory
      =
    .ok { memory with output := memory.output ++ [written texts bound] } := by
  have hplain : ∀ name ∈ ["version", "statements", "variableMap"],
      memory.scope.interpolate? name = some name := by
    intro name hname
    apply Scope.interpolate?_of_plain
    revert name
    decide
  have hversion : memory.scope.interpolate? requestVersion = some requestVersion :=
    Scope.interpolate?_of_plain (by decide)
  have hwritten : (requestOf statements values).evaluate? .written memory.scope
      = some (written texts bound) := by
    simp [requestOf, Template.evaluate?, Template.evaluateMembers?, hplain, hversion, hstatements, hvalues,
      written]
  unfold requestOf at hwritten ⊢
  rw [Template.execute, hwritten]
  all_goals simp

theorem evaluate?_listText {list opening closing : String} {texts : List String}
    (hlist : memory.scope.lookup list = some (.list (texts.map .text)))
    (hopening : Plain opening) (hclosing : Plain closing) (hopen : Lacks ']' opening)
    (htexts : ∀ text ∈ texts, ∀ c ∈ ['[', ']'], Lacks c text) :
    (listText list opening closing).evaluate? .used memory.scope
      =
    some (.text (opening ++ ", ".intercalate texts ++ closing)) := by
  have hopened : Lacks '[' (", ".intercalate texts) :=
    lacks_intercalate (by decide) fun text htext => htexts text htext '[' (by decide)
  have hclosed : Lacks ']' (", ".intercalate texts) :=
    lacks_intercalate (by decide) fun text htext => htexts text htext ']' (by decide)
  -- the brackets are those around the list only, since the texts have none
  have hfirst : Json.replaceIn ("[" ++ ", ".intercalate texts ++ "]") '[' opening
      = opening ++ ", ".intercalate texts ++ "]" := by
    rw [Json.replaceIn_append, Json.replaceIn_append, Json.replaceIn_of_lacks hopened,
      Json.replaceIn_of_lacks (by decide : Lacks '[' "]")]
    simp [Json.replaceIn]
  have hsecond : Json.replaceIn (opening ++ ", ".intercalate texts ++ "]") ']' closing
      = opening ++ ", ".intercalate texts ++ closing := by
    rw [Json.replaceIn_append, Json.replaceIn_append, Json.replaceIn_of_lacks hclosed,
      Json.replaceIn_of_lacks hopen]
    simp [Json.replaceIn]
  have htext : (Expression.call (.variable list) "toString" []).evaluate? memory.scope
      = some (.text ("[" ++ ", ".intercalate texts ++ "]")) := by
    rw [Expression.evaluate?, Expression.evaluate?, hlist]
    apply Json.call?_toString
  have hreplaced : ∀ (expression : Expression) (value old new : String) (c : Char),
      expression.evaluate? memory.scope = some (.text value) → old.toList = [c] → Plain old → Plain new →
        (expression.call "replace" [.text old, .text new]).evaluate? memory.scope
          = some (.text (Json.replaceIn value c new)) := by
    intro expression value old new c hvalue hold hplain hplain'
    rw [Expression.evaluate?, hvalue]
    simp only [Expression.evaluateAll?, Expression.evaluate?, Scope.interpolate?_of_plain hplain,
      Scope.interpolate?_of_plain hplain', Option.map_some, Option.bind_some]
    exact Json.call?_replace value new hold
  rw [listText, Template.evaluate?, Template.Position.evaluate?, ← hsecond, ← hfirst]
  apply hreplaced _ _ _ _ _ _ rfl (by decide) hclosing
  exact hreplaced _ _ _ _ _ htext rfl (by decide) hopening

theorem execute_listText {list opening closing : String} {columns : List String} {text : String → String}
    (name : String) (hlist : memory.scope.lookup list = some (.list ((columns.map text).map .text)))
    (hopening : Plain opening) (hclosing : Plain closing) (hopen : Lacks ']' opening)
    (htext : ∀ column ∈ columns, ∀ c ∈ ['[', ']'], Lacks c (text column)) :
    (setTo name (listText list opening closing)).execute memory
      =
    .ok (memory.set name (.text (opening ++ ", ".intercalate (columns.map text) ++ closing))) := by
  apply execute_setTo
  apply evaluate?_listText hlist hopening hclosing hopen
  rwa [List.forall_mem_map]

end Requests

theorem gatherings_create : Gatherings [("cols", Sql.identifier), ("vals", Sql.placeholder)] where
  distinct := by decide
  apart := by decide
  texts := by
    intro list hlist scope column hname hcolumn
    simp only [List.mem_cons, List.not_mem_nil, or_false] at hlist
    rcases hlist with rfl | rfl
    . exact interpolate?_identifier hname hcolumn
    . exact interpolate?_placeholder hname hcolumn

theorem gatherings_update : Gatherings [("assignments", Sql.assignment)] where
  distinct := by decide
  apart := by decide
  texts := by
    intro list hlist scope column hname hcolumn
    rw [List.mem_singleton.mp hlist]
    exact interpolate?_assignment hname hcolumn

end Resolver
end TableGraph
