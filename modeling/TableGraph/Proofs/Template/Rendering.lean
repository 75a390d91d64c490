import TableGraph.Proofs.Decimal.Notation
import TableGraph.Proofs.Resolver.Operations
import TableGraph.Proofs.TableTypes
import TableGraph.Proofs.Template.Visited

/-!
Which trees can be rendered: those without foreign values and without integers that are too long to be written, and
so the templates of all resolvers. In any other tree the first of these that is visited is at fault.
-/

namespace TableGraph
namespace Template

def IsProper (template : Template) : Prop :=
  ∀ part ∈ template.parts, part.problem? = none

theorem isProper_iff {template : Template} :
    template.IsProper ↔ template.visited.findSome? problem? = none := by
  rw [List.findSome?_eq_none_iff]
  exact forall_congr' fun _ => imp_congr_left template.perm_visited.mem_iff.symm

theorem problem?_eq_none_iff {part : Template} :
    part.problem? = none
      ↔
    (∀ className, part ≠ .foreign className) ∧ ∀ value, part = .int value → Text.isWritten value = true := by
  cases part with
  | int value => simp [problem?]
  | _ => simp [problem?]

theorem isProper_iff_not_mem {template : Template} :
    template.IsProper
      ↔
    (∀ className, .foreign className ∉ template.parts) ∧
      ∀ value, .int value ∈ template.parts → Text.isWritten value = true := by
  unfold IsProper
  simp only [problem?_eq_none_iff]
  constructor
  . intro hproper
    exact ⟨fun className hmem => (hproper _ hmem).left className rfl,
      fun value hmem => (hproper _ hmem).right value rfl⟩
  . rintro ⟨hforeign, hwritten⟩ part hpart
    refine ⟨?_, ?_⟩
    . rintro className rfl
      exact hforeign className hpart
    . rintro value rfl
      exact hwritten value hpart

theorem renderAt_eq_error_iff {template : Template} {depth : Nat} {problem : RenderProblem} :
    template.renderAt depth = .error problem ↔ template.visited.findSome? problem? = some problem := by
  have hfails := renderAt_fails depth template
  unfold Fails at hfails
  split at hfails
  . next hrender => simp [hrender, hfails]
  . next hrender => simp [hrender, hfails]

theorem exists_renderAt_iff {template : Template} {depth : Nat} :
    (∃ text, template.renderAt depth = .ok text) ↔ template.IsProper := by
  have hfails := renderAt_fails depth template
  unfold Fails at hfails
  rw [isProper_iff]
  split at hfails
  . next hrender => simp [hrender, hfails]
  . next hrender => simp [hrender, hfails]

theorem IsProper.exists_renderAt {template : Template} (hproper : template.IsProper) (depth : Nat) :
    ∃ text, template.renderAt depth = .ok text :=
  exists_renderAt_iff.mpr hproper

def rendering (template : Template) : String :=
  template.render.toOption.getD ""

theorem IsProper.render {template : Template} (hproper : template.IsProper) :
    template.render = .ok template.rendering := by
  obtain ⟨text, htext⟩ := hproper.exists_renderAt 0
  rw [rendering, Template.render, htext]
  rfl

end Template

namespace Resolver

structure IsProper (resolver : Resolver) : Prop where
  request : resolver.request.IsProper
  response : resolver.response.IsProper

variable (table key : String) (columns : List String)

theorem get_isProper : (get table key).IsProper := by
  constructor
  . simp [Template.isProper_iff_not_mem, get, requestOf, keyValue, valueJson]
  . simp [Template.isProper_iff_not_mem, get, raiseError, firstRow, resultJson]

theorem list_isProper : (list table).IsProper := by
  constructor
  . simp [Template.isProper_iff_not_mem, list, requestOf]
  . simp [Template.isProper_iff_not_mem, list, raiseError, resultJson]

theorem create_isProper (key? : Option String) : (create table columns key?).IsProper := by
  cases key? with
  | none =>
    constructor
    . simp [Template.isProper_iff_not_mem, create, setTo, forEachGiven, addTo, bindColumn, bind, listText,
        requestOf, valueJson]
    . simp [Template.isProper_iff_not_mem, create, raiseError, valueJson]
  | some key =>
    constructor
    . simp [Template.isProper_iff_not_mem, create, setTo, forEachGiven, addTo, bindColumn, bind, listText,
        requestOf, valueJson]
    . simp [Template.isProper_iff_not_mem, create, raiseError, firstRow, resultJson]

theorem update_isProper : (update table columns key).IsProper := by
  constructor
  . simp [Template.isProper_iff_not_mem, update, setTo, forEachGiven, addTo, bindColumn, bind, listText, requestOf,
      valueJson]
  . simp [Template.isProper_iff_not_mem, update, raiseError, firstRow, resultJson]

theorem delete_isProper : (delete table key).IsProper := by
  constructor
  . simp [Template.isProper_iff_not_mem, delete, requestOf, keyValue, valueJson]
  . simp [Template.isProper_iff_not_mem, delete, raiseError, firstRow, resultJson]

end Resolver

namespace TableTypes

theorem resolvers_proper (types : TableTypes) : ∀ made ∈ types.resolvers, made.2.IsProper := by
  cases hkey : types.key? with
  | none =>
    rw [resolvers_of_keyless hkey]
    simp only [List.forall_mem_cons]
    exact ⟨Resolver.list_isProper _, Resolver.create_isProper _ _ _, by simp⟩
  | some key =>
    rw [resolvers_of_key hkey]
    simp only [List.forall_mem_cons]
    exact ⟨Resolver.get_isProper _ _, Resolver.list_isProper _, Resolver.create_isProper _ _ _,
      Resolver.update_isProper _ _ _, Resolver.delete_isProper _ _, by simp⟩

theorem render_of_resolver {types : TableTypes} {operation : Operation} {resolver : Resolver}
    (hresolver : types.resolver operation = .ok resolver) :
    ∃ request response, resolver.request.render = .ok request ∧ resolver.response.render = .ok response := by
  have hproper := types.resolvers_proper _ (mem_resolvers_iff.mpr hresolver)
  exact ⟨_, _, hproper.request.render, hproper.response.render⟩

end TableTypes

namespace Template

theorem exists_error_iff {template : Template} {depth : Nat} :
    (∃ problem, template.renderAt depth = .error problem)
      ↔
    (∃ className, .foreign className ∈ template.parts) ∨
      ∃ value, .int value ∈ template.parts ∧ Text.isWritten value = false := by
  simp only [renderAt_eq_error_iff]
  rw [← Option.ne_none_iff_exists', ne_eq, ← isProper_iff, isProper_iff_not_mem, not_and_or]
  simp

theorem eq_int_of_problem? {part : Template} (hpart : part.problem? = some .overlong) :
    ∃ value, part = .int value ∧ Text.isWritten value = false := by
  cases part with
  | int value => exact ⟨value, rfl, by simpa [problem?] using hpart⟩
  | _ => simp [problem?] at hpart

/--
A tree cannot be rendered exactly if one of its parts is a foreign value, or an integer that is too long to be
written. The first of these in the order in which the parts are visited, each of them once, is then at fault, and
the fault of a foreign value names its class. So foreign values alone count in a tree whose integers can be written.
The templates of all resolvers of a table can be rendered.
-/
theorem render_outcome (template : Template) :
    ((∃ problem, template.render = .error problem)
      ↔
      (∃ className, .foreign className ∈ template.parts) ∨
        ∃ value, .int value ∈ template.parts ∧ Text.isWritten value = false) ∧
    template.visited.Perm template.parts ∧
    (∀ problem, template.render = .error problem ↔ template.visited.findSome? problem? = some problem) ∧
    ((∀ value, .int value ∈ template.parts → Text.isWritten value = true) →
      ((∃ className, template.render = .error (.foreign className))
        ↔
        ∃ className, .foreign className ∈ template.parts)) ∧
    (∀ className, ∃ fault, RenderProblem.failure (.foreign className) = .fault fault ∧
      fault.kind = .template ∧ fault.message = "Cannot render template node of type " ++ className) ∧
    ∀ (types : TableTypes) (operation : Operation) (resolver : Resolver),
      types.resolver operation = .ok resolver →
        ∃ request response,
          resolver.request.render = .ok request ∧ resolver.response.render = .ok response := by
  refine ⟨exists_error_iff, template.perm_visited, fun _ => renderAt_eq_error_iff, ?_,
    fun _ => ⟨_, rfl, rfl, rfl⟩, fun _ _ _ => TableTypes.render_of_resolver⟩
  intro hwritten
  have hall : ∀ value, .int value ∈ template.parts → Text.isWritten value ≠ false :=
    fun value hmem => ne_false_of_eq_true (hwritten value hmem)
  constructor
  . rintro ⟨className, hrender⟩
    refine (exists_error_iff.mp ⟨_, hrender⟩).resolve_right ?_
    rintro ⟨value, hmem, hlong⟩
    exact hall value hmem hlong
  . intro hforeign
    obtain ⟨problem, hrender⟩ := exists_error_iff.mpr (.inl hforeign)
    cases problem with
    | foreign className => exact ⟨className, hrender⟩
    | overlong =>
      obtain ⟨part, hpart, hproblem⟩ := List.exists_of_findSome?_eq_some (renderAt_eq_error_iff.mp hrender)
      obtain ⟨value, rfl, hlong⟩ := eq_int_of_problem? hproblem
      exact absurd hlong (hall value (template.perm_visited.mem_iff.mp hpart))

theorem render_outcome_branch :
    (branch (.foreign "int") (.sequence [.int 7, .foreign "str", .foreign "dict"]) (some (.foreign "list"))).render =
      .error (.foreign "str") ∧
    ∃ resolver request response,
      ((sampleTables.head (by decide)).typesWith []).resolver .update = .ok resolver ∧
      resolver.request.render = .ok request ∧ resolver.response.render = .ok response := by
  obtain ⟨-, -, hfirst, -, -, hresolvers⟩ := render_outcome
    (branch (.foreign "int") (.sequence [.int 7, .foreign "str", .foreign "dict"]) (some (.foreign "list")))
  refine ⟨(hfirst _).mpr rfl, ?_⟩
  obtain ⟨request, response, hrequest, hresponse⟩ :=
    hresolvers ((sampleTables.head (by decide)).typesWith []) .update _ rfl
  exact ⟨_, request, response, rfl, hrequest, hresponse⟩

/-- An integer that is too long to be written comes before a foreign value, and so nothing tells of the latter. -/
theorem render_overlong_first :
    .foreign "object" ∈ (list [.int (.ofNat (Nat.pow 10 Text.maxDigits)), .foreign "object"]).parts ∧
    (list [.int (.ofNat (Nat.pow 10 Text.maxDigits)), .foreign "object"]).render = .error .overlong ∧
    RenderProblem.overlong.failure.className = "ValueError" := by
  have hoverlong : Text.isWritten (.ofNat (Nat.pow 10 Text.maxDigits)) = false := Text.isWritten_power
  generalize Int.ofNat (Nat.pow 10 Text.maxDigits) = value at hoverlong ⊢
  refine ⟨by simp, renderAt_eq_error_iff.mpr ?_, rfl⟩
  simp [visited, visitedOfAll, List.findSome?_cons, problem?, hoverlong]

end Template
end TableGraph
