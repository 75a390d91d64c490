import TableGraph.Proofs.Template.Parts
import TableGraph.Template.Printer

/-!
The order in which a tree is rendered, and what that has to do with failures: rendering comes to each part of a
tree once, in an order that is not the one in which the parts are written, and fails with the first problem that it
comes to.
-/

namespace TableGraph
namespace Template

mutual

/-- A tree and all trees in it, in the order in which rendering comes to them: the body of a loop goes before
its head, and the first body of a branch before its condition. -/
def visited : Template → List Template
  | .object members => .object members :: visitedOfMembers members
  | .list items => .list items :: visitedOfAll items
  | .assign target value => .assign target value :: (target.visited ++ value.visited)
  | .sequence steps => .sequence steps :: visitedOfAll steps
  | .forEach item collection body =>
    .forEach item collection body :: (visitedOfAll body ++ item.visited ++ collection.visited)
  | .branch condition thenPart elsePart =>
    .branch condition thenPart elsePart :: (thenPart.visited ++ condition.visited ++ visitedOfElse elsePart)
  | leaf => [leaf]

def visitedOfAll : List Template → List Template
  | [] => []
  | part :: rest => part.visited ++ visitedOfAll rest

def visitedOfMembers : List (String × Template) → List Template
  | [] => []
  | (_, value) :: members => value.visited ++ visitedOfMembers members

def visitedOfElse : Option Template → List Template
  | none => []
  | some elsePart => elsePart.visited

end

mutual

/-- Each part is visited once. -/
theorem perm_visited : ∀ template : Template, template.visited.Perm template.parts
  | .text _ | .int _ | .decimal _ | .bool _ | .null | .reference _ | .effect _ | .raw _ | .comment _
  | .foreign _ => by
    rw [visited, parts]
    all_goals simp
  | .object members => (perm_visitedOfMembers members).cons _
  | .list items => (perm_visitedOfAll items).cons _
  | .assign target value => ((perm_visited target).append (perm_visited value)).cons _
  | .sequence steps => (perm_visitedOfAll steps).cons _
  | .forEach item collection body => by
    rw [visited, parts, List.append_assoc]
    exact (List.perm_append_comm.trans (((perm_visited item).append (perm_visited collection)).append
      (perm_visitedOfAll body))).cons _
  | .branch condition thenPart elsePart => by
    rw [visited, parts]
    exact ((List.perm_append_comm.trans ((perm_visited condition).append (perm_visited thenPart))).append
      (perm_visitedOfElse elsePart)).cons _

theorem perm_visitedOfAll : ∀ templates : List Template, (visitedOfAll templates).Perm (partsOfAll templates)
  | [] => .nil
  | template :: templates => (perm_visited template).append (perm_visitedOfAll templates)

theorem perm_visitedOfMembers :
    ∀ members : List (String × Template), (visitedOfMembers members).Perm (partsOfMembers members)
  | [] => .nil
  | (_, value) :: members => (perm_visited value).append (perm_visitedOfMembers members)

theorem perm_visitedOfElse : ∀ elsePart : Option Template, (visitedOfElse elsePart).Perm (partsOfElse elsePart)
  | none => .nil
  | some elsePart => perm_visited elsePart

end

/-- Why a part has no text, whatever the parts in it are. -/
def problem? : Template → Option RenderProblem
  | .int value => if Text.isWritten value then none else some .overlong
  | .foreign className => some (.foreign className)
  | _ => none

/-- Of the parts that were visited, the first with a problem is what an outcome fails with; without one there is no
failure. -/
def Fails (outcome : Except RenderProblem α) (visits : List Template) : Prop :=
  match outcome with
  | .ok _ => visits.findSome? problem? = none
  | .error problem => visits.findSome? problem? = some problem

namespace Fails

variable {outcome : Except RenderProblem α} {visits later : List Template}

theorem ok (value : α) : Fails (.ok value) [] := rfl

theorem bind {next : α → Except RenderProblem β} (hfirst : Fails outcome visits)
    (hnext : ∀ value, Fails (next value) later) : Fails (outcome >>= next) (visits ++ later) := by
  unfold Fails at hfirst ⊢
  cases outcome with
  | error problem =>
    dsimp only at hfirst
    rw [List.findSome?_append, hfirst]
    rfl
  | ok value =>
    dsimp only at hfirst
    rw [List.findSome?_append, hfirst]
    exact hnext value

theorem map {f : α → β} (hfirst : Fails outcome visits) : Fails (do return f (← outcome)) visits := by
  have hbind := hfirst.bind fun value => Fails.ok (f value)
  rwa [List.append_nil] at hbind

theorem cons {part : Template} (hpart : part.problem? = none) (hfails : Fails outcome visits) :
    Fails outcome (part :: visits) := by
  unfold Fails at hfails ⊢
  rwa [List.findSome?_cons, hpart]

end Fails

mutual

theorem renderAt_fails (depth : Nat) :
    ∀ template : Template, Fails (template.renderAt depth) template.visited
  | .text _ | .decimal _ | .bool _ | .null | .reference _ | .effect _ | .raw _ | .comment _ | .foreign _ => by
    rw [renderAt]
    rfl
  | .int value => by
    change Fails _ [.int value]
    unfold Fails
    rw [renderAt, List.findSome?_singleton, problem?]
    cases Text.isWritten value with
    | _ => rfl
  | .object [] => by
    rw [renderAt]
    rfl
  | .object (member :: members) => by
    rw [renderAt, visited]
    exact .cons rfl (renderMembers_fails (depth + 1) (member :: members)).map
  | .list items => by
    rw [renderAt, visited]
    exact .cons rfl (renderParts_fails depth items).map
  | .assign target value => by
    rw [renderAt, visited]
    exact .cons rfl ((renderAt_fails depth target).bind fun _ => (renderAt_fails depth value).map)
  | .sequence steps => by
    rw [renderAt, visited]
    exact .cons rfl (renderParts_fails depth steps).map
  | .forEach item collection body => by
    rw [renderAt, visited, List.append_assoc]
    refine .cons rfl ((renderParts_fails (depth + 1) body).bind fun _ => ?_)
    exact (renderAt_fails depth item).bind fun _ => (renderAt_fails depth collection).map
  | .branch condition thenPart elsePart => by
    rw [renderAt, visited, List.append_assoc]
    refine .cons rfl ((renderAt_fails (depth + 1) thenPart).bind fun _ => ?_)
    exact (renderAt_fails depth condition).bind fun _ => (renderElse_fails depth elsePart).map

theorem renderParts_fails (depth : Nat) :
    ∀ templates : List Template, Fails (renderParts depth templates) (visitedOfAll templates)
  | [] => by
    rw [renderParts]
    rfl
  | template :: templates => by
    rw [renderParts, visitedOfAll]
    exact (renderAt_fails depth template).bind fun _ => (renderParts_fails depth templates).map

theorem renderMembers_fails (depth : Nat) :
    ∀ members : List (String × Template), Fails (renderMembers depth members) (visitedOfMembers members)
  | [] => by
    rw [renderMembers]
    rfl
  | (_, value) :: members => by
    rw [renderMembers, visitedOfMembers]
    exact (renderAt_fails depth value).bind fun _ => (renderMembers_fails depth members).map

theorem renderElse_fails (depth : Nat) :
    ∀ elsePart : Option Template, Fails (renderElse depth elsePart) (visitedOfElse elsePart)
  | none => by
    rw [renderElse]
    rfl
  | some elsePart => by
    rw [renderElse, visitedOfElse]
    exact (renderAt_fails (depth + 1) elsePart).map

end

end Template
end TableGraph
