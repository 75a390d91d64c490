import TableGraph.Proofs.Template.Parts

/-!
Places in a tree. A tree is part of another one if there is a place in that one where it stands; at the place
there may as well stand another tree.
-/

namespace TableGraph
namespace Template

def children : Template → List Template
  | .object members => members.map (·.2)
  | .list items => items
  | .assign target value => [target, value]
  | .sequence steps => steps
  | .forEach item collection body => item :: collection :: body
  | .branch condition thenPart elsePart => condition :: thenPart :: elsePart.toList
  | _ => []

section Parts

variable {part tree child : Template}

theorem self_mem_parts (tree : Template) : tree ∈ tree.parts := by
  cases tree with
  | _ => simp

theorem mem_partsOfAll_iff {trees : List Template} :
    part ∈ partsOfAll trees ↔ ∃ tree ∈ trees, part ∈ tree.parts := by
  induction trees with
  | nil => simp
  | cons tree trees ih => simp [ih]

theorem mem_partsOfMembers_iff {members : List (String × Template)} :
    part ∈ partsOfMembers members ↔ ∃ tree ∈ members.map (·.2), part ∈ tree.parts := by
  induction members with
  | nil => simp
  | cons member members ih => simp [ih]

theorem mem_parts_iff : part ∈ tree.parts ↔ part = tree ∨ ∃ child ∈ tree.children, part ∈ child.parts := by
  cases tree with
  | object members => rw [parts, List.mem_cons, mem_partsOfMembers_iff, children]
  | list items => rw [parts, List.mem_cons, mem_partsOfAll_iff, children]
  | sequence steps => rw [parts, List.mem_cons, mem_partsOfAll_iff, children]
  | assign target value => simp [children]
  | forEach item collection body => simp [children, mem_partsOfAll_iff]
  | branch condition thenPart elsePart =>
    cases elsePart with
    | none => simp [children]
    | some elsePart => simp [children]
  | _ => simp [children]

theorem mem_parts_of_mem_children (hchild : child ∈ tree.children) (hpart : part ∈ child.parts) :
    part ∈ tree.parts :=
  mem_parts_iff.mpr (.inr ⟨child, hchild, hpart⟩)

theorem sizeOf_lt_of_mem_children (hchild : child ∈ tree.children) : sizeOf child < sizeOf tree := by
  cases tree with
  | object members =>
    obtain ⟨⟨name, value⟩, hmember, rfl⟩ := List.mem_map.mp hchild
    have hsize := List.sizeOf_lt_of_mem hmember
    rw [Prod.mk.sizeOf_spec] at hsize
    rw [object.sizeOf_spec]
    dsimp only
    omega
  | list items =>
    have hsize : sizeOf child < sizeOf items := List.sizeOf_lt_of_mem hchild
    rw [list.sizeOf_spec]
    omega
  | sequence steps =>
    have hsize : sizeOf child < sizeOf steps := List.sizeOf_lt_of_mem hchild
    rw [sequence.sizeOf_spec]
    omega
  | assign target value =>
    rw [children, List.mem_cons, List.mem_singleton] at hchild
    rw [assign.sizeOf_spec]
    rcases hchild with rfl | rfl
    . omega
    . omega
  | forEach item collection body =>
    rw [children, List.mem_cons, List.mem_cons] at hchild
    rw [forEach.sizeOf_spec]
    rcases hchild with rfl | rfl | hbody
    . omega
    . omega
    . have hsize := List.sizeOf_lt_of_mem hbody
      omega
  | branch condition thenPart elsePart =>
    rw [children, List.mem_cons, List.mem_cons, Option.mem_toList] at hchild
    rw [branch.sizeOf_spec]
    rcases hchild with rfl | rfl | rfl
    . omega
    . omega
    . rw [Option.some.sizeOf_spec]
      omega
  | _ => cases hchild

end Parts

/-- What stands beside a tree in the next larger one. -/
inductive Frame where
  | member (before : List (String × Template)) (name : String) (after : List (String × Template))
  | listItem (before after : List Template)
  | assignTarget (value : Template)
  | assignValue (target : Template)
  | step (before after : List Template)
  | loopItem (collection : Template) (body : List Template)
  | loopCollection (item : Template) (body : List Template)
  | loopStep (item collection : Template) (before after : List Template)
  | branchCondition (thenPart : Template) (elsePart : Option Template)
  | branchThen (condition : Template) (elsePart : Option Template)
  | branchElse (condition thenPart : Template)
  deriving Repr

namespace Frame

def fill : Frame → Template → Template
  | .member before name after, tree => .object (before ++ (name, tree) :: after)
  | .listItem before after, tree => .list (before ++ tree :: after)
  | .assignTarget value, tree => .assign tree value
  | .assignValue target, tree => .assign target tree
  | .step before after, tree => .sequence (before ++ tree :: after)
  | .loopItem collection body, tree => .forEach tree collection body
  | .loopCollection item body, tree => .forEach item tree body
  | .loopStep item collection before after, tree => .forEach item collection (before ++ tree :: after)
  | .branchCondition thenPart elsePart, tree => .branch tree thenPart elsePart
  | .branchThen condition elsePart, tree => .branch condition tree elsePart
  | .branchElse condition thenPart, tree => .branch condition thenPart (some tree)

def depth : Frame → Nat
  | .member _ _ _ | .loopStep _ _ _ _ | .branchThen _ _ | .branchElse _ _ => 1
  | .listItem _ _ | .assignTarget _ | .assignValue _ | .step _ _ | .loopItem _ _ | .loopCollection _ _
  | .branchCondition _ _ => 0

theorem mem_children_fill (frame : Frame) (tree : Template) : tree ∈ (frame.fill tree).children := by
  cases frame with
  | _ => simp [fill, children]

end Frame

theorem exists_frame {tree child : Template} (hchild : child ∈ tree.children) :
    ∃ frame : Frame, frame.fill child = tree := by
  cases tree with
  | object members =>
    obtain ⟨⟨name, value⟩, hmember, rfl⟩ := List.mem_map.mp hchild
    obtain ⟨before, after, rfl⟩ := List.append_of_mem hmember
    exact ⟨.member before name after, rfl⟩
  | list items =>
    obtain ⟨before, after, rfl⟩ := List.append_of_mem hchild
    exact ⟨.listItem before after, rfl⟩
  | sequence steps =>
    obtain ⟨before, after, rfl⟩ := List.append_of_mem hchild
    exact ⟨.step before after, rfl⟩
  | assign target value =>
    simp only [children, List.mem_cons, List.not_mem_nil, or_false] at hchild
    rcases hchild with rfl | rfl
    . exact ⟨.assignTarget value, rfl⟩
    . exact ⟨.assignValue target, rfl⟩
  | forEach item collection body =>
    simp only [children, List.mem_cons] at hchild
    rcases hchild with rfl | rfl | hbody
    . exact ⟨.loopItem collection body, rfl⟩
    . exact ⟨.loopCollection item body, rfl⟩
    . obtain ⟨before, after, rfl⟩ := List.append_of_mem hbody
      exact ⟨.loopStep item collection before after, rfl⟩
  | branch condition thenPart elsePart =>
    simp only [children, List.mem_cons, Option.mem_toList] at hchild
    rcases hchild with rfl | rfl | rfl
    . exact ⟨.branchCondition thenPart elsePart, rfl⟩
    . exact ⟨.branchThen condition elsePart, rfl⟩
    . exact ⟨.branchElse condition thenPart, rfl⟩
  | _ => cases hchild

/-- A place in a tree: what stands beside it, from the whole tree on. -/
abbrev Place := List Frame

namespace Place

def fill (place : Place) (tree : Template) : Template :=
  place.foldr Frame.fill tree

def depth (place : Place) : Nat :=
  place.foldr (fun frame depth => frame.depth + depth) 0

variable (frame : Frame) (place : Place) (tree : Template)

@[simp]
theorem fill_nil : fill [] tree = tree := rfl

@[simp]
theorem fill_cons : fill (frame :: place) tree = frame.fill (fill place tree) := rfl

@[simp]
theorem depth_nil : depth [] = 0 := rfl

@[simp]
theorem depth_cons : depth (frame :: place) = frame.depth + depth place := rfl

theorem mem_parts_fill : tree ∈ (place.fill tree).parts := by
  induction place with
  | nil => exact self_mem_parts tree
  | cons frame place ih => exact mem_parts_of_mem_children (frame.mem_children_fill (fill place tree)) ih

end Place

theorem exists_place {part : Template} (tree : Template) (hpart : part ∈ tree.parts) :
    ∃ place : Place, place.fill part = tree := by
  rcases mem_parts_iff.mp hpart with rfl | ⟨child, hchild, hpart⟩
  . exact ⟨[], rfl⟩
  . obtain ⟨place, hplace⟩ := exists_place child hpart
    obtain ⟨frame, hframe⟩ := exists_frame hchild
    refine ⟨frame :: place, ?_⟩
    rw [Place.fill_cons, hplace, hframe]
termination_by sizeOf tree
decreasing_by exact sizeOf_lt_of_mem_children hchild

theorem mem_parts_iff_exists_place {part tree : Template} :
    part ∈ tree.parts ↔ ∃ place : Place, place.fill part = tree := by
  constructor
  . exact exists_place tree
  . rintro ⟨place, rfl⟩
    exact Place.mem_parts_fill place part

end Template
end TableGraph
