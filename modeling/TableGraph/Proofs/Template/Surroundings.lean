import TableGraph.Proofs.Program
import TableGraph.Proofs.Template.Place
import TableGraph.Proofs.Template.Rendering

/-!
What is written around a place in a tree. It is the same text whatever stands there, and the tree at the place is
rendered for the depth of the place.
-/

namespace TableGraph

namespace Text

/-- Every text is written between the same two ones. -/
def Encloses (write : String → String) : Prop :=
  ∃ before after, ∀ text, write text = before ++ text ++ after

theorem encloses_self : Encloses fun text => text :=
  ⟨"", "", fun text => by rw [String.empty_append, String.append_empty]⟩

namespace Encloses

variable {write inner : String → String}

theorem before (hwrite : Encloses write) (first : String) : Encloses fun text => first ++ write text := by
  obtain ⟨before, after, heq⟩ := hwrite
  refine ⟨first ++ before, after, fun text => ?_⟩
  simp only [heq, String.append_assoc]

theorem behind (hwrite : Encloses write) (last : String) : Encloses fun text => write text ++ last := by
  obtain ⟨before, after, heq⟩ := hwrite
  refine ⟨before, after ++ last, fun text => ?_⟩
  simp only [heq, String.append_assoc]

theorem comp (hwrite : Encloses write) (hinner : Encloses inner) : Encloses fun text => write (inner text) := by
  obtain ⟨before, after, heq⟩ := hwrite
  obtain ⟨before', after', heq'⟩ := hinner
  refine ⟨before ++ before', after' ++ after, fun text => ?_⟩
  simp only [heq, heq', String.append_assoc]

theorem intercalate (hwrite : Encloses write) (separator : String) (front rest : List String) :
    Encloses fun text => separator.intercalate (front ++ write text :: rest) := by
  induction front with
  | nil =>
    cases rest with
    | nil =>
      simp only [List.nil_append, String.intercalate_singleton]
      exact hwrite
    | cons next rest =>
      simp only [List.nil_append, String.intercalate_cons_cons]
      exact (hwrite.behind separator).behind _
  | cons first front ih =>
    have hne : ∀ text, front ++ write text :: rest ≠ [] := by simp
    simp only [List.cons_append, String.intercalate_cons_of_ne_nil (hne _)]
    exact ih.before (first ++ separator)

end Encloses

end Text

namespace Template

open Text (encloses_self)

variable {tree : Template}

theorem IsProper.of_mem_children {child : Template} (hproper : tree.IsProper) (hchild : child ∈ tree.children) :
    child.IsProper :=
  fun part hpart => hproper part (mem_parts_of_mem_children hchild hpart)

theorem renderParts_eq_mapM (depth : Nat) (trees : List Template) :
    renderParts depth trees = trees.mapM (renderAt depth) := by
  induction trees with
  | nil => rw [renderParts, List.mapM_nil]; rfl
  | cons tree trees ih => rw [renderParts, List.mapM_cons, ih]

def renderMember (depth : Nat) (member : String × Template) : Except RenderProblem String :=
  (member.2.renderAt depth).map (margin depth ++ Json.literal member.1 ++ ": " ++ ·)

theorem renderMembers_eq_mapM (depth : Nat) (members : List (String × Template)) :
    renderMembers depth members = members.mapM (renderMember depth) := by
  induction members with
  | nil => rw [renderMembers, List.mapM_nil]; rfl
  | cons member members ih =>
    rw [renderMembers, List.mapM_cons, ih, renderMember]
    cases member.2.renderAt depth with
    | _ => rfl

theorem renderAt_object {members : List (String × Template)} (hmembers : members ≠ []) (depth : Nat) :
    (object members).renderAt depth = do
      let lines ← renderMembers (depth + 1) members
      return "\x7b\n" ++ ",\n".intercalate lines ++ "\n" ++ margin depth ++ "\x7d" := by
  cases members with
  | nil => exact absurd rfl hmembers
  | cons member members => rw [renderAt]

theorem exists_renderParts {trees : List Template} (hproper : ∀ tree ∈ trees, tree.IsProper) (depth : Nat) :
    ∃ texts, renderParts depth trees = .ok texts := by
  rw [renderParts_eq_mapM]
  exact exists_mapM_eq_ok fun tree htree => (hproper tree htree).exists_renderAt depth

theorem exists_renderElse {elsePart : Option Template} (hproper : ∀ tree ∈ elsePart, tree.IsProper) (depth : Nat) :
    ∃ lines, renderElse depth elsePart = .ok lines := by
  cases elsePart with
  | none => exact ⟨"", by rw [renderElse]⟩
  | some tree =>
    obtain ⟨text, htext⟩ := (hproper tree rfl).exists_renderAt (depth + 1)
    rw [renderElse, htext]
    exact ⟨_, rfl⟩

theorem renderParts_around {before after : List Template}
    (hproper : ∀ part ∈ before ++ tree :: after, part.IsProper) (depth : Nat) :
    ∃ front rest, ∀ other,
      renderParts depth (before ++ other :: after) = (other.renderAt depth).map fun text => front ++ text :: rest := by
  rw [List.forall_mem_append, List.forall_mem_cons] at hproper
  simp only [renderParts_eq_mapM]
  exact mapM_around (fun part hpart => (hproper.left part hpart).exists_renderAt depth)
    fun part hpart => (hproper.right.right part hpart).exists_renderAt depth

theorem renderMembers_around {before after : List (String × Template)} {name : String}
    (hproper : ∀ member ∈ before ++ (name, tree) :: after, member.2.IsProper) (depth : Nat) :
    ∃ front rest, ∀ other,
      renderMembers depth (before ++ (name, other) :: after)
        =
      (other.renderAt depth).map fun text =>
        front ++ (margin depth ++ Json.literal name ++ ": " ++ text) :: rest := by
  have hrender : ∀ member : String × Template, member.2.IsProper →
      ∃ line, renderMember depth member = .ok line := by
    intro member hmember
    obtain ⟨text, htext⟩ := hmember.exists_renderAt depth
    rw [renderMember, htext]
    exact ⟨_, rfl⟩
  rw [List.forall_mem_append, List.forall_mem_cons] at hproper
  obtain ⟨front, rest, hfill⟩ := mapM_around (fun member hmember => hrender member (hproper.left member hmember))
    fun member hmember => hrender member (hproper.right.right member hmember)
  refine ⟨front, rest, fun other => ?_⟩
  rw [renderMembers_eq_mapM, hfill, renderMember]
  cases other.renderAt depth with
  | _ => rfl

/-- Around a tree the next larger one writes the same text, whatever the tree is. -/
theorem Frame.renderAt_fill {frame : Frame} (hproper : (frame.fill tree).IsProper) (depth : Nat) :
    ∃ write, Text.Encloses write ∧
      ∀ other, (frame.fill other).renderAt depth = (other.renderAt (depth + frame.depth)).map write := by
  cases frame with
  | member before name after =>
    have hmembers : ∀ member ∈ before ++ (name, tree) :: after, member.2.IsProper :=
      fun member hmember => hproper.of_mem_children (List.mem_map_of_mem hmember)
    obtain ⟨front, rest, hlines⟩ := renderMembers_around hmembers (depth + 1)
    refine ⟨_, (((((encloses_self.before (margin (depth + 1) ++ Json.literal name ++ ": ")).intercalate ",\n" front
      rest).before "\x7b\n").behind "\n").behind (margin depth)).behind "\x7d", fun other => ?_⟩
    rw [fill, renderAt_object (by simp), hlines, Frame.depth]
    cases other.renderAt (depth + 1) with
    | _ => rfl
  | listItem before after =>
    have hitems : ∀ item ∈ before ++ tree :: after, item.IsProper := fun item => hproper.of_mem_children
    obtain ⟨front, rest, htexts⟩ := renderParts_around hitems depth
    refine ⟨_, ((encloses_self.intercalate ", " front rest).before "[").behind "]", fun other => ?_⟩
    rw [fill, renderAt, htexts, Frame.depth, Nat.add_zero]
    cases other.renderAt depth with
    | _ => rfl
  | assignTarget value =>
    have hvalue : value.IsProper := hproper.of_mem_children (by simp [fill, children])
    obtain ⟨text, htext⟩ := hvalue.exists_renderAt depth
    refine ⟨_, (((encloses_self.before "#set( ").behind " = ").behind text).behind " )", fun other => ?_⟩
    rw [fill, renderAt, htext, Frame.depth, Nat.add_zero]
    cases other.renderAt depth with
    | _ => rfl
  | assignValue target =>
    have htarget : target.IsProper := hproper.of_mem_children (by simp [fill, children])
    obtain ⟨text, htext⟩ := htarget.exists_renderAt depth
    refine ⟨_, (encloses_self.before ("#set( " ++ text ++ " = ")).behind " )", fun other => ?_⟩
    rw [fill, renderAt, htext, Frame.depth, Nat.add_zero]
    cases other.renderAt depth with
    | _ => rfl
  | step before after =>
    have hsteps : ∀ step ∈ before ++ tree :: after, step.IsProper := fun step => hproper.of_mem_children
    obtain ⟨front, rest, htexts⟩ := renderParts_around hsteps depth
    refine ⟨_, encloses_self.intercalate ("\n" ++ margin depth) front rest, fun other => ?_⟩
    rw [fill, renderAt, htexts, Frame.depth, Nat.add_zero]
    cases other.renderAt depth with
    | _ => rfl
  | loopItem collection body =>
    have hcollection : collection.IsProper := hproper.of_mem_children (by simp [fill, children])
    have hbody : ∀ step ∈ body, step.IsProper :=
      fun step hstep => hproper.of_mem_children (by simp [fill, children, hstep])
    obtain ⟨text, htext⟩ := hcollection.exists_renderAt depth
    obtain ⟨lines, hlines⟩ := exists_renderParts hbody (depth + 1)
    refine ⟨_, (((((((encloses_self.before "#foreach( ").behind " in ").behind text).behind " )\n").behind
      ("\n".intercalate (lines.map (margin (depth + 1) ++ ·)))).behind "\n").behind (margin depth)).behind "#end",
      fun other => ?_⟩
    rw [fill, renderAt, hlines, htext, Frame.depth, Nat.add_zero]
    cases other.renderAt depth with
    | _ => rfl
  | loopCollection item body =>
    have hitem : item.IsProper := hproper.of_mem_children (by simp [fill, children])
    have hbody : ∀ step ∈ body, step.IsProper :=
      fun step hstep => hproper.of_mem_children (by simp [fill, children, hstep])
    obtain ⟨text, htext⟩ := hitem.exists_renderAt depth
    obtain ⟨lines, hlines⟩ := exists_renderParts hbody (depth + 1)
    refine ⟨_, (((((encloses_self.before ("#foreach( " ++ text ++ " in ")).behind " )\n").behind
      ("\n".intercalate (lines.map (margin (depth + 1) ++ ·)))).behind "\n").behind (margin depth)).behind "#end",
      fun other => ?_⟩
    rw [fill, renderAt, hlines, htext, Frame.depth, Nat.add_zero]
    cases other.renderAt depth with
    | _ => rfl
  | loopStep item collection before after =>
    have hitem : item.IsProper := hproper.of_mem_children (by simp [fill, children])
    have hcollection : collection.IsProper := hproper.of_mem_children (by simp [fill, children])
    have hbody : ∀ step ∈ before ++ tree :: after, step.IsProper :=
      fun step hstep => hproper.of_mem_children (List.mem_cons_of_mem _ (List.mem_cons_of_mem _ hstep))
    obtain ⟨first, hfirst⟩ := hitem.exists_renderAt depth
    obtain ⟨second, hsecond⟩ := hcollection.exists_renderAt depth
    obtain ⟨front, rest, hlines⟩ := renderParts_around hbody (depth + 1)
    have hindented : Text.Encloses fun text =>
        "\n".intercalate ((front ++ text :: rest).map (margin (depth + 1) ++ ·)) := by
      simp only [List.map_append, List.map_cons]
      exact (encloses_self.before (margin (depth + 1))).intercalate "\n" _ _
    refine ⟨_, (((hindented.before ("#foreach( " ++ first ++ " in " ++ second ++ " )\n")).behind "\n").behind
      (margin depth)).behind "#end", fun other => ?_⟩
    rw [fill, renderAt, hlines, hfirst, hsecond, Frame.depth]
    cases other.renderAt (depth + 1) with
    | _ => rfl
  | branchCondition thenPart elsePart =>
    have hthenPart : thenPart.IsProper := hproper.of_mem_children (by simp [fill, children])
    have helsePart : ∀ part ∈ elsePart, part.IsProper := fun part hpart =>
      hproper.of_mem_children (by simp [fill, children, Option.mem_def.mp hpart])
    obtain ⟨text, htext⟩ := hthenPart.exists_renderAt (depth + 1)
    obtain ⟨lines, hlines⟩ := exists_renderElse helsePart depth
    refine ⟨_, (((((((encloses_self.before "#if( ").behind " )\n").behind (margin (depth + 1))).behind text).behind
      "\n").behind lines).behind (margin depth)).behind "#end", fun other => ?_⟩
    rw [fill, renderAt, htext, hlines, Frame.depth, Nat.add_zero]
    cases other.renderAt depth with
    | _ => rfl
  | branchThen condition elsePart =>
    have hcondition : condition.IsProper := hproper.of_mem_children (by simp [fill, children])
    have helsePart : ∀ part ∈ elsePart, part.IsProper := fun part hpart =>
      hproper.of_mem_children (by simp [fill, children, Option.mem_def.mp hpart])
    obtain ⟨text, htext⟩ := hcondition.exists_renderAt depth
    obtain ⟨lines, hlines⟩ := exists_renderElse helsePart depth
    refine ⟨_, ((((encloses_self.before ("#if( " ++ text ++ " )\n" ++ margin (depth + 1))).behind "\n").behind
      lines).behind (margin depth)).behind "#end", fun other => ?_⟩
    rw [fill, renderAt, htext, hlines, Frame.depth]
    cases other.renderAt (depth + 1) with
    | _ => rfl
  | branchElse condition thenPart =>
    have hcondition : condition.IsProper := hproper.of_mem_children (by simp [fill, children])
    have hthenPart : thenPart.IsProper := hproper.of_mem_children (by simp [fill, children])
    obtain ⟨head, hhead⟩ := hcondition.exists_renderAt depth
    obtain ⟨text, htext⟩ := hthenPart.exists_renderAt (depth + 1)
    refine ⟨_, ((((encloses_self.before (margin depth ++ "#else\n" ++ margin (depth + 1))).behind "\n").before
      ("#if( " ++ head ++ " )\n" ++ margin (depth + 1) ++ text ++ "\n")).behind (margin depth)).behind "#end",
      fun other => ?_⟩
    rw [fill, renderAt, htext, hhead, renderElse, Frame.depth]
    cases other.renderAt (depth + 1) with
    | _ => rfl

theorem IsProper.of_fill {place : Place} (hproper : (place.fill tree).IsProper) : tree.IsProper := by
  induction place with
  | nil => exact hproper
  | cons frame place ih => exact ih (hproper.of_mem_children (frame.mem_children_fill _))

theorem Place.renderAt_fill {place : Place} (hproper : (place.fill tree).IsProper) (depth : Nat) :
    ∃ write, Text.Encloses write ∧
      ∀ other, (place.fill other).renderAt depth = (other.renderAt (depth + place.depth)).map write := by
  induction place generalizing depth with
  | nil =>
    refine ⟨_, encloses_self, fun other => ?_⟩
    rw [Place.fill_nil, Place.depth_nil, Nat.add_zero]
    cases other.renderAt depth with
    | _ => rfl
  | cons frame place ih =>
    have hinner : (fill place tree).IsProper := hproper.of_mem_children (frame.mem_children_fill _)
    obtain ⟨outer, houter, hframe⟩ := Frame.renderAt_fill hproper depth
    obtain ⟨inner, hinner, hplace⟩ := ih hinner (depth + frame.depth)
    refine ⟨_, houter.comp hinner, fun other => ?_⟩
    rw [Place.fill_cons, hframe, hplace, Place.depth_cons, ← Nat.add_assoc]
    cases other.renderAt (depth + frame.depth + Place.depth place) with
    | _ => rfl

end Template
end TableGraph
