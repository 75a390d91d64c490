import Mathlib.Data.List.Forall2
import TableGraph.Proofs.Decimal.Notation
import TableGraph.Proofs.Template.Directives
import TableGraph.Proofs.Template.Rendering

/-!
The loops and branches of a tree are the blocks of its text. What is written for a part shows the directives of
its own loops and branches, and what is written for a value shows none.
-/

namespace TableGraph
namespace Template

mutual

/-- The blocks of a tree, in the order in which they are written: those in the head of a loop or a branch
come before those in its body. -/
def blocks : Template → List Block
  | .object members => blocksOfMembers members
  | .list items => blocksOfAll items
  | .assign target value => target.blocks ++ value.blocks
  | .sequence steps => blocksOfAll steps
  | .forEach item collection body => [.loop (item.blocks ++ collection.blocks ++ blocksOfAll body)]
  | .branch condition thenPart elsePart =>
    [.branch (condition.blocks ++ thenPart.blocks) (blocksOfElse? elsePart)]
  | _ => []

def blocksOfAll : List Template → List Block
  | [] => []
  | part :: parts => part.blocks ++ blocksOfAll parts

def blocksOfMembers : List (String × Template) → List Block
  | [] => []
  | (_, value) :: members => value.blocks ++ blocksOfMembers members

def blocksOfElse? : Option Template → Option (List Block)
  | none => none
  | some elsePart => some elsePart.blocks

end

theorem directives_blocksOfAll (parts : List Template) :
    directivesOfAll (blocksOfAll parts) = parts.flatMap fun part => directivesOfAll part.blocks := by
  induction parts with
  | nil => rfl
  | cons part parts ih => rw [blocksOfAll, directivesOfAll_append, ih, List.flatMap_cons]

theorem directives_blocksOfMembers (members : List (String × Template)) :
    directivesOfAll (blocksOfMembers members)
      =
    members.flatMap fun member => directivesOfAll member.2.blocks := by
  induction members with
  | nil => rfl
  | cons member members ih => rw [blocksOfMembers, directivesOfAll_append, ih, List.flatMap_cons]

def directivesOfElse : Option Template → List Directive
  | none => []
  | some elsePart => .otherwise :: directivesOfAll elsePart.blocks

theorem directives_forEach (item collection : Template) (body : List Template) :
    directivesOfAll (forEach item collection body).blocks
      =
    [.forEach] ++ directivesOfAll item.blocks ++ directivesOfAll collection.blocks ++
      directivesOfAll (blocksOfAll body) ++ [.finish] := by
  simp [blocks, directivesOfAll, Block.directives]

theorem directives_branch (condition thenPart : Template) (elsePart : Option Template) :
    directivesOfAll (branch condition thenPart elsePart).blocks
      =
    [.branch] ++ directivesOfAll condition.blocks ++ directivesOfAll thenPart.blocks ++
      directivesOfElse elsePart ++ [.finish] := by
  cases elsePart with
  | _ => simp [blocks, blocksOfElse?, directivesOfElse, directivesOfAll, Block.directives]

/-- The texts that one part brings along: its own ones, or the whole of its expression. -/
def leafTexts : Template → List String
  | .reference expression => [expression.source]
  | .effect expression => [expression.argument]
  | part => part.textsHere

/-- A part that can be rendered and brings no mark of a directive along. -/
structure IsUnmarked (part : Template) : Prop where
  proper : part.problem? = none
  lacks : ∀ text ∈ part.leafTexts, Lacks '#' text

theorem lacks_margin (depth : Nat) : Lacks '#' (margin depth) :=
  fun hmem => by cases eq_of_mem_margin hmem

mutual

theorem renderAt_shows (depth : Nat) :
    ∀ tree : Template, (∀ part ∈ tree.parts, part.IsUnmarked) →
      ∃ text, tree.renderAt depth = .ok text ∧ Shows text (directivesOfAll tree.blocks)
  | .text value, hparts => by
    have hvalue := (hparts _ List.mem_cons_self).lacks _ List.mem_cons_self
    exact ⟨_, by rw [renderAt], shows_of_lacks (Json.lacks_literal hvalue (by decide) rfl)⟩
  | .int value, hparts => by
    have hwritten := (problem?_eq_none_iff.mp (hparts _ List.mem_cons_self).proper).right value rfl
    refine ⟨_, ?_, shows_of_lacks ((isNumeric_toString_int value).lacks rfl (by decide))⟩
    rw [renderAt, if_pos hwritten]
  | .decimal value, _ =>
    ⟨_, by rw [renderAt], shows_of_lacks (value.isNumeric_text.lacks rfl (by decide))⟩
  | .bool value, _ => by
    refine ⟨_, by rw [renderAt], shows_of_lacks ?_⟩
    cases value with
    | _ => decide
  | .null, _ => ⟨_, by rw [renderAt], shows_of_lacks (by decide)⟩
  | .reference expression, hparts => by
    have hsource := (hparts _ List.mem_cons_self).lacks _ List.mem_cons_self
    refine ⟨_, by rw [renderAt], shows_of_lacks ?_⟩
    exact lacks_append_iff.mpr ⟨by decide, hsource⟩
  | .effect expression, hparts => by
    have hargument := (hparts _ List.mem_cons_self).lacks _ List.mem_cons_self
    refine ⟨_, by rw [renderAt], shows_of_lacks ?_⟩
    exact lacks_append_iff.mpr ⟨lacks_append_iff.mpr ⟨by decide, hargument⟩, by decide⟩
  | .raw code, hparts => by
    have hcode := (hparts _ List.mem_cons_self).lacks _ List.mem_cons_self
    exact ⟨_, by rw [renderAt], shows_of_lacks hcode⟩
  | .comment remark, hparts => by
    have hremark := (hparts _ List.mem_cons_self).lacks _ List.mem_cons_self
    have hstart : Shows "## " [] := fun _ => rfl
    exact ⟨_, by rw [renderAt], (hstart.behind hremark).behind (by decide)⟩
  | .object [], _ => ⟨_, by rw [renderAt], shows_of_lacks (by decide)⟩
  | .object (member :: members), hparts => by
    rw [parts, List.forall_mem_cons] at hparts
    have hnames : ∀ named ∈ member :: members, Lacks '#' named.1 := List.forall_mem_map.mp hparts.left.lacks
    obtain ⟨lines, hrender, hlines⟩ :=
      renderMembers_shows (depth + 1) (member :: members) hnames hparts.right
    rw [renderAt, hrender, blocks, directives_blocksOfMembers]
    have hjoined := shows_intercalate ",\n" (by decide) hlines
    exact ⟨_, rfl, (((hjoined.before (by decide)).behind (by decide)).behind (lacks_margin depth)).behind
      (by decide)⟩
  | .list items, hparts => by
    rw [parts, List.forall_mem_cons] at hparts
    obtain ⟨texts, hrender, htexts⟩ := renderParts_shows depth items hparts.right
    rw [renderAt, hrender, blocks, directives_blocksOfAll]
    have hjoined := shows_intercalate ", " (by decide) htexts
    exact ⟨_, rfl, (hjoined.before (by decide)).behind (by decide)⟩
  | .assign target value, hparts => by
    rw [parts, List.forall_mem_cons, List.forall_mem_append] at hparts
    obtain ⟨first, hfirst, htarget⟩ := renderAt_shows depth target hparts.right.left
    obtain ⟨second, hsecond, hvalue⟩ := renderAt_shows depth value hparts.right.right
    rw [renderAt, hfirst, hsecond, blocks, directivesOfAll_append]
    have hstart : Shows "#set( " [] := fun _ => rfl
    exact ⟨_, rfl, (((hstart.append htarget).behind (by decide)).append hvalue).behind (by decide)⟩
  | .sequence steps, hparts => by
    rw [parts, List.forall_mem_cons] at hparts
    obtain ⟨texts, hrender, htexts⟩ := renderParts_shows depth steps hparts.right
    rw [renderAt, hrender, blocks, directives_blocksOfAll]
    exact ⟨_, rfl, shows_intercalate _ (lacks_append_iff.mpr ⟨by decide, lacks_margin depth⟩) htexts⟩
  | .forEach item collection body, hparts => by
    rw [parts, List.forall_mem_cons, List.forall_mem_append, List.forall_mem_append] at hparts
    obtain ⟨lines, hlines, hbody⟩ := renderParts_shows (depth + 1) body hparts.right.right
    obtain ⟨first, hfirst, hitem⟩ := renderAt_shows depth item hparts.right.left.left
    obtain ⟨second, hsecond, hcollection⟩ := renderAt_shows depth collection hparts.right.left.right
    rw [renderAt, hlines, hfirst, hsecond, directives_forEach, directives_blocksOfAll]
    have hindented : List.Forall₂ (fun part text => Shows text (directivesOfAll part.blocks)) body
        (lines.map (margin (depth + 1) ++ ·)) :=
      List.forall₂_map_right_iff.mpr (hbody.imp fun _ _ hline => hline.before (lacks_margin (depth + 1)))
    have hjoined := shows_intercalate "\n" (by decide) hindented
    have hstart : Shows "#foreach( " [.forEach] := (shows_text .forEach).behind (by decide : Lacks '#' " ")
    have hhead : Shows ("#foreach( " ++ first ++ " in " ++ second ++ " )\n")
        ([.forEach] ++ directivesOfAll item.blocks ++ directivesOfAll collection.blocks) :=
      (((hstart.append hitem).behind (by decide)).append hcollection).behind (by decide)
    exact ⟨_, rfl,
      (((hhead.append hjoined).behind (by decide)).behind (lacks_margin depth)).append (shows_text .finish)⟩
  | .branch condition thenPart elsePart, hparts => by
    rw [parts, List.forall_mem_cons, List.forall_mem_append, List.forall_mem_append] at hparts
    obtain ⟨first, hfirst, hthen⟩ := renderAt_shows (depth + 1) thenPart hparts.right.left.right
    obtain ⟨head, hhead, hcondition⟩ := renderAt_shows depth condition hparts.right.left.left
    obtain ⟨last, hlast, helse⟩ := renderElse_shows depth elsePart hparts.right.right
    rw [renderAt, hfirst, hhead, hlast, directives_branch]
    have hstart : Shows "#if( " [.branch] := (shows_text .branch).behind (by decide : Lacks '#' " ")
    have hopened : Shows ("#if( " ++ head ++ " )\n" ++ margin (depth + 1))
        ([.branch] ++ directivesOfAll condition.blocks) :=
      ((hstart.append hcondition).behind (by decide)).behind (lacks_margin (depth + 1))
    exact ⟨_, rfl,
      ((((hopened.append hthen).behind (by decide : Lacks '#' "\n")).append helse).behind (lacks_margin depth)).append
        (shows_text .finish)⟩
  | .foreign _, hparts => nomatch (hparts _ List.mem_cons_self).proper

theorem renderParts_shows (depth : Nat) :
    ∀ trees : List Template, (∀ part ∈ partsOfAll trees, part.IsUnmarked) →
      ∃ texts, renderParts depth trees = .ok texts ∧
        List.Forall₂ (fun part text => Shows text (directivesOfAll part.blocks)) trees texts
  | [], _ => ⟨[], by rw [renderParts], .nil⟩
  | tree :: trees, hparts => by
    rw [partsOfAll, List.forall_mem_append] at hparts
    obtain ⟨text, hrender, htext⟩ := renderAt_shows depth tree hparts.left
    obtain ⟨texts, hrenders, htexts⟩ := renderParts_shows depth trees hparts.right
    rw [renderParts, hrender, hrenders]
    exact ⟨_, rfl, .cons htext htexts⟩

theorem renderMembers_shows (depth : Nat) :
    ∀ members : List (String × Template), (∀ member ∈ members, Lacks '#' member.1) →
      (∀ part ∈ partsOfMembers members, part.IsUnmarked) →
        ∃ lines, renderMembers depth members = .ok lines ∧
          List.Forall₂ (fun member line => Shows line (directivesOfAll member.2.blocks)) members lines
  | [], _, _ => ⟨[], by rw [renderMembers], .nil⟩
  | (name, value) :: members, hnames, hparts => by
    rw [partsOfMembers, List.forall_mem_append] at hparts
    rw [List.forall_mem_cons] at hnames
    obtain ⟨text, hrender, htext⟩ := renderAt_shows depth value hparts.left
    obtain ⟨lines, hrenders, hlines⟩ := renderMembers_shows depth members hnames.right hparts.right
    rw [renderMembers, hrender, hrenders]
    have hname := Json.lacks_literal hnames.left (by decide) rfl
    have hstart : Lacks '#' (margin depth ++ Json.literal name ++ ": ") := by
      rw [lacks_append_iff, lacks_append_iff]
      exact ⟨⟨lacks_margin depth, hname⟩, by decide⟩
    exact ⟨_, rfl, .cons (htext.before hstart) hlines⟩

theorem renderElse_shows (depth : Nat) :
    ∀ elsePart : Option Template, (∀ part ∈ partsOfElse elsePart, part.IsUnmarked) →
      ∃ text, renderElse depth elsePart = .ok text ∧ Shows text (directivesOfElse elsePart)
  | none, _ => ⟨"", by rw [renderElse], shows_of_lacks (by decide)⟩
  | some elsePart, hparts => by
    rw [partsOfElse] at hparts
    obtain ⟨text, hrender, htext⟩ := renderAt_shows (depth + 1) elsePart hparts
    rw [renderElse, hrender]
    have hstart : Shows "#else\n" [.otherwise] := (shows_text .otherwise).behind (by decide : Lacks '#' "\n")
    have hline := ((hstart.before (lacks_margin depth)).behind (lacks_margin (depth + 1))).append htext
    exact ⟨_, rfl, hline.behind (by decide)⟩

end

/--
A tree without the mark in the texts of its leaves is rendered, if it can be, as a text whose directives are properly
nested: each loop and each branch has an end of its own, and a branch is parted where it has a second body, and there
only. Matching the directives gives the loops and branches of the tree, nested and ordered as they are in it.
-/
theorem render_matches_blocks {tree : Template}
    (hlacks : ∀ part ∈ tree.parts, ∀ text ∈ part.leafTexts, Lacks '#' text) :
    ((∃ text, tree.render = .ok text) ↔ tree.IsProper) ∧
    ∀ text, tree.render = .ok text →
      directivesIn text.toList = directivesOfAll tree.blocks ∧
      matched? (directivesIn text.toList) = some tree.blocks := by
  refine ⟨exists_renderAt_iff, fun text htext => ?_⟩
  have hproper : tree.IsProper := exists_renderAt_iff.mp ⟨text, htext⟩
  obtain ⟨shown, hrender, hshows⟩ := renderAt_shows 0 tree fun part hpart => ⟨hproper part hpart, hlacks part hpart⟩
  obtain rfl : text = shown := Except.ok.inj (htext.symm.trans hrender)
  refine ⟨hshows.directivesIn, ?_⟩
  rw [hshows.directivesIn, matched?_directivesOfAll]

def nestedBlocks : Template :=
  .object [("all", .list [
    .forEach (.reference (.variable "row")) (.branch (.reference (.variable "given")) (.list []) none) [
      .branch (.bool true) (.comment "first")
        (some (.forEach (.reference (.variable "x")) (.list [.text "a"]) []))],
    .assign (.reference (.variable "v")) (.branch .null (.sequence []) none)])]

theorem render_matches_blocks_nested :
    ∃ text, nestedBlocks.render = .ok text ∧
      matched? (directivesIn text.toList) =
        some [.loop [.branch [] none, .branch [] (some [.loop []])], .branch [] none] := by
  have hproper : nestedBlocks.IsProper := by simp [IsProper, nestedBlocks, problem?]
  have hlacks : ∀ part ∈ nestedBlocks.parts, ∀ text ∈ part.leafTexts, Lacks '#' text := by decide
  obtain ⟨hrendered, hblocks⟩ := render_matches_blocks hlacks
  obtain ⟨text, hrender⟩ := hrendered.mpr hproper
  exact ⟨text, hrender, (hblocks text hrender).right⟩

end Template
end TableGraph
