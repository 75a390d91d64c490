import TableGraph.Proofs.Decimal.Notation
import TableGraph.Proofs.Template.Surroundings
import TableGraph.Proofs.Text.Shift

/-!
What the depth does to the text of a tree: every line but the first one is moved to the right. So the text of a
tree in a larger one is the text that it has on its own, up to its margins.
-/

namespace TableGraph
namespace Template

open Text (shift shift_append shift_of_lacks shift_break shift_line shift_intercalate append_shift_intercalate)

def verbatim : Template → List String
  | .reference expression => [expression.source]
  | .effect expression => [expression.argument]
  | .raw code => [code]
  | .comment remark => [remark]
  | _ => []

/-- A part that breaks no line by itself; if it is a loop there is something in it. -/
structure IsIndented (part : Template) : Prop where
  lacks : ∀ text ∈ part.verbatim, Lacks '\n' text
  body : ∀ item collection, part ≠ .forEach item collection []

theorem shift_margin (depth : Nat) (margin : String) : shift margin (Template.margin depth) = Template.margin depth :=
  shift_of_lacks fun hmem => by cases eq_of_mem_margin hmem

theorem shift_headEnd (margin : String) : shift margin " )\n" = " )\n" ++ margin :=
  shift_line (by decide : " )\n" = " )" ++ "\n") (by decide)

/-- The lines of the second body of a branch are moved as whole lines: the margin of the first one stands in front
of it, and there is none behind the last one. -/
def ElseMoved (levels : Nat) (lines deeper : String) : Prop :=
  deeper ++ margin levels = margin levels ++ shift (margin levels) lines

/-! The levels by which a tree is moved stay the same on the way into it, while the depth grows. Members, and the
lines of a second body, bring their margins along: they are moved together with them. -/

mutual

theorem renderAt_shifted (depth levels : Nat) :
    ∀ tree : Template, (∀ part ∈ tree.parts, part.IsIndented) →
      Corresponds (fun text deeper => deeper = shift (margin levels) text)
        (tree.renderAt depth) (tree.renderAt (depth + levels))
  | .text value, _ => by
    rw [renderAt, renderAt]
    exact .ok (shift_of_lacks (Json.lacks_break_literal value)).symm
  | .int value, _ => by
    rw [renderAt, renderAt]
    split
    . exact .ok (shift_of_lacks ((isNumeric_toString_int value).lacks rfl (by decide))).symm
    . exact .error _
  | .decimal value, _ => by
    rw [renderAt, renderAt]
    exact .ok (shift_of_lacks (value.isNumeric_text.lacks rfl (by decide))).symm
  | .bool value, _ => by
    rw [renderAt, renderAt]
    refine .ok (shift_of_lacks ?_).symm
    cases value with
    | _ => decide
  | .null, _ => by
    rw [renderAt, renderAt]
    exact .ok (shift_of_lacks (by decide)).symm
  | .reference expression, hparts => by
    have hsource := (hparts _ List.mem_cons_self).lacks _ List.mem_cons_self
    rw [renderAt, renderAt]
    exact .ok (shift_of_lacks (lacks_append_iff.mpr ⟨by decide, hsource⟩)).symm
  | .effect expression, hparts => by
    have hargument := (hparts _ List.mem_cons_self).lacks _ List.mem_cons_self
    rw [renderAt, renderAt]
    refine .ok (shift_of_lacks ?_).symm
    exact lacks_append_iff.mpr ⟨lacks_append_iff.mpr ⟨by decide, hargument⟩, by decide⟩
  | .raw code, hparts => by
    have hcode := (hparts _ List.mem_cons_self).lacks _ List.mem_cons_self
    rw [renderAt, renderAt]
    exact .ok (shift_of_lacks hcode).symm
  | .comment remark, hparts => by
    have hremark := (hparts _ List.mem_cons_self).lacks _ List.mem_cons_self
    rw [renderAt, renderAt]
    refine .ok (shift_of_lacks ?_).symm
    exact lacks_append_iff.mpr ⟨lacks_append_iff.mpr ⟨by decide, hremark⟩, by decide⟩
  | .object [], _ => by
    rw [renderAt, renderAt]
    exact .ok (shift_of_lacks (by decide)).symm
  | .object (member :: members), hparts => by
    rw [parts, List.forall_mem_cons] at hparts
    rw [renderAt, renderAt, Nat.add_right_comm]
    refine (renderMembers_shifted (depth + 1) levels (member :: members) hparts.right).bind ?_
    rintro lines _ ⟨rfl, hlength⟩
    refine .ok ?_
    have hlines : lines ≠ [] := by
      rintro rfl
      cases hlength
    have hopening : shift (margin levels) "\x7b\n" = "\x7b\n" ++ margin levels :=
      shift_line (by decide : "\x7b\n" = "\x7b" ++ "\n") (by decide)
    have hcomma : shift (margin levels) ",\n" = ",\n" ++ margin levels :=
      shift_line (by decide : ",\n" = "," ++ "\n") (by decide)
    rw [← append_shift_intercalate hcomma hlines, margin_add]
    simp only [shift_append, hopening, shift_break, shift_margin, shift_of_lacks (by decide : Lacks '\n' "\x7d"),
      String.append_assoc]
  | .list items, hparts => by
    rw [parts, List.forall_mem_cons] at hparts
    rw [renderAt, renderAt]
    refine (renderParts_shifted depth levels items hparts.right).bind ?_
    rintro texts deeper ⟨rfl, -⟩
    refine .ok ?_
    rw [shift_append, shift_append, shift_intercalate, shift_of_lacks (by decide : Lacks '\n' "["),
      shift_of_lacks (by decide : Lacks '\n' ", "), shift_of_lacks (by decide : Lacks '\n' "]")]
  | .assign target value, hparts => by
    rw [parts, List.forall_mem_cons, List.forall_mem_append] at hparts
    rw [renderAt, renderAt]
    refine (renderAt_shifted depth levels target hparts.right.left).bind ?_
    rintro target _ rfl
    refine (renderAt_shifted depth levels value hparts.right.right).bind ?_
    rintro value _ rfl
    refine .ok ?_
    simp (disch := decide) only [shift_append, shift_of_lacks]
  | .sequence steps, hparts => by
    rw [parts, List.forall_mem_cons] at hparts
    rw [renderAt, renderAt]
    refine (renderParts_shifted depth levels steps hparts.right).bind ?_
    rintro texts deeper ⟨rfl, -⟩
    refine .ok ?_
    rw [shift_intercalate, shift_append, shift_break, shift_margin, margin_add, String.append_assoc]
  | .forEach item collection body, hparts => by
    rw [parts, List.forall_mem_cons, List.forall_mem_append, List.forall_mem_append] at hparts
    rw [renderAt, renderAt, Nat.add_right_comm]
    refine (renderParts_shifted (depth + 1) levels body hparts.right.right).bind ?_
    rintro lines _ ⟨rfl, hlength⟩
    refine (renderAt_shifted depth levels item hparts.right.left.left).bind ?_
    rintro first _ rfl
    refine (renderAt_shifted depth levels collection hparts.right.left.right).bind ?_
    rintro second _ rfl
    refine .ok ?_
    have hlines : lines.map (margin (depth + 1) ++ ·) ≠ [] := by
      intro hnil
      rw [List.map_eq_nil_iff.mp hnil] at hlength
      exact hparts.left.body item collection (by rw [List.eq_nil_of_length_eq_zero hlength.symm])
    -- The margin of a line is deeper in the moved loop, and its text is moved.
    have hmoved : (lines.map (shift (margin levels))).map (margin (depth + 1 + levels) ++ ·) =
        (lines.map (margin (depth + 1) ++ ·)).map fun line => margin levels ++ shift (margin levels) line := by
      simp [margin_add, shift_margin, String.append_assoc]
    rw [hmoved, ← append_shift_intercalate (shift_break _) hlines, margin_add depth levels]
    simp (disch := decide) only [shift_append, shift_headEnd, shift_break, shift_margin, shift_of_lacks,
      String.append_assoc]
  | .branch condition thenPart elsePart, hparts => by
    rw [parts, List.forall_mem_cons, List.forall_mem_append, List.forall_mem_append] at hparts
    rw [renderAt, renderAt, Nat.add_right_comm]
    refine (renderAt_shifted (depth + 1) levels thenPart hparts.right.left.right).bind ?_
    rintro thenText _ rfl
    refine (renderAt_shifted depth levels condition hparts.right.left.left).bind ?_
    rintro head _ rfl
    refine (renderElse_shifted depth levels elsePart hparts.right.right).bind ?_
    rintro last deeper hlast
    refine .ok ?_
    -- The margin that the second body lacks behind it is that of the end.
    have hend : ∀ rest,
        deeper ++ (margin levels ++ rest) = margin levels ++ (shift (margin levels) last ++ rest) := by
      intro rest
      rw [← String.append_assoc, hlast, String.append_assoc]
    rw [margin_add depth levels, margin_add (depth + 1) levels]
    simp (disch := decide) only [shift_append, shift_headEnd, hend, shift_break, shift_margin, shift_of_lacks,
      String.append_assoc]
  | .foreign className, _ => by
    rw [renderAt, renderAt]
    exact .error _

theorem renderParts_shifted (depth levels : Nat) :
    ∀ trees : List Template, (∀ part ∈ partsOfAll trees, part.IsIndented) →
      Corresponds (fun texts deeper => deeper = texts.map (shift (margin levels)) ∧ texts.length = trees.length)
        (renderParts depth trees) (renderParts (depth + levels) trees)
  | [], _ => by
    rw [renderParts, renderParts]
    exact .ok ⟨rfl, rfl⟩
  | tree :: trees, hparts => by
    rw [partsOfAll, List.forall_mem_append] at hparts
    rw [renderParts, renderParts]
    refine (renderAt_shifted depth levels tree hparts.left).bind ?_
    rintro text _ rfl
    refine (renderParts_shifted depth levels trees hparts.right).bind ?_
    rintro texts _ ⟨rfl, hlength⟩
    exact .ok ⟨rfl, congrArg (· + 1) hlength⟩

theorem renderMembers_shifted (depth levels : Nat) :
    ∀ members : List (String × Template), (∀ part ∈ partsOfMembers members, part.IsIndented) →
      Corresponds
        (fun lines deeper =>
          deeper = lines.map (fun line => margin levels ++ shift (margin levels) line) ∧
          lines.length = members.length)
        (renderMembers depth members) (renderMembers (depth + levels) members)
  | [], _ => by
    rw [renderMembers, renderMembers]
    exact .ok ⟨rfl, rfl⟩
  | (name, value) :: members, hparts => by
    rw [partsOfMembers, List.forall_mem_append] at hparts
    rw [renderMembers, renderMembers]
    refine (renderAt_shifted depth levels value hparts.left).bind ?_
    rintro text _ rfl
    refine (renderMembers_shifted depth levels members hparts.right).bind ?_
    rintro lines _ ⟨rfl, hlength⟩
    refine .ok ⟨?_, congrArg (· + 1) hlength⟩
    rw [List.map_cons, shift_append, shift_append, shift_append, shift_margin, margin_add,
      shift_of_lacks (Json.lacks_break_literal name), shift_of_lacks (by decide : Lacks '\n' ": ")]
    simp only [String.append_assoc]

theorem renderElse_shifted (depth levels : Nat) :
    ∀ elsePart : Option Template, (∀ part ∈ partsOfElse elsePart, part.IsIndented) →
      Corresponds (ElseMoved levels) (renderElse depth elsePart) (renderElse (depth + levels) elsePart)
  | none, _ => by
    rw [renderElse, renderElse]
    refine .ok ?_
    rw [ElseMoved, shift_of_lacks (by decide : Lacks '\n' ""), String.empty_append, String.append_empty]
  | some elsePart, hparts => by
    rw [renderElse, renderElse, Nat.add_right_comm]
    refine (renderAt_shifted (depth + 1) levels elsePart hparts).bind ?_
    rintro text _ rfl
    refine .ok ?_
    have hstart : shift (margin levels) "#else\n" = "#else\n" ++ margin levels :=
      shift_line (by decide : "#else\n" = "#else" ++ "\n") (by decide)
    rw [ElseMoved, margin_add depth levels, margin_add (depth + 1) levels]
    simp only [shift_append, hstart, shift_break, shift_margin, String.append_assoc]

end

/--
The depth of a tree shows in its margins only: if the texts that its parts write as they are break no line, and no
loop is empty, then its text at a depth is the one at depth zero with the margin of the depth behind every line
break. A tree is a part of a larger one exactly if it stands at a place in it. The larger one writes the text of the
tree, moved to the depth of the place, between two texts that are the same whatever stands there.
-/
theorem renderAt_eq_shift {tree : Template}
    (hlacks : ∀ part ∈ tree.parts, ∀ text ∈ part.verbatim, Lacks '\n' text)
    (hbodies : ∀ item collection, .forEach item collection [] ∉ tree.parts) :
    (∀ depth, tree.renderAt depth = tree.render.map (shift (margin depth))) ∧
    (∀ whole, tree ∈ whole.parts ↔ ∃ place : Place, place.fill tree = whole) ∧
    ∀ place : Place, (place.fill tree).IsProper →
      ∃ before text after,
        (∀ other : Template,
          (place.fill other).render = (other.renderAt place.depth).map fun text => before ++ text ++ after) ∧
        tree.render = .ok text ∧
        (place.fill tree).render = .ok (before ++ shift (margin place.depth) text ++ after) := by
  have hparts : ∀ part ∈ tree.parts, part.IsIndented := by
    intro part hpart
    refine ⟨hlacks part hpart, ?_⟩
    rintro item collection rfl
    exact hbodies item collection hpart
  have hshift : ∀ depth, tree.renderAt depth = tree.render.map (shift (margin depth)) := by
    intro depth
    have hdepth := (renderAt_shifted 0 depth tree hparts).eq_map
    rwa [Nat.zero_add] at hdepth
  refine ⟨hshift, fun whole => mem_parts_iff_exists_place, fun place hproper => ?_⟩
  obtain ⟨write, ⟨before, after, hwrite⟩, hplace⟩ := Place.renderAt_fill hproper 0
  obtain rfl : write = fun text => before ++ text ++ after := funext hwrite
  rw [Nat.zero_add] at hplace
  obtain ⟨text, htext⟩ := hproper.of_fill.exists_renderAt 0
  refine ⟨before, text, after, hplace, htext, ?_⟩
  calc
    (place.fill tree).render
      = (tree.renderAt place.depth).map fun text => before ++ text ++ after := hplace tree
    _ = (Except.ok (shift (margin place.depth) text)).map fun text => before ++ text ++ after := by
      rw [hshift, render, htext]
      rfl
    _ = .ok (before ++ shift (margin place.depth) text ++ after) := rfl

def indentedBranch : Template :=
  .branch (.reference (.variable "given"))
    (.sequence [.effect (.call (.variable "names") "add" [.variable "name"]), .comment "next"])
    (some (.object [("text", .text "one\ntwo")]))

def indentedPlace : Place :=
  [.member [] "all" [("none", .null)],
    .loopStep (.reference (.variable "name")) (.list []) [.comment "first"] [.raw "$name"]]

theorem renderAt_eq_shift_branch :
    (∀ part ∈ indentedBranch.parts, ∀ text ∈ part.verbatim, Lacks '\n' text) ∧
    (∀ item collection, .forEach item collection [] ∉ indentedBranch.parts) ∧
    indentedBranch.renderAt 1 =
      .ok ("#if( $given )\n    $util.qr($names.add($name))\n    ## next **\n" ++
        "  #else\n    \x7b\n      \"text\": \"one\\ntwo\"\n    \x7d\n  #end") ∧
    ∃ before text after,
      indentedBranch.render = .ok text ∧
      (indentedPlace.fill indentedBranch).render = .ok (before ++ shift "    " text ++ after) := by
  have hlacks : ∀ part ∈ indentedBranch.parts, ∀ text ∈ part.verbatim, Lacks '\n' text := by decide
  have hbodies : ∀ item collection, .forEach item collection [] ∉ indentedBranch.parts := by
    simp [indentedBranch]
  have hproper : (indentedPlace.fill indentedBranch).IsProper := by
    simp [IsProper, indentedPlace, indentedBranch, Frame.fill, problem?]
  obtain ⟨hshift, -, hwhole⟩ := renderAt_eq_shift hlacks hbodies
  obtain ⟨before, text, after, -, htext, hplace⟩ := hwhole indentedPlace hproper
  refine ⟨hlacks, hbodies, ?_, before, text, after, htext, hplace⟩
  rw [hshift]
  decide +kernel

/-- The line in a loop without a body has no margin at any depth. -/
example : (forEach .null .null []).renderAt 1 = .ok "#foreach( null in null )\n\n  #end" := rfl

end Template
end TableGraph
