import Mathlib.Data.List.Forall2
import TableGraph.Proofs.Json.Reading
import TableGraph.Proofs.Json.Spelling
import TableGraph.Proofs.Template.Rendering
import TableGraph.Proofs.Text.Layout
import TableGraph.Proofs.TypeSystem.Violation
import TableGraph.Template.Printer

/-!
Trees of data. If their integers can be written, they are rendered as JSON texts in ASCII, whatever the depth, and a
parser that keeps the members of records in order reads the same trees back.
-/

namespace TableGraph

namespace Json

mutual

def template : Json → Template
  | .null => .null
  | .bool value => .bool value
  | .int value => .int value
  | .decimal value => .decimal value
  | .text value => .text value
  | .list items => .list (itemTemplates items)
  | .record members => .object (memberTemplates members)

def itemTemplates : List Json → List Template
  | [] => []
  | item :: items => item.template :: itemTemplates items

def memberTemplates : List (String × Json) → List (String × Template)
  | [] => []
  | (name, value) :: members => (name, value.template) :: memberTemplates members

end

/-! Items and members between commas, as they are rendered: the blanks behind a comma stand before what
follows it. -/

theorem SpellsMember.pad {member : String × Json} {code gap gap' : List Char}
    (hcode : SpellsMember member code) (hgap : Blanks gap) (hgap' : Blanks gap') :
    SpellsMember member (gap ++ code ++ gap') := by
  cases hcode with
  | mk hbefore hname hcolon hcolon' hvalue hafter =>
    have hpadded := SpellsMember.mk (hgap.append hbefore) hname hcolon hcolon' hvalue (hafter.append hgap')
    simpa only [List.append_assoc, List.cons_append] using hpadded

theorem spellsItems_intercalate {item : Json} {items : List Json} {text : String} {texts : List String}
    (hitem : Spells item text.toList)
    (hitems : List.Forall₂ (fun item text => Spells item text.toList) items texts)
    {gap : List Char} (hgap : Blanks gap) :
    SpellsItems (item :: items) (gap ++ (", ".intercalate (text :: texts)).toList) := by
  rw [Text.toList_intercalate_cons]
  induction hitems generalizing item text gap with
  | nil =>
    have hlast := SpellsItems.last hgap hitem blanks_nil
    simpa using hlast
  | @cons next text' items texts hnext _ ih =>
    have hspace : Blanks [' '] := by decide
    have hcons := SpellsItems.cons hgap hitem blanks_nil (ih hnext hspace)
    simpa using hcons

theorem spellsMembers_intercalate {member : String × Json} {members : List (String × Json)} {line : String}
    {lines : List String} (hmember : SpellsMember member line.toList)
    (hmembers : List.Forall₂ (fun member line => SpellsMember member line.toList) members lines)
    {gap gap' : List Char} (hgap : Blanks gap) (hgap' : Blanks gap') :
    SpellsMembers (member :: members) (gap ++ (",\n".intercalate (line :: lines)).toList ++ gap') := by
  rw [Text.toList_intercalate_cons]
  induction hmembers generalizing member line gap with
  | nil =>
    have hlast := SpellsMembers.last (hmember.pad hgap hgap')
    simpa using hlast
  | @cons next line' members lines hnext _ ih =>
    have hbreak : Blanks ['\n'] := by decide
    have hcons := SpellsMembers.cons (hmember.pad hgap blanks_nil) (ih hnext hbreak)
    simpa using hcons

end Json

namespace Template

def isDatum : Template → Bool
  | .text _ | .int _ | .bool _ | .null | .object _ | .list _ => true
  | _ => false

def IsData (tree : Template) : Prop :=
  ∀ part ∈ tree.parts, part.isDatum = true

instance (tree : Template) : Decidable tree.IsData :=
  List.decidableBAll _ _

theorem blanks_margin (depth : Nat) : Json.Blanks (margin depth).toList := by
  intro c hc
  rw [eq_of_mem_margin hc]
  rfl

theorem isAscii_margin (depth : Nat) : IsAscii (margin depth) := by
  intro c hc
  rw [eq_of_mem_margin hc]
  decide

theorem isAscii_intercalate {separator : String} (hseparator : IsAscii separator) {texts : List String}
    (htexts : ∀ text ∈ texts, IsAscii text) : IsAscii (separator.intercalate texts) :=
  forall_mem_intercalate hseparator htexts

structure IsLegible (part : Template) : Prop where
  datum : part.isDatum = true
  written : ∀ value, part = .int value → Text.isWritten value = true

structure Spells (value : Json) (tree : Template) (text : String) : Prop where
  spelled : Json.Spells value text.toList
  template : value.template = tree
  ascii : IsAscii text

/-! The depth shows in the blanks only. It is the same for all the trees of a list and grows in objects. -/

mutual

theorem renderAt_of_isData (depth : Nat) :
    ∀ tree : Template, (∀ part ∈ tree.parts, part.IsLegible) →
      ∃ value text, tree.renderAt depth = .ok text ∧ Spells value tree text
  | .text content, _ => by
    refine ⟨.text content, _, by rw [renderAt], ?_, rfl, Json.ascii_literal content⟩
    rw [Json.toList_literal]
    exact .text (Json.spellsChars_literal content.toList)
  | .int n, hdata => by
    have hint := Json.spellsInt_toString n
    have hwritten : Text.isWritten n = true := (hdata _ (List.mem_singleton_self _)).written n rfl
    exact ⟨.int n, _, by rw [renderAt, if_pos hwritten], .int hint, rfl, hint.ascii⟩
  | .bool value, _ => by
    refine ⟨.bool value, _, by rw [renderAt], ?_, rfl, ?_⟩
    . cases value with
      | false => exact .bool false
      | true => exact .bool true
    . cases value with
      | false => decide
      | true => decide
  | .null, _ => ⟨.null, "null", by rw [renderAt], .null, rfl, by decide⟩
  | .object [], _ => by
    exact ⟨.record [], "\x7b\x7d", by rw [renderAt], .emptyRecord Json.blanks_nil, rfl, by decide⟩
  | .object (member :: members), hdata => by
    rw [parts, List.forall_mem_cons] at hdata
    obtain ⟨values, lines, hrender, htemplate, hspelled, hascii⟩ :=
      renderMembers_of_isData (depth + 1) (member :: members) hdata.right
    refine ⟨.record values,
      "\x7b\n" ++ ",\n".intercalate lines ++ "\n" ++ margin depth ++ "\x7d", ?_, ?_, ?_, ?_⟩
    . rw [renderAt, hrender]
      rfl
    . have hgap : Json.Blanks ['\n'] := by decide
      cases hspelled with
      | nil => cases htemplate
      | cons hfirst hrest =>
        have hmembers :=
          Json.spellsMembers_intercalate hfirst hrest hgap (hgap.append (blanks_margin depth))
        simpa using Json.Spells.record hmembers
    . rw [Json.template, htemplate]
    . simp only [isAscii_append_iff]
      have hlines : IsAscii (",\n".intercalate lines) := isAscii_intercalate (by decide) hascii
      exact ⟨⟨⟨⟨by decide, hlines⟩, by decide⟩, isAscii_margin depth⟩, by decide⟩
  | .list items, hdata => by
    rw [parts, List.forall_mem_cons] at hdata
    obtain ⟨values, texts, hrender, htemplate, hspelled, hascii⟩ :=
      renderParts_of_isData depth items hdata.right
    refine ⟨.list values, "[" ++ ", ".intercalate texts ++ "]", ?_, ?_, ?_, ?_⟩
    . rw [renderAt, hrender]
      rfl
    . cases hspelled with
      | nil => exact .emptyList Json.blanks_nil
      | cons hfirst hrest =>
        have hitems := Json.spellsItems_intercalate hfirst hrest Json.blanks_nil
        simpa using Json.Spells.list hitems
    . rw [Json.template, htemplate]
    . rw [isAscii_append_iff, isAscii_append_iff]
      exact ⟨⟨by decide, isAscii_intercalate (by decide) hascii⟩, by decide⟩
  | .decimal _, hdata => by cases (hdata _ (List.mem_singleton_self _)).datum
  | .reference _, hdata => by cases (hdata _ (List.mem_singleton_self _)).datum
  | .effect _, hdata => by cases (hdata _ (List.mem_singleton_self _)).datum
  | .raw _, hdata => by cases (hdata _ (List.mem_singleton_self _)).datum
  | .comment _, hdata => by cases (hdata _ (List.mem_singleton_self _)).datum
  | .assign _ _, hdata => by cases (hdata _ List.mem_cons_self).datum
  | .sequence _, hdata => by cases (hdata _ List.mem_cons_self).datum
  | .forEach _ _ _, hdata => by cases (hdata _ List.mem_cons_self).datum
  | .branch _ _ _, hdata => by cases (hdata _ List.mem_cons_self).datum
  | .foreign _, hdata => by cases (hdata _ (List.mem_singleton_self _)).datum

theorem renderParts_of_isData (depth : Nat) :
    ∀ trees : List Template, (∀ part ∈ partsOfAll trees, part.IsLegible) →
      ∃ values texts, renderParts depth trees = .ok texts ∧ Json.itemTemplates values = trees ∧
        List.Forall₂ (fun value text => Json.Spells value text.toList) values texts ∧
        ∀ text ∈ texts, IsAscii text
  | [], _ => ⟨[], [], by rw [renderParts], rfl, .nil, nofun⟩
  | tree :: trees, hdata => by
    rw [partsOfAll, List.forall_mem_append] at hdata
    obtain ⟨value, text, hrender, hspells⟩ := renderAt_of_isData depth tree hdata.left
    obtain ⟨values, texts, hrenders, htrees, hspelled, hascii⟩ :=
      renderParts_of_isData depth trees hdata.right
    refine ⟨value :: values, text :: texts, ?_, ?_, .cons hspells.spelled hspelled, ?_⟩
    . rw [renderParts, hrender, hrenders]
      rfl
    . rw [Json.itemTemplates, hspells.template, htrees]
    . exact List.forall_mem_cons.mpr ⟨hspells.ascii, hascii⟩

theorem renderMembers_of_isData (depth : Nat) :
    ∀ members : List (String × Template), (∀ part ∈ partsOfMembers members, part.IsLegible) →
      ∃ values lines, renderMembers depth members = .ok lines ∧ Json.memberTemplates values = members ∧
        List.Forall₂ (fun member line => Json.SpellsMember member line.toList) values lines ∧
        ∀ line ∈ lines, IsAscii line
  | [], _ => ⟨[], [], by rw [renderMembers], rfl, .nil, nofun⟩
  | (name, tree) :: members, hdata => by
    rw [partsOfMembers, List.forall_mem_append] at hdata
    obtain ⟨value, text, hrender, hspells⟩ := renderAt_of_isData depth tree hdata.left
    obtain ⟨values, lines, hrenders, hmembers, hspelled, hascii⟩ :=
      renderMembers_of_isData depth members hdata.right
    refine ⟨(name, value) :: values, (margin depth ++ Json.literal name ++ ": " ++ text) :: lines, ?_, ?_,
      .cons ?_ hspelled, ?_⟩
    . rw [renderMembers, hrender, hrenders]
      rfl
    . rw [Json.memberTemplates, hspells.template, hmembers]
    . have hspace : Json.Blanks [' '] := by decide
      have hname := Json.spellsChars_literal name.toList
      have hmember := Json.SpellsMember.mk (blanks_margin depth) hname Json.blanks_nil hspace
        hspells.spelled Json.blanks_nil
      simpa [Json.toList_literal] using hmember
    . refine List.forall_mem_cons.mpr ⟨?_, hascii⟩
      simp only [isAscii_append_iff]
      exact ⟨⟨⟨isAscii_margin depth, Json.ascii_literal name⟩, by decide⟩, hspells.ascii⟩

end

/--
A tree of data whose integers can be written is rendered as a JSON text in ASCII. The text is read as a value whose
tree is the one that was rendered, so no other tree of data is rendered as the same text.
-/
theorem render_of_isData {tree : Template} (htree : tree.IsData)
    (hwritten : ∀ value, .int value ∈ tree.parts → value.natAbs < Nat.pow 10 Text.maxDigits) :
    ∃ text value, tree.render = .ok text ∧ IsAscii text ∧ Json.IsTextOf value text ∧
      Json.parse? text = some value ∧ value.template = tree ∧
      ∀ other : Template, other.IsData → other.render = .ok text → other = tree := by
  have hread : ∀ {tree : Template}, tree.IsData → (∀ value, .int value ∈ tree.parts → Text.isWritten value = true) →
      ∃ text value, tree.render = .ok text ∧ IsAscii text ∧ Json.IsTextOf value text ∧
        Json.parse? text = some value ∧ value.template = tree := by
    intro tree htree hwritten
    obtain ⟨value, text, hrender, hspells⟩ := renderAt_of_isData 0 tree fun part hpart =>
      ⟨htree part hpart, fun value hvalue => hwritten value (hvalue ▸ hpart)⟩
    have htext : Json.IsTextOf value text :=
      ⟨[], text.toList, [], Json.blanks_nil, hspells.spelled, Json.blanks_nil, by simp⟩
    exact ⟨text, value, hrender, hspells.ascii, htext, Json.parse?_of_isTextOf htext, hspells.template⟩
  obtain ⟨text, value, hrender, hascii, htext, hparse, htemplate⟩ :=
    hread htree fun value hvalue => Text.isWritten_iff.mpr (hwritten value hvalue)
  refine ⟨text, value, hrender, hascii, htext, hparse, htemplate, ?_⟩
  intro other hother hsame
  -- What has a text at all has integers that can be written.
  have hproper : other.IsProper := exists_renderAt_iff.mp ⟨text, hsame⟩
  obtain ⟨text', value', hrender', -, -, hparse', htemplate'⟩ := hread hother (isProper_iff_not_mem.mp hproper).right
  obtain rfl : text = text' := Except.ok.inj (hsame.symm.trans hrender')
  obtain rfl : value = value' := Option.some.inj (hparse.symm.trans hparse')
  exact htemplate'.symm.trans htemplate

def sampleData : Template :=
  .object [
    ("é\"", .list [.int (-12), .null, .object []]),
    ("é\"", .text "😀\n"),
    ("", .object [("b", .bool true), ("l", .list [])])]

theorem render_of_isData_sampleData :
    ∃ value,
      sampleData.render = .ok (
        "\x7b\n  \"\\u00e9\\\"\": [-12, null, \x7b\x7d],\n" ++
        "  \"\\u00e9\\\"\": \"\\ud83d\\ude00\\n\",\n" ++
        "  \"\": \x7b\n    \"b\": true,\n    \"l\": []\n  \x7d\n\x7d") ∧
      sampleData.render.toOption.bind Json.parse? = some value ∧ value.template = sampleData := by
  have hdata : sampleData.IsData := by decide
  have hwritten : ∀ value, .int value ∈ sampleData.parts → value.natAbs < Nat.pow 10 Text.maxDigits := by
    intro value hvalue
    obtain rfl : value = -12 := by simpa [sampleData] using hvalue
    exact Text.isWritten_iff.mp rfl
  obtain ⟨text, value, hrender, -, -, hparse, htemplate, -⟩ := render_of_isData hdata hwritten
  refine ⟨value, rfl, ?_, htemplate⟩
  rw [hrender]
  exact hparse

/-- A longer integer has no text. -/
theorem render_power :
    (int (.ofNat (Nat.pow 10 Text.maxDigits))).IsData ∧
      (int (.ofNat (Nat.pow 10 Text.maxDigits))).render = .error .overlong := by
  refine ⟨fun part hpart => ?_, ?_⟩
  . rw [List.mem_singleton.mp hpart]
    rfl
  . rw [render, renderAt, Text.isWritten_power]
    rfl

end Template
end TableGraph
