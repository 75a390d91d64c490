import TableGraph.Proofs.Text.Layout

/-!
The directives that open, part and close blocks in the text of a mapping template, and the blocks that they
make. They are matched in one pass with a stack of open blocks; what is matched is told by the blocks that come
out, and the other way round.
-/

namespace TableGraph

inductive Directive where
  | forEach
  | branch
  | otherwise
  | finish
  deriving DecidableEq, Repr

namespace Directive

def text : Directive → String
  | .forEach => "#foreach("
  | .branch => "#if("
  | .otherwise => "#else"
  | .finish => "#end"

def ofStart? (cs : List Char) : Option Directive :=
  [.forEach, .branch, .otherwise, .finish].find? (·.text.toList.isPrefixOf cs)

end Directive

def directivesIn : List Char → List Directive
  | [] => []
  | c :: rest => (Directive.ofStart? (c :: rest)).toList ++ directivesIn rest

/-- A text shows these directives, whatever stands behind it. -/
def Shows (text : String) (directives : List Directive) : Prop :=
  ∀ rest, directivesIn (text.toList ++ rest) = directives ++ directivesIn rest

section Shows

variable {text other : String} {directives others : List Directive}

theorem Shows.directivesIn (hshows : Shows text directives) : directivesIn text.toList = directives := by
  have hall := hshows []
  rwa [List.append_nil, TableGraph.directivesIn, List.append_nil] at hall

theorem Shows.append (hshows : Shows text directives) (hother : Shows other others) :
    Shows (text ++ other) (directives ++ others) := by
  intro rest
  rw [String.toList_append, List.append_assoc, hshows, hother, List.append_assoc]

theorem shows_text (directive : Directive) : Shows directive.text [directive] := by
  intro rest
  cases directive with
  | _ => rfl

theorem ofStart?_eq_none {c : Char} (hc : c ≠ '#') (rest : List Char) : Directive.ofStart? (c :: rest) = none := by
  unfold Directive.ofStart?
  rw [List.find?_eq_none]
  intro directive _ hstart
  obtain ⟨tail, htail⟩ := List.isPrefixOf_iff_prefix.mp hstart
  cases directive with
  | _ => exact hc (List.head_eq_of_cons_eq htail).symm

theorem shows_of_lacks (htext : Lacks '#' text) : Shows text [] := by
  intro rest
  unfold Lacks at htext
  generalize text.toList = cs at htext ⊢
  induction cs with
  | nil => rfl
  | cons c cs ih =>
    rw [List.mem_cons, not_or] at htext
    rw [List.cons_append, TableGraph.directivesIn, ofStart?_eq_none (Ne.symm htext.left), ih htext.right]
    rfl

theorem Shows.behind (hshows : Shows text directives) (hother : Lacks '#' other) :
    Shows (text ++ other) directives := by
  have happend := hshows.append (shows_of_lacks hother)
  rwa [List.append_nil] at happend

theorem Shows.before (hshows : Shows text directives) (hother : Lacks '#' other) :
    Shows (other ++ text) directives :=
  (shows_of_lacks hother).append hshows

theorem shows_intercalate {α : Type} {parts : List α} {texts : List String} {shown : α → List Directive}
    (separator : String) (hseparator : Lacks '#' separator)
    (htexts : List.Forall₂ (fun part text => Shows text (shown part)) parts texts) :
    Shows (separator.intercalate texts) (parts.flatMap shown) := by
  induction htexts with
  | nil =>
    rw [String.intercalate_nil]
    exact shows_of_lacks (by decide)
  | @cons part text parts texts htext htexts ih =>
    cases htexts with
    | nil =>
      rw [String.intercalate_singleton, List.flatMap_cons, List.flatMap_nil, List.append_nil]
      exact htext
    | cons hnext htexts =>
      rw [String.intercalate_cons_cons, List.flatMap_cons]
      exact (htext.behind hseparator).append ih

end Shows

inductive Block where
  | loop (inner : List Block)
  | branch (inner : List Block) (other? : Option (List Block))
  deriving Repr

mutual

def Block.directives : Block → List Directive
  | .loop inner => .forEach :: (directivesOfAll inner ++ [.finish])
  | .branch inner none => .branch :: (directivesOfAll inner ++ [.finish])
  | .branch inner (some other) =>
    .branch :: (directivesOfAll inner ++ .otherwise :: (directivesOfAll other ++ [.finish]))

def directivesOfAll : List Block → List Directive
  | [] => []
  | block :: blocks => block.directives ++ directivesOfAll blocks

end

@[simp]
theorem directivesOfAll_append (blocks others : List Block) :
    directivesOfAll (blocks ++ others) = directivesOfAll blocks ++ directivesOfAll others := by
  induction blocks with
  | nil => rfl
  | cons block blocks ih => rw [List.cons_append, directivesOfAll, directivesOfAll, ih, List.append_assoc]

/-- A block that is open, with what was matched before it. -/
inductive OpenBlock where
  | loop (before : List Block)
  | branch (before : List Block)
  | otherwise (before inner : List Block)

namespace OpenBlock

def close : OpenBlock → List Block → List Block
  | .loop before, inner => before ++ [.loop inner]
  | .branch before, inner => before ++ [.branch inner none]
  | .otherwise before inner, other => before ++ [.branch inner (some other)]

end OpenBlock

/-- The open blocks, the innermost one first, and what is matched in that one. -/
structure Matching where
  frames : List OpenBlock
  blocks : List Block

namespace Matching

def step? (matching : Matching) : Directive → Option Matching
  | .forEach => some ⟨.loop matching.blocks :: matching.frames, []⟩
  | .branch => some ⟨.branch matching.blocks :: matching.frames, []⟩
  | .otherwise =>
    match matching.frames with
    | .branch before :: frames => some ⟨.otherwise before matching.blocks :: frames, []⟩
    | _ => none
  | .finish =>
    match matching.frames with
    | frame :: frames => some ⟨frames, frame.close matching.blocks⟩
    | [] => none

mutual

/-- Matching a block adds it to what is matched, whatever blocks are open. -/
theorem foldlM_directives (frames : List OpenBlock) (before : List Block) :
    ∀ (block : Block) (rest : List Directive),
      (block.directives ++ rest).foldlM step? ⟨frames, before⟩
        =
      rest.foldlM step? ⟨frames, before ++ [block]⟩
  | .loop inner, rest => by
    rw [Block.directives, List.cons_append, List.append_assoc]
    calc
      _ = (directivesOfAll inner ++ .finish :: rest).foldlM step? ⟨.loop before :: frames, []⟩ := rfl
      _ = (.finish :: rest).foldlM step? ⟨.loop before :: frames, inner⟩ :=
        foldlM_directivesOfAll _ [] inner _
      _ = _ := rfl
  | .branch inner none, rest => by
    rw [Block.directives, List.cons_append, List.append_assoc]
    calc
      _ = (directivesOfAll inner ++ .finish :: rest).foldlM step? ⟨.branch before :: frames, []⟩ := rfl
      _ = (.finish :: rest).foldlM step? ⟨.branch before :: frames, inner⟩ :=
        foldlM_directivesOfAll _ [] inner _
      _ = _ := rfl
  | .branch inner (some other), rest => by
    rw [Block.directives, List.cons_append, List.append_assoc, List.cons_append, List.append_assoc]
    calc
      _ = (directivesOfAll inner ++ .otherwise :: (directivesOfAll other ++ .finish :: rest)).foldlM step?
          ⟨.branch before :: frames, []⟩ := rfl
      _ = (.otherwise :: (directivesOfAll other ++ .finish :: rest)).foldlM step?
          ⟨.branch before :: frames, inner⟩ := foldlM_directivesOfAll _ [] inner _
      _ = (directivesOfAll other ++ .finish :: rest).foldlM step? ⟨.otherwise before inner :: frames, []⟩ := rfl
      _ = (.finish :: rest).foldlM step? ⟨.otherwise before inner :: frames, other⟩ :=
        foldlM_directivesOfAll _ [] other _
      _ = _ := rfl

theorem foldlM_directivesOfAll (frames : List OpenBlock) (before : List Block) :
    ∀ (blocks : List Block) (rest : List Directive),
      (directivesOfAll blocks ++ rest).foldlM step? ⟨frames, before⟩
        =
      rest.foldlM step? ⟨frames, before ++ blocks⟩
  | [], rest => by
    rw [List.append_nil]
    rfl
  | block :: blocks, rest => by
    rw [directivesOfAll, List.append_assoc, foldlM_directives frames before block,
      foldlM_directivesOfAll frames _ blocks, List.append_assoc]
    rfl

end

end Matching

def matched? (directives : List Directive) : Option (List Block) :=
  match directives.foldlM Matching.step? ⟨[], []⟩ with
  | some ⟨[], blocks⟩ => some blocks
  | _ => none

theorem matched?_directivesOfAll (blocks : List Block) : matched? (directivesOfAll blocks) = some blocks := by
  have hrun := Matching.foldlM_directivesOfAll [] [] blocks []
  rw [List.append_nil] at hrun
  unfold matched?
  rw [hrun]
  rfl

/-- A loop has no second part. -/
example : matched? [.forEach, .otherwise, .finish] = none := rfl

end TableGraph
