import Mathlib.Data.List.Basic
import TableGraph.Proofs.Text.Lacks
import TableGraph.Text.Layout

/-!
The characters of laid out texts, and how far a text goes that stands before other ones.
-/

namespace TableGraph.Text

def Ends (p : Char → Bool) (rest : List Char) : Prop :=
  rest.head?.all (!p ·) = true

theorem ends_cons {p : Char → Bool} {c : Char} (hc : p c = false) (rest : List Char) : Ends p (c :: rest) := by
  simp [Ends, hc]

section Spans

variable {p : Char → Bool} {text other rest otherRest : List Char}

theorem takeWhile_of_ends (hrest : Ends p rest) : rest.takeWhile p = [] := by
  cases rest with
  | nil => rfl
  | cons c rest =>
    have hc : p c = false := by simpa [Ends] using hrest
    rw [List.takeWhile_cons, hc]
    rfl

/-- Texts of certain characters are told apart where other ones follow. -/
theorem append_inj_of_ends (htext : ∀ c ∈ text, p c = true) (hother : ∀ c ∈ other, p c = true)
    (hrest : Ends p rest) (hotherRest : Ends p otherRest) (heq : text ++ rest = other ++ otherRest) :
    text = other ∧ rest = otherRest := by
  have hspan := congrArg (List.takeWhile p) heq
  rw [List.takeWhile_append_of_pos htext, List.takeWhile_append_of_pos hother, takeWhile_of_ends hrest,
    takeWhile_of_ends hotherRest, List.append_nil, List.append_nil] at hspan
  rw [hspan] at heq
  exact ⟨hspan, List.append_cancel_left heq⟩

section Items

variable {α : Type} {print : α → List Char} {mark close : List Char} {follows : List Char → Prop}
  (hmark : ∀ rest, follows (mark ++ rest)) (hclose : ∀ rest, follows (close ++ rest))

include hmark hclose

theorem follows_flatMap (items : List α) (rest : List Char) :
    follows (items.flatMap (mark ++ print ·) ++ (close ++ rest)) := by
  cases items with
  | nil => exact hclose rest
  | cons item items =>
    rw [List.flatMap_cons, List.append_assoc, List.append_assoc]
    exact hmark _

/-- Items behind a mark each, up to an end that starts otherwise, are told apart if single ones are. -/
theorem flatMap_append_inj (hapart : ∀ rest otherRest, mark ++ rest ≠ close ++ otherRest) {items others : List α}
    (hitems : ∀ item ∈ items, ∀ other ∈ others, ∀ rest otherRest, follows rest → follows otherRest →
      print item ++ rest = print other ++ otherRest → item = other ∧ rest = otherRest)
    (heq : items.flatMap (mark ++ print ·) ++ (close ++ rest)
      = others.flatMap (mark ++ print ·) ++ (close ++ otherRest)) :
    items = others ∧ rest = otherRest := by
  induction items generalizing others with
  | nil =>
    cases others with
    | nil => exact ⟨rfl, List.append_cancel_left heq⟩
    | cons other others =>
      rw [List.flatMap_cons, List.append_assoc, List.append_assoc] at heq
      exact absurd heq.symm (hapart _ _)
  | cons item items ih =>
    cases others with
    | nil =>
      rw [List.flatMap_cons, List.append_assoc, List.append_assoc] at heq
      exact absurd heq (hapart _ _)
    | cons other others =>
      rw [List.flatMap_cons, List.flatMap_cons, List.append_assoc, List.append_assoc, List.append_assoc,
        List.append_assoc] at heq
      obtain ⟨rfl, hrest⟩ := hitems item List.mem_cons_self other List.mem_cons_self _ _
        (follows_flatMap hmark hclose items rest) (follows_flatMap hmark hclose others otherRest)
        (List.append_cancel_left heq)
      obtain ⟨rfl, hlast⟩ := ih (fun item hitem other hother =>
        hitems item (List.mem_cons_of_mem _ hitem) other (List.mem_cons_of_mem _ hother)) hrest
      exact ⟨rfl, hlast⟩

end Items

end Spans

section Layout

variable {separator : String} {parts : List String}

theorem joinParts_of_nonempty (hparts : ∀ part ∈ parts, part ≠ "") :
    joinParts separator parts = separator.intercalate parts := by
  unfold joinParts
  rw [List.filter_eq_self.mpr]
  intro part hpart
  simpa using hparts part hpart

theorem toList_intercalate_cons (separator first : String) (rest : List String) :
    (separator.intercalate (first :: rest)).toList
      =
    first.toList ++ rest.flatMap fun part => separator.toList ++ part.toList := by
  induction rest generalizing first with
  | nil => simp
  | cons next rest ih =>
    rw [String.intercalate_cons_cons, String.toList_append, String.toList_append, ih, List.flatMap_cons]
    simp only [List.append_assoc]

theorem toList_intercalate_append {front rest : List String} (hrest : rest ≠ []) :
    (separator.intercalate (front ++ rest)).toList
      =
    front.flatMap (fun part => part.toList ++ separator.toList) ++ (separator.intercalate rest).toList := by
  induction front with
  | nil => rfl
  | cons part front ih =>
    rw [List.cons_append, String.intercalate_cons_of_ne_nil (by simp [hrest]), String.toList_append,
      String.toList_append, ih, List.flatMap_cons, List.append_assoc, List.append_assoc, List.append_assoc]

variable (separator) in
theorem joinParts_ne_empty {first : String} (hfirst : first ≠ "") (rest : List String) :
    joinParts separator (first :: rest) ≠ "" := by
  unfold joinParts
  rw [List.filter_cons_of_pos (by simpa using hfirst), ← String.toList_inj.ne, toList_intercalate_cons]
  simp [hfirst]

theorem flatMap_indentChar {line : List Char} (hline : '\n' ∉ line) : line.flatMap indentChar = line := by
  induction line with
  | nil => rfl
  | cons c line ih =>
    rw [List.mem_cons, not_or] at hline
    rw [List.flatMap_cons, ih hline.right, indentChar, if_neg (by simpa using Ne.symm hline.left)]
    rfl

theorem toList_block {first : String} {rest : List String} (hnonempty : ∀ line ∈ first :: rest, line ≠ "")
    (hlines : ∀ line ∈ first :: rest, Lacks '\n' line) :
    (block (first :: rest)).toList
      =
    '\x7b' :: ((first :: rest).flatMap (['\n', ' ', ' '] ++ ·.toList) ++ ['\n', '\x7d']) := by
  have hrest : ∀ lines : List String, (∀ line ∈ lines, Lacks '\n' line) →
      (lines.flatMap fun line => "\n".toList ++ line.toList).flatMap indentChar
        = lines.flatMap (['\n', ' ', ' '] ++ ·.toList) := by
    intro lines hlines
    induction lines with
    | nil => rfl
    | cons line lines ih =>
      rw [List.forall_mem_cons] at hlines
      rw [List.flatMap_cons, List.flatMap_append, List.flatMap_append, ih hlines.right,
        flatMap_indentChar hlines.left, List.flatMap_cons]
      rfl
  rw [List.forall_mem_cons] at hlines
  unfold block indent
  have hjoined := joinParts_ne_empty "\n" (hnonempty first List.mem_cons_self) rest
  rw [if_neg (by simp), if_neg (by simpa using hjoined), joinParts_of_nonempty hnonempty]
  simp only [String.toList_append, String.toList_ofList, toList_intercalate_cons, List.flatMap_append,
    flatMap_indentChar hlines.left, hrest rest hlines.right, List.flatMap_cons]
  simp

end Layout

end TableGraph.Text
