import TableGraph.Proofs.Text.Lacks

/-!
Texts that are moved to the right as a whole. Their first line stays where it is: what stands before it is
written by others.
-/

namespace TableGraph.Text

/-- A text with a margin behind every line break. -/
def shift (margin text : String) : String :=
  String.ofList (text.toList.flatMap fun c => if c = '\n' then c :: margin.toList else [c])

section Shift

variable {margin : String}

theorem toList_shift (margin text : String) :
    (shift margin text).toList = text.toList.flatMap fun c => if c = '\n' then c :: margin.toList else [c] :=
  String.toList_ofList

@[simp]
theorem shift_append (first second : String) :
    shift margin (first ++ second) = shift margin first ++ shift margin second := by
  rw [← String.toList_inj]
  simp only [toList_shift, String.toList_append, List.flatMap_append]

theorem shift_of_lacks {text : String} (htext : Lacks '\n' text) : shift margin text = text := by
  unfold Lacks at htext
  rw [← String.toList_inj, toList_shift]
  generalize text.toList = cs at htext ⊢
  induction cs with
  | nil => rfl
  | cons c cs ih =>
    rw [List.mem_cons, not_or] at htext
    rw [List.flatMap_cons, ih htext.right, if_neg (Ne.symm htext.left)]
    rfl

theorem shift_break (margin : String) : shift margin "\n" = "\n" ++ margin := by
  rw [← String.toList_inj, toList_shift, String.toList_append]
  simp

theorem shift_line {line text : String} (htext : text = line ++ "\n") (hline : Lacks '\n' line) :
    shift margin text = text ++ margin := by
  rw [htext, shift_append, shift_of_lacks hline, shift_break, String.append_assoc]

theorem shift_intercalate (separator : String) (texts : List String) :
    shift margin (separator.intercalate texts) = (shift margin separator).intercalate (texts.map (shift margin)) := by
  induction texts with
  | nil =>
    rw [List.map_nil, String.intercalate_nil, String.intercalate_nil]
    exact shift_of_lacks (by decide)
  | cons text rest ih =>
    cases rest with
    | nil => rw [String.intercalate_singleton, List.map_singleton, String.intercalate_singleton]
    | cons next rest =>
      rw [List.map_cons] at ih
      rw [String.intercalate_cons_cons, shift_append, shift_append, ih, List.map_cons, List.map_cons,
        String.intercalate_cons_cons]

theorem append_shift_intercalate {separator : String} (hseparator : shift margin separator = separator ++ margin)
    {texts : List String} (htexts : texts ≠ []) :
    margin ++ shift margin (separator.intercalate texts)
      =
    separator.intercalate (texts.map fun text => margin ++ shift margin text) := by
  induction texts with
  | nil => exact absurd rfl htexts
  | cons text rest ih =>
    cases rest with
    | nil => rw [String.intercalate_singleton, List.map_singleton, String.intercalate_singleton]
    | cons next rest =>
      have hrest := ih (List.cons_ne_nil next rest)
      rw [List.map_cons] at hrest
      rw [String.intercalate_cons_cons, shift_append, shift_append, hseparator, List.map_cons, List.map_cons,
        String.intercalate_cons_cons, ← hrest]
      simp only [String.append_assoc]

end Shift

end TableGraph.Text
