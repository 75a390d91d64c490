import Mathlib.Data.List.DropRight
import TableGraph.Text.Blank

/-!
Texts without the blanks at their ends: what is kept of a text, and which texts lose nothing.
-/

namespace TableGraph.Text

variable {cs blanks : List Char} {c : Char}

theorem mem_of_mem_trimEnd (hmem : c ∈ trimEnd cs) : c ∈ cs := by
  induction cs with
  | nil => exact hmem
  | cons d ds ih =>
    unfold trimEnd at hmem
    split at hmem
    . split at hmem
      . cases hmem
      . rw [List.mem_singleton.mp hmem]
        exact List.mem_cons_self
    . rcases List.mem_cons.mp hmem with rfl | hmem
      . exact List.mem_cons_self
      . exact List.mem_cons_of_mem d (ih hmem)

theorem mem_of_mem_trim (hmem : c ∈ trim cs) : c ∈ cs :=
  (List.dropWhile_sublist isBlank).subset (mem_of_mem_trimEnd hmem)

theorem trim_eq_self (hfirst : ∀ c, cs.head? = some c → isBlank c = false)
    (hlast : ∀ c, cs.getLast? = some c → isBlank c = false) : trim cs = cs := by
  have hdrop : cs.dropWhile isBlank = cs := by
    cases cs with
    | nil => rfl
    | cons c rest =>
      apply List.dropWhile_cons_of_neg
      rw [hfirst c rfl]
      decide
  unfold trim
  rw [hdrop]
  rcases List.eq_nil_or_concat cs with rfl | ⟨front, last, rfl⟩
  . rfl
  . rw [List.concat_eq_append] at hlast ⊢
    apply trimEnd_append_of_not_blank
    apply hlast
    apply List.getLast?_concat

section Blanks

variable (hblanks : ∀ c ∈ blanks, isBlank c = true)

include hblanks

end Blanks

end TableGraph.Text
