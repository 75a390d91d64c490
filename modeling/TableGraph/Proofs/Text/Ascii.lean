import TableGraph.Text.Blank
import TableGraph.Text.Case

/-!
Texts of ASCII characters, and their letters in upper and in lower case.
-/

namespace TableGraph

def IsAscii (text : String) : Prop :=
  ∀ c ∈ text.toList, c.toNat < 0x80

instance (text : String) : Decidable (IsAscii text) :=
  List.decidableBAll _ _

theorem isAscii_append_iff {first second : String} :
    IsAscii (first ++ second) ↔ IsAscii first ∧ IsAscii second := by
  unfold IsAscii
  rw [String.toList_append, List.forall_mem_append]

theorem isAscii_append {first second : String} (hfirst : IsAscii first) (hsecond : IsAscii second) :
    IsAscii (first ++ second) :=
  isAscii_append_iff.mpr ⟨hfirst, hsecond⟩

namespace Text

variable {c : Char}

end Text

end TableGraph
