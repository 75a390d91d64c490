import TableGraph.Decimal.Notation
import TableGraph.Proofs.Json.Spelling
import TableGraph.Text.Digit

/-!
The characters of written numbers: digits, signs, points, the letter before an exponent and those of the numbers
that are not finite.
-/

namespace TableGraph

def numberSigns : List Char := ['-', '+', '.', 'e', 'i', 'n', 'f', 'a']

def IsNumeric (text : String) : Prop :=
  ∀ c ∈ text.toList, c.isDigit = true ∨ c ∈ numberSigns

instance (text : String) : Decidable (IsNumeric text) :=
  List.decidableBAll _ _

theorem isNumeric_append_iff {first second : String} :
    IsNumeric (first ++ second) ↔ IsNumeric first ∧ IsNumeric second := by
  unfold IsNumeric
  rw [String.toList_append, List.forall_mem_append]

theorem IsNumeric.lacks {text : String} (htext : IsNumeric text) {c : Char} (hdigit : c.isDigit = false)
    (hsign : c ∉ numberSigns) : Lacks c text := by
  intro hmem
  rcases htext c hmem with hisDigit | hisSign
  . rw [hdigit] at hisDigit
    cases hisDigit
  . exact hsign hisSign

theorem isNumeric_ofList {digits : List Char} (hdigits : ∀ d ∈ digits, d.isDigit = true) :
    IsNumeric (String.ofList digits) := by
  unfold IsNumeric
  rw [String.toList_ofList]
  exact fun d hd => .inl (hdigits d hd)

theorem isNumeric_toString_int (n : Int) : IsNumeric (toString n) := by
  intro d hd
  rcases (Json.spellsInt_toString n).mem d hd with rfl | hdigit
  . exact .inr (by decide)
  . exact .inl hdigit

theorem isDigit_of_mem_toDigits {n : Nat} : ∀ d ∈ Nat.toDigits 10 n, d.isDigit = true :=
  fun _ hd => Nat.isDigit_of_mem_toDigits (by decide) (by decide) hd

theorem isNumeric_toString_nat (n : Nat) : IsNumeric (toString n) := by
  unfold IsNumeric
  rw [Nat.toString_eq_repr, Nat.toList_repr]
  exact fun d hd => .inl (isDigit_of_mem_toDigits d hd)

theorem Text.isWritten_iff {n : Int} : isWritten n = true ↔ n.natAbs < Nat.pow 10 maxDigits := by
  unfold isWritten
  rw [decide_eq_true_iff, Nat.pow_eq, Nat.length_toDigits_le_iff (by decide) (by decide)]

theorem Text.isWritten_power : isWritten (.ofNat (Nat.pow 10 maxDigits)) = false := by
  rw [Bool.eq_false_iff, ne_eq, isWritten_iff, Int.ofNat_eq_natCast, Int.natAbs_natCast]
  exact Nat.lt_irrefl _

namespace Binary64

variable {digits : List Char}

theorem isNumeric_positional (hdigits : ∀ d ∈ digits, d.isDigit = true) (leading : Int) :
    IsNumeric (positional digits leading) := by
  have hzeros : ∀ n, ∀ d ∈ List.replicate n '0', d.isDigit = true := by
    intro n d hd
    rw [List.eq_of_mem_replicate hd]
    rfl
  unfold positional
  dsimp only
  split
  . rw [isNumeric_append_iff]
    refine ⟨by decide, isNumeric_ofList ?_⟩
    rw [List.forall_mem_append]
    exact ⟨hzeros _, hdigits⟩
  . rw [isNumeric_append_iff, isNumeric_append_iff]
    refine ⟨⟨isNumeric_ofList ?_, by decide⟩, ?_⟩
    . rw [List.forall_mem_append]
      exact ⟨fun d hd => hdigits d (List.mem_of_mem_take hd), hzeros _⟩
    . split
      . decide
      . exact isNumeric_ofList fun d hd => hdigits d (List.mem_of_mem_drop hd)

theorem isNumeric_scientific (hdigits : ∀ d ∈ digits, d.isDigit = true) (leading : Int) :
    IsNumeric (scientific digits leading) := by
  unfold scientific
  simp only [isNumeric_append_iff]
  refine ⟨⟨⟨⟨?_, ?_⟩, ?_⟩, ?_⟩, isNumeric_toString_nat _⟩
  . exact isNumeric_ofList fun d hd => hdigits d (List.mem_of_mem_take hd)
  . split
    . decide
    . rw [isNumeric_append_iff]
      exact ⟨by decide, isNumeric_ofList fun d hd => hdigits d (List.mem_of_mem_drop hd)⟩
  . split
    . decide
    . decide
  . split
    . decide
    . decide

theorem isNumeric_sizeText (significand : Nat) (exponent : Int) : IsNumeric (sizeText significand exponent) := by
  unfold sizeText
  split
  . decide
  . dsimp only
    split
    . exact isNumeric_positional isDigit_of_mem_toDigits _
    . exact isNumeric_scientific isDigit_of_mem_toDigits _

theorem isNumeric_text (number : Binary64) : IsNumeric number.text := by
  unfold text
  split
  . rw [isNumeric_append_iff]
    refine ⟨?_, isNumeric_sizeText _ _⟩
    split
    . decide
    . decide
  . split
    . decide
    . decide
  . decide

end Binary64
end TableGraph
