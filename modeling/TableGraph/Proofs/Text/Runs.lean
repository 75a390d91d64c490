import Mathlib.Data.List.Infix
import TableGraph.Text.NaturalOrder

/-!
Digits in a row. Natural order can put a text in its place unless more of them stand in a row in it than a number may
have, and what is put before or behind a text makes a row no longer unless it is a digit.
-/

namespace TableGraph.Text

def IsDigits (cs : List Char) : Prop :=
  ∀ c ∈ cs, (digitValue? c).isSome = true

/-- No more digits stand in a row than a number may have. -/
def HasShortRuns (cs : List Char) : Prop :=
  ∀ run, run <:+: cs → IsDigits run → run.length ≤ maxDigits

variable {cs front back run : List Char} {c : Char}

theorem HasShortRuns.of_isDigits (hdigits : IsDigits cs) : HasShortRuns cs ↔ cs.length ≤ maxDigits :=
  ⟨fun hshort => hshort cs List.infix_rfl hdigits, fun hlength _ hrun _ => hrun.length_le.trans hlength⟩

theorem HasShortRuns.of_digitless (hdigitless : ∀ c ∈ cs, digitValue? c = none) : HasShortRuns cs := by
  intro run hrun hdigits
  cases run with
  | nil => exact Nat.zero_le _
  | cons c run =>
    have hdigit := hdigits c List.mem_cons_self
    rw [hdigitless c (hrun.subset List.mem_cons_self)] at hdigit
    cases hdigit

theorem HasShortRuns.of_isInfix (hpart : cs <:+: run) (hshort : HasShortRuns run) : HasShortRuns cs :=
  fun _ hrun => hshort _ (hrun.trans hpart)

/-- Behind the digits of ASCII and before those of any other script. -/
def isBetweenDigits (c : Char) : Bool :=
  0x3A ≤ c.toNat && c.toNat < 0x660

theorem digitValue?_of_isBetweenDigits (hc : isBetweenDigits c = true) : digitValue? c = none := by
  have hzeros : ∀ z ∈ digitZeros, z + 10 ≤ 0x3A ∨ 0x660 ≤ z := by decide
  simp only [isBetweenDigits, Bool.and_eq_true, decide_eq_true_eq] at hc
  rw [digitValue?, Option.map_eq_none_iff, List.find?_eq_none]
  intro z hz
  have hapart := hzeros z hz
  simp only [Bool.and_eq_true, decide_eq_true_eq]
  omega

theorem HasShortRuns.of_all (hall : cs.all isBetweenDigits = true) : HasShortRuns cs :=
  .of_digitless fun c hc => digitValue?_of_isBetweenDigits (List.all_eq_true.mp hall c hc)

/-- Where two texts meet, no row of digits goes on if one of the characters there is none. -/
theorem hasShortRuns_append_iff
    (hgap : (∀ c ∈ front.getLast?, digitValue? c = none) ∨ ∀ c ∈ back.head?, digitValue? c = none) :
    HasShortRuns (front ++ back) ↔ HasShortRuns front ∧ HasShortRuns back := by
  constructor
  . intro hshort
    exact ⟨hshort.of_isInfix (List.prefix_append front back).isInfix,
      hshort.of_isInfix (List.suffix_append front back).isInfix⟩
  . rintro ⟨hfront, hback⟩ run hrun hdigits
    rcases List.infix_append_iff_ne_nil.mp hrun with hrun | hrun | ⟨left, right, hleft, hright, rfl, hbefore, hafter⟩
    . exact hfront run hrun hdigits
    . exact hback run hrun hdigits
    . obtain ⟨before, rfl⟩ := hbefore
      obtain ⟨after, rfl⟩ := hafter
      exfalso
      rcases hgap with hlast | hfirst
      . have hdigit := hdigits _ (List.mem_append_left right (List.getLast_mem hleft))
        rw [hlast (left.getLast hleft) (by simp [List.getLast?_append, List.getLast?_eq_some_getLast hleft])] at hdigit
        cases hdigit
      . have hdigit := hdigits _ (List.mem_append_right left (List.head_mem hright))
        rw [hfirst (right.head hright) (by simp [List.head?_append, List.head?_eq_some_head hright])] at hdigit
        cases hdigit

theorem HasShortRuns.prepend (hfront : front.all isBetweenDigits = true) (hback : HasShortRuns back) :
    HasShortRuns (front ++ back) := by
  have hgap : ∀ c ∈ front.getLast?, digitValue? c = none := fun c hc =>
    digitValue?_of_isBetweenDigits (List.all_eq_true.mp hfront c (List.mem_of_getLast? hc))
  exact (hasShortRuns_append_iff (.inl hgap)).mpr ⟨.of_all hfront, hback⟩

theorem HasShortRuns.append (hfront : HasShortRuns front) (hback : back.all isBetweenDigits = true) :
    HasShortRuns (front ++ back) := by
  have hgap : ∀ c ∈ back.head?, digitValue? c = none := fun c hc =>
    digitValue?_of_isBetweenDigits (List.all_eq_true.mp hback c (List.mem_of_mem_head? hc))
  exact (hasShortRuns_append_iff (.inr hgap)).mpr ⟨hfront, .of_all hback⟩

variable {numeric : Bool}

theorem hasShortRuns_stretchOfRun (hrun : ∀ c ∈ run, (digitValue? c).isSome = numeric) :
    HasShortRuns run.reverse
      ↔
    ∀ value text, stretchOfRun numeric run = .number value text → text.length ≤ maxDigits := by
  cases numeric with
  | false =>
    have hdigitless : ∀ c ∈ run.reverse, digitValue? c = none := by
      intro c hc
      simpa using hrun c (List.mem_reverse.mp hc)
    simp [HasShortRuns.of_digitless hdigitless, stretchOfRun]
  | true =>
    have hdigits : IsDigits run.reverse := fun c hc => hrun c (List.mem_reverse.mp hc)
    simp [HasShortRuns.of_isDigits hdigits, stretchOfRun]

/-- The runs that a text is cut into are its rows of digits. -/
theorem hasShortRuns_stretchesFrom (hrun : ∀ c ∈ run, (digitValue? c).isSome = numeric) :
    HasShortRuns (run.reverse ++ cs)
      ↔
    ∀ value text, .number value text ∈ stretchesFrom numeric run cs → text.length ≤ maxDigits := by
  induction cs generalizing numeric run with
  | nil =>
    rw [List.append_nil, hasShortRuns_stretchOfRun hrun, stretchesFrom]
    simp only [List.mem_singleton, eq_comm]
  | cons c cs ih =>
    rw [stretchesFrom]
    split
    . next hsame =>
      rw [← ih (List.forall_mem_cons.mpr ⟨beq_iff_eq.mp hsame, hrun⟩), List.reverse_cons, List.append_assoc]
      rfl
    . next hother =>
      have hc : (digitValue? c).isSome = !numeric := Bool.eq_not_of_ne (by simpa using hother)
      have hgap : (∀ d ∈ run.reverse.getLast?, digitValue? d = none) ∨
          ∀ d ∈ (c :: cs).head?, digitValue? d = none := by
        cases numeric with
        | false => exact .inl fun d hd => by simpa using hrun d (List.mem_reverse.mp (List.mem_of_getLast? hd))
        | true =>
          refine .inr fun d hd => ?_
          obtain rfl : c = d := by simpa using hd
          simpa using hc
      have hsingle : ∀ d ∈ [c], (digitValue? d).isSome = !numeric := List.forall_mem_singleton.mpr hc
      have hrest : HasShortRuns (c :: cs) ↔ _ := ih hsingle
      rw [hasShortRuns_append_iff hgap, hasShortRuns_stretchOfRun hrun, hrest]
      simp only [List.mem_cons, or_imp, forall_and, eq_comm]

theorem overlongRun?_eq_none_iff {s : String} : overlongRun? s = none ↔ HasShortRuns s.toList := by
  have hnothing : ∀ c ∈ ([] : List Char), (digitValue? c).isSome = false := List.forall_mem_nil _
  have hstretches : HasShortRuns ([].reverse ++ s.toList) ↔ _ := hasShortRuns_stretchesFrom hnothing
  unfold overlongRun? stretches
  rw [List.reverse_nil, List.nil_append] at hstretches
  rw [hstretches, List.findSome?_eq_none_iff]
  constructor
  . intro hnone value text hmem
    simpa using hnone _ hmem
  . intro hshort stretch hmem
    cases stretch with
    | plain text => rfl
    | number value text => simpa using hshort value text hmem

theorem lt_of_overlongRun? {s : String} {digits : Nat} (hdigits : overlongRun? s = some digits) :
    maxDigits < digits := by
  obtain ⟨stretch, -, hlong⟩ := List.exists_of_findSome?_eq_some hdigits
  cases stretch with
  | plain text => cases hlong
  | number value text => grind

end TableGraph.Text
