import TableGraph.Json.Literal
import TableGraph.Proofs.Name

/-!
Characters that do not occur in a text, and texts without any character that means something to a template
or has to be escaped in a literal.
-/

namespace TableGraph

def Lacks (c : Char) (text : String) : Prop :=
  c ∉ text.toList

instance (c : Char) (text : String) : Decidable (Lacks c text) :=
  inferInstanceAs (Decidable (c ∉ text.toList))

section Lacks

variable {c : Char}

@[simp]
theorem lacks_append_iff {first second : String} :
    Lacks c (first ++ second) ↔ Lacks c first ∧ Lacks c second := by
  unfold Lacks
  rw [String.toList_append, List.mem_append, not_or]

theorem lacks_of_isName {name : String} (hname : IsName name) (hc : isNameChar c = false) : Lacks c name := by
  intro hmem
  rw [hname.isNameChar hmem] at hc
  cases hc

theorem lacks_of_isAcceptedName {name : String} (hname : isAcceptedName name = true)
    (hc : isNameChar c = false) (hbreak : c ≠ '\n') : Lacks c name := by
  unfold isAcceptedName at hname
  rw [Bool.or_eq_true, Bool.and_eq_true, beq_iff_eq] at hname
  rcases hname with hname | ⟨hlast, hname⟩
  . exact lacks_of_isName hname hc
  . intro hmem
    have hchars : name.toList = name.toList.dropLast ++ ['\n'] :=
      (List.dropLast_append_getLast? '\n' hlast).symm
    have hfront : IsName (String.ofList name.toList.dropLast) := by
      unfold IsName
      rwa [String.toList_ofList]
    rw [hchars, List.mem_append, List.mem_singleton] at hmem
    rcases hmem with hmem | heq
    . apply lacks_of_isName hfront hc
      rwa [String.toList_ofList]
    . exact hbreak heq

end Lacks

theorem forall_mem_intercalate {p : Char → Prop} {separator : String} {texts : List String}
    (hseparator : ∀ c ∈ separator.toList, p c) (htexts : ∀ text ∈ texts, ∀ c ∈ text.toList, p c) :
    ∀ c ∈ (separator.intercalate texts).toList, p c := by
  induction texts with
  | nil => simp
  | cons text rest ih =>
    rw [List.forall_mem_cons] at htexts
    cases rest with
    | nil =>
      rw [String.intercalate_singleton]
      exact htexts.left
    | cons next rest =>
      rw [String.intercalate_cons_cons, String.toList_append, String.toList_append,
        List.forall_mem_append, List.forall_mem_append]
      exact ⟨⟨htexts.left, hseparator⟩, ih htexts.right⟩

theorem lacks_intercalate {c : Char} {separator : String} {texts : List String}
    (hseparator : Lacks c separator) (htexts : ∀ text ∈ texts, Lacks c text) :
    Lacks c (separator.intercalate texts) := by
  have hother : ∀ d ∈ (separator.intercalate texts).toList, d ≠ c := by
    apply forall_mem_intercalate
    . rintro d hd rfl
      exact hseparator hd
    . rintro text htext d hd rfl
      exact htexts text htext hd
  exact fun hmem => hother c hmem rfl

def Plain (text : String) : Prop :=
  ∀ c ∈ text.toList, c ≠ '$' ∧ Json.literalChar c = [c]

instance (text : String) : Decidable (Plain text) :=
  List.decidableBAll _ _

section Plain

@[simp]
theorem plain_append_iff {first second : String} : Plain (first ++ second) ↔ Plain first ∧ Plain second := by
  unfold Plain
  rw [String.toList_append, List.forall_mem_append]

theorem Plain.lacks {text : String} (htext : Plain text) : Lacks '$' text :=
  fun hmem => (htext _ hmem).left rfl

theorem literalChar_of_isNameChar {c : Char} (hchar : isNameChar c = true) : Json.literalChar c = [c] := by
  have hne : ∀ d, isNameChar d = false → (c == d) = false := by
    intro d hd
    rw [beq_eq_false_iff_ne]
    rintro rfl
    rw [hchar] at hd
    cases hd
  obtain ⟨hlow, hhigh⟩ := toNat_of_isNameChar hchar
  unfold Json.literalChar
  rw [hne '"' rfl, hne '\\' rfl, hne '\n' rfl, hne '\r' rfl, hne '\t' rfl, hne '\x08' rfl, hne '\x0c' rfl]
  have hprintable : (decide (0x20 ≤ c.toNat) && decide (c.toNat ≤ 0x7E)) = true := by
    rw [Bool.and_eq_true, decide_eq_true_eq, decide_eq_true_eq]
    omega
  simp [hprintable]

theorem plain_of_isName {name : String} (hname : IsName name) : Plain name := by
  intro c hmem
  have hchar := hname.isNameChar hmem
  refine ⟨?_, literalChar_of_isNameChar hchar⟩
  rintro rfl
  cases hchar

theorem plain_intercalate {separator : String} {texts : List String} (hseparator : Plain separator)
    (htexts : ∀ text ∈ texts, Plain text) : Plain (separator.intercalate texts) :=
  forall_mem_intercalate hseparator htexts

theorem plain_joined {names : List String} {text : String → String}
    (htext : ∀ name ∈ names, Plain (text name)) :
    Plain (", ".intercalate (names.map text)) := by
  apply plain_intercalate (by decide)
  rwa [List.forall_mem_map]

end Plain

end TableGraph
