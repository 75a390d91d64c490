import TableGraph.Proofs.Json.Grammar
import TableGraph.Proofs.Text.Lacks

/-!
Literals and integers are spelled as the grammar of JSON asks for, and in ASCII.
-/

namespace TableGraph.Json

section Units

variable {n : Nat}

theorem unitEscape_eq (n : Nat) :
    unitEscape n
      =
    ['\\', 'u', Text.hexDigit (n / 16 / 16 / 16 % 16), Text.hexDigit (n / 16 / 16 % 16),
      Text.hexDigit (n / 16 % 16), Text.hexDigit (n % 16)] := rfl

theorem unit?_hexDigits (hn : n < 0x10000) :
    unit? (Text.hexDigit (n / 16 / 16 / 16 % 16)) (Text.hexDigit (n / 16 / 16 % 16))
      (Text.hexDigit (n / 16 % 16)) (Text.hexDigit (n % 16))
      =
    some n := by
  have hdigit : ∀ m, Text.hexValue? (Text.hexDigit (m % 16)) = some (m % 16) :=
    fun m => Text.hexValue?_hexDigit (Nat.mod_lt m (by decide))
  unfold unit?
  simp only [hdigit, bind, Option.bind, pure, Option.some.injEq]
  omega

theorem spellsChar_unitEscape {c : Char} (hc : c.toNat < 0x10000) : SpellsChar c (unitEscape c.toNat) := by
  rw [unitEscape_eq]
  exact .unit (unit?_hexDigits hc)

theorem spellsChar_unitEscapes {c : Char} (hc : 0x10000 ≤ c.toNat) :
    SpellsChar c
      (unitEscape (0xD800 + (c.toNat - 0x10000) / 0x400) ++
        unitEscape (0xDC00 + (c.toNat - 0x10000) % 0x400)) := by
  have hvalid : c.toNat < 0xD800 ∨ 0xDFFF < c.toNat ∧ c.toNat < 0x110000 := c.valid
  have hhigh : (c.toNat - 0x10000) / 0x400 < 0x400 := by omega
  have hlow : (c.toNat - 0x10000) % 0x400 < 0x400 := Nat.mod_lt _ (by decide)
  rw [unitEscape_eq, unitEscape_eq]
  apply SpellsChar.pair (unit?_hexDigits (by omega)) _ (unit?_hexDigits (by omega))
  . simp only [isLowUnit, Bool.and_eq_true, decide_eq_true_eq]
    omega
  . omega
  . simp only [isHighUnit, Bool.and_eq_true, decide_eq_true_eq]
    omega

end Units

def shortEscaped : List Char := ['"', '\\', '\n', '\r', '\t', '\x08', '\x0c']

theorem literalChar_of_mem {c : Char} (hc : c ∈ shortEscaped) :
    ∃ letter, letter.toNat < 0x80 ∧ unescape? letter = some c ∧ literalChar c = ['\\', letter] := by
  simp only [shortEscaped, List.mem_cons, List.not_mem_nil, or_false] at hc
  rcases hc with rfl | rfl | rfl | rfl | rfl | rfl | rfl
  . exact ⟨'"', by decide, rfl, rfl⟩
  . exact ⟨'\\', by decide, rfl, rfl⟩
  . exact ⟨'n', by decide, rfl, rfl⟩
  . exact ⟨'r', by decide, rfl, rfl⟩
  . exact ⟨'t', by decide, rfl, rfl⟩
  . exact ⟨'b', by decide, rfl, rfl⟩
  . exact ⟨'f', by decide, rfl, rfl⟩

theorem literalChar_of_not_mem {c : Char} (hc : c ∉ shortEscaped) :
    literalChar c
      =
    if 0x20 ≤ c.toNat ∧ c.toNat ≤ 0x7E then [c]
    else if c.toNat < 0x10000 then unitEscape c.toNat
    else
      unitEscape (0xD800 + (c.toNat - 0x10000) / 0x400) ++
        unitEscape (0xDC00 + (c.toNat - 0x10000) % 0x400) := by
  simp only [shortEscaped, List.mem_cons, List.not_mem_nil, or_false, not_or] at hc
  unfold literalChar
  simp [hc]

theorem spellsChar_literalChar (c : Char) : SpellsChar c (literalChar c) := by
  by_cases hshort : c ∈ shortEscaped
  . obtain ⟨letter, -, hletter, heq⟩ := literalChar_of_mem hshort
    rw [heq]
    exact .escape hletter
  . rw [literalChar_of_not_mem hshort]
    split
    . next hplain =>
      have hquote : c ≠ '"' := by
        rintro rfl
        exact hshort (by decide)
      have hescape : c ≠ '\\' := by
        rintro rfl
        exact hshort (by decide)
      exact .plain hquote hescape hplain.left
    . split
      . next hlow => exact spellsChar_unitEscape hlow
      . next hhigh => exact spellsChar_unitEscapes (Nat.le_of_not_lt hhigh)

theorem spellsChars_literal (cs : List Char) : SpellsChars cs (cs.flatMap literalChar) := by
  induction cs with
  | nil => exact .nil
  | cons c cs ih =>
    rw [List.flatMap_cons]
    exact .cons (spellsChar_literalChar c) ih

theorem toList_literal (s : String) :
    (literal s).toList = '"' :: s.toList.flatMap literalChar ++ ['"'] := by
  rw [literal, String.toList_ofList]

theorem eq_or_isNameChar_of_unescape? {letter c : Char} (hletter : unescape? letter = some c) :
    letter = c ∨ isNameChar letter = true := by
  unfold unescape? at hletter
  split at hletter
  . exact .inl (Option.some.inj hletter)
  . exact .inl (Option.some.inj hletter)
  . exact .inl (Option.some.inj hletter)
  . exact .inr rfl
  . exact .inr rfl
  . exact .inr rfl
  . exact .inr rfl
  . exact .inr rfl
  . cases hletter

theorem mem_literalChar {c d : Char} (hd : d ∈ literalChar c) : d = c ∨ d = '\\' ∨ isNameChar d = true := by
  have hunit : ∀ n, ∀ d ∈ unitEscape n, d = '\\' ∨ isNameChar d = true := by
    intro n
    have hdigit : ∀ m < 16, isNameChar (Text.hexDigit m) = true := by decide
    have hlast : ∀ m, isNameChar (Text.hexDigit (m % 16)) = true :=
      fun m => hdigit _ (Nat.mod_lt m (by decide))
    rw [unitEscape_eq]
    simp only [List.forall_mem_cons, hlast, or_true, true_and, List.not_mem_nil, false_imp_iff, implies_true,
      and_true, true_or]
    decide
  by_cases hshort : c ∈ shortEscaped
  . obtain ⟨letter, -, hletter, heq⟩ := literalChar_of_mem hshort
    rw [heq, List.mem_cons, List.mem_singleton] at hd
    rcases hd with hstroke | rfl
    . exact .inr (.inl hstroke)
    . rcases eq_or_isNameChar_of_unescape? hletter with hsame | hname
      . exact .inl hsame
      . exact .inr (.inr hname)
  . rw [literalChar_of_not_mem hshort] at hd
    split at hd
    . exact .inl (List.mem_singleton.mp hd)
    . right
      split at hd
      . exact hunit _ d hd
      . rcases List.mem_append.mp hd with hhigh | hlow
        . exact hunit _ d hhigh
        . exact hunit _ d hlow

theorem lacks_literal {c : Char} {text : String} (htext : Lacks c text) (hc : c ∉ ['"', '\\'])
    (hname : isNameChar c = false) : Lacks c (literal text) := by
  simp only [List.mem_cons, List.not_mem_nil, or_false, not_or] at hc
  unfold Lacks
  rw [toList_literal, List.mem_append, List.mem_cons, List.mem_flatMap, List.mem_singleton]
  rintro ((hquote | ⟨d, hd, hmem⟩) | hquote)
  . exact hc.left hquote
  . rcases mem_literalChar hmem with rfl | hstroke | hnameChar
    . exact htext hd
    . exact hc.right hstroke
    . rw [hname] at hnameChar
      cases hnameChar
  . exact hc.left hquote

theorem lacks_break_literal (text : String) : Lacks '\n' (literal text) := by
  unfold Lacks
  rw [toList_literal, List.mem_append, List.mem_cons, List.mem_flatMap, List.mem_singleton]
  rintro ((hquote | ⟨c, -, hmem⟩) | hquote)
  . cases hquote
  . rcases mem_literalChar hmem with rfl | hstroke | hnameChar
    . revert hmem
      decide
    . cases hstroke
    . cases hnameChar
  . cases hquote

theorem ascii_unitEscape (n : Nat) : ∀ d ∈ unitEscape n, d.toNat < 0x80 := by
  have hdigit : ∀ m < 16, (Text.hexDigit m).toNat < 0x80 := by decide
  have hlast : ∀ m, (Text.hexDigit (m % 16)).toNat < 0x80 := fun m => hdigit _ (Nat.mod_lt m (by decide))
  rw [unitEscape_eq]
  simp only [List.forall_mem_cons, hlast, List.not_mem_nil, false_imp_iff, implies_true, and_true]
  decide

theorem ascii_literalChar (c : Char) : ∀ d ∈ literalChar c, d.toNat < 0x80 := by
  by_cases hshort : c ∈ shortEscaped
  . obtain ⟨letter, hletter, -, heq⟩ := literalChar_of_mem hshort
    rw [heq, List.forall_mem_cons, List.forall_mem_singleton]
    exact ⟨by decide, hletter⟩
  . rw [literalChar_of_not_mem hshort]
    split
    . next hplain =>
      rw [List.forall_mem_singleton]
      exact Nat.lt_of_le_of_lt hplain.right (by decide)
    . split
      . exact ascii_unitEscape _
      . rw [List.forall_mem_append]
        exact ⟨ascii_unitEscape _, ascii_unitEscape _⟩

theorem ascii_literal (s : String) : ∀ d ∈ (literal s).toList, d.toNat < 0x80 := by
  rw [toList_literal, List.forall_mem_append, List.forall_mem_cons, List.forall_mem_flatMap,
    List.forall_mem_singleton]
  exact ⟨⟨by decide, fun c _ => ascii_literalChar c⟩, by decide⟩

/-! Integers. -/

theorem eq_zero_of_head?_toDigits (n : Nat) (hn : (Nat.toDigits 10 n).head? = some '0') : n = 0 := by
  induction n using Nat.strongRecOn with
  | ind n ih =>
    rw [Nat.toDigits_eq_if (by decide)] at hn
    split at hn
    . next hlow =>
      have hsingle : ∀ m < 10, [m.digitChar].head? = some '0' → m = 0 := by decide
      exact hsingle n hlow hn
    . next hhigh =>
      obtain ⟨d, tail, hdigits⟩ := List.exists_cons_of_ne_nil (Nat.toDigits_ne_nil (n := n / 10) (b := 10))
      have hfront : (Nat.toDigits 10 (n / 10)).head? = some '0' := by
        rw [hdigits] at hn ⊢
        exact hn
      have hzero := ih (n / 10) (by omega) hfront
      omega

theorem spellsNat_toDigits (n : Nat) : SpellsNat n (Nat.toDigits 10 n) where
  nonempty := Nat.toDigits_ne_nil
  digit d hd := Nat.isDigit_of_mem_toDigits (by decide) (by decide) hd
  leading hzero := by
    rw [eq_zero_of_head?_toDigits n hzero]
    rfl
  value := Nat.ofDigitChars_toDigits (by decide) (by decide)

theorem spellsInt_toString (n : Int) : SpellsInt n (toString n).toList := by
  cases n with
  | ofNat n =>
    have htext : (toString (Int.ofNat n)).toList = Nat.toDigits 10 n := Nat.toList_repr
    rw [htext]
    exact .natural (spellsNat_toDigits n)
  | negSucc n =>
    have htext : (toString (Int.negSucc n)).toList = '-' :: Nat.toDigits 10 (n + 1) := by
      have hsign : toString (Int.negSucc n) = "-" ++ (n + 1).repr := rfl
      rw [hsign, String.toList_append, Nat.toList_repr]
      rfl
    rw [htext]
    exact .negative (spellsNat_toDigits (n + 1))

theorem SpellsInt.mem {n : Int} {code : List Char} (hcode : SpellsInt n code) :
    ∀ d ∈ code, d = '-' ∨ d.isDigit = true := by
  cases hcode with
  | natural hdigits => exact fun d hd => .inr (hdigits.digit d hd)
  | negative hdigits =>
    rw [List.forall_mem_cons]
    exact ⟨.inl rfl, fun d hd => .inr (hdigits.digit d hd)⟩

theorem SpellsInt.ascii {n : Int} {code : List Char} (hcode : SpellsInt n code) :
    ∀ d ∈ code, d.toNat < 0x80 := by
  intro d hd
  rcases hcode.mem d hd with rfl | hdigit
  . decide
  . simp only [Char.isDigit, Bool.and_eq_true, decide_eq_true_eq, UInt32.le_iff_toNat_le] at hdigit
    exact Nat.lt_of_le_of_lt hdigit.right (by decide)

end TableGraph.Json
