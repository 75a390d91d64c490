import TableGraph.Proofs.Json.Grammar

/-!
The parser reads what the grammar spells: a spelled value at the start of a text is read, whatever follows it
that cannot be part of it.
-/

namespace TableGraph.Json

/-! Texts in quotes, character by character. -/

section Quoted

variable {c : Char} (rest : List Char)

theorem literalTail?_plain (hquote : c ≠ '"') (hescape : c ≠ '\\') (hcontrol : 0x20 ≤ c.toNat) :
    literalTail? none (c :: rest) = (literalTail? none rest).map fun (cs, rest) => (c :: cs, rest) := by
  rw [literalTail?]
  . simp [Nat.not_lt.mpr hcontrol]
  . simp [hescape]
  . simp [hquote]
  . simp [hescape]

theorem literalTail?_escape {letter : Char} (hletter : unescape? letter = some c) :
    literalTail? none ('\\' :: letter :: rest)
      =
    (literalTail? none rest).map fun (cs, rest) => (c :: cs, rest) := by
  rw [literalTail?]
  . rintro a b d e rest rfl
    cases hletter
  . exact hletter

theorem literalTail?_unit {a b d e : Char} (hunit : unit? a b d e = some c.toNat) :
    literalTail? none ('\\' :: 'u' :: a :: b :: d :: e :: rest)
      =
    (literalTail? none rest).map fun (cs, rest) => (c :: cs, rest) := by
  -- no character has the number of a unit of a pair
  have hvalid : c.toNat < 0xD800 ∨ 0xDFFF < c.toNat ∧ c.toNat < 0x110000 := c.valid
  have hhigh : isHighUnit c.toNat = false := by
    simp only [isHighUnit, Bool.and_eq_false_iff, decide_eq_false_iff_not]
    omega
  have hlow : isLowUnit c.toNat = false := by
    simp only [isLowUnit, Bool.and_eq_false_iff, decide_eq_false_iff_not]
    omega
  rw [literalTail?.eq_def]
  simp only [hunit, hhigh, hlow, Bool.false_eq_true, if_false, Char.ofNat_toNat]

theorem literalTail?_pair {a b d e a' b' d' e' : Char} {high low : Nat}
    (hhigh : unit? a b d e = some high) (hhigh' : isHighUnit high = true)
    (hlow : unit? a' b' d' e' = some low) (hlow' : isLowUnit low = true)
    (hcode : c.toNat = 0x10000 + (high - 0xD800) * 0x400 + (low - 0xDC00)) :
    literalTail? none ('\\' :: 'u' :: a :: b :: d :: e :: '\\' :: 'u' :: a' :: b' :: d' :: e' :: rest)
      =
    (literalTail? none rest).map fun (cs, rest) => (c :: cs, rest) := by
  rw [literalTail?.eq_def]
  simp only [hhigh, hhigh', if_true]
  rw [literalTail?.eq_def]
  simp only [hlow, hlow', if_true, ← hcode, Char.ofNat_toNat]

theorem literalTail?_of_spellsChar {code : List Char} (hc : SpellsChar c code) :
    literalTail? none (code ++ rest) = (literalTail? none rest).map fun (cs, rest) => (c :: cs, rest) := by
  cases hc with
  | plain hquote hescape hcontrol => exact literalTail?_plain rest hquote hescape hcontrol
  | escape hletter => exact literalTail?_escape rest hletter
  | unit hunit => exact literalTail?_unit rest hunit
  | pair hhigh hhigh' hlow hlow' hcode => exact literalTail?_pair rest hhigh hhigh' hlow hlow' hcode

theorem literalTail?_of_spellsChars {cs codes : List Char} (hcs : SpellsChars cs codes) :
    literalTail? none (codes ++ '"' :: rest) = some (cs, rest) := by
  induction hcs with
  | nil =>
    rw [List.nil_append, literalTail?]
    rfl
  | cons hc _ ih =>
    rw [List.append_assoc, literalTail?_of_spellsChar _ hc, ih]
    rfl

end Quoted

/-! Numbers. -/

/-- What may follow a value: a blank, or what goes on with the list or record that the value is in. -/
def Ends (rest : List Char) : Prop :=
  ∀ c ∈ rest.head?, isSpace c = true ∨ c ∈ [',', ']', '\x7d']

section Numbers

variable {rest : List Char} (hends : Ends rest)

include hends

theorem Ends.isDigit : ∀ c ∈ rest.head?, c.isDigit = false := by
  intro c hc
  rcases hends c hc with hspace | hmem
  . simp only [isSpace, Bool.or_eq_true, beq_iff_eq] at hspace
    rcases hspace with ((rfl | rfl) | rfl) | rfl <;> rfl
  . simp only [List.mem_cons, List.not_mem_nil, or_false] at hmem
    rcases hmem with rfl | rfl | rfl <;> rfl

theorem Ends.ne {c : Char} (hc : isSpace c = false ∧ c ∉ [',', ']', '\x7d']) :
    ∀ tail, rest ≠ c :: tail := by
  rintro tail rfl
  rcases hends c rfl with hspace | hmem
  . rw [hc.left] at hspace
    cases hspace
  . exact hc.right hmem

theorem fraction?_of_ends : fraction? rest = some ([], rest) := by
  unfold fraction?
  split
  . exact absurd rfl (hends.ne (by decide) _)
  . rfl

theorem exponent?_of_ends : exponent? rest = some (none, rest) := by
  unfold exponent?
  split
  . exact absurd rfl (hends.ne (by decide) _)
  . exact absurd rfl (hends.ne (by decide) _)
  . rfl

theorem digits?_of_ends {digits : List Char} (hnonempty : digits ≠ [])
    (hdigits : ∀ d ∈ digits, d.isDigit = true) : digits? (digits ++ rest) = some (digits, rest) := by
  have htake : rest.takeWhile Char.isDigit = [] := by
    cases rest with
    | nil => rfl
    | cons c rest =>
      rw [List.takeWhile_cons, hends.isDigit c rfl]
      rfl
  have hdrop : rest.dropWhile Char.isDigit = rest := by
    cases rest with
    | nil => rfl
    | cons c rest =>
      rw [List.dropWhile_cons, hends.isDigit c rfl]
      rfl
  unfold digits?
  rw [List.takeWhile_append_of_pos hdigits, List.dropWhile_append_of_pos hdigits, htake, hdrop,
    List.append_nil]
  cases digits with
  | nil => exact absurd rfl hnonempty
  | cons d digits => rfl

omit hends in
theorem digitsValue_eq (digits : List Char) : digitsValue digits = Nat.ofDigitChars 10 digits 0 := by
  unfold digitsValue Nat.ofDigitChars
  simp only [Nat.mul_comm]

theorem number?_of_spellsNat {n : Nat} {digits : List Char} (hdigits : SpellsNat n digits) (negative : Bool) :
    number? negative (digits ++ rest) = some (.int (if negative then -n else n), rest) := by
  unfold number?
  rw [digits?_of_ends hends hdigits.nonempty hdigits.digit]
  simp only [bind, Option.bind, fraction?_of_ends hends, exponent?_of_ends hends, digitsValue_eq,
    hdigits.value]
  rfl

end Numbers

/-! Values, by their first character. -/

section Values

variable {fuel : Nat} {before cs rest : List Char}

theorem dropWhile_blanks (hbefore : Blanks before) (cs : List Char) :
    (before ++ cs).dropWhile isSpace = cs.dropWhile isSpace :=
  List.dropWhile_append_of_pos hbefore

theorem dropWhile_blanks_cons (hbefore : Blanks before) {c : Char} (hc : isSpace c = false)
    (rest : List Char) : (before ++ c :: rest).dropWhile isSpace = c :: rest := by
  rw [dropWhile_blanks hbefore, List.dropWhile_cons_of_neg (by simp [hc])]

theorem value?_blanks (hbefore : Blanks before) : value? fuel (before ++ cs) = value? fuel cs := by
  cases fuel with
  | zero => rw [value?, value?]
  | succ fuel => rw [value?, value?, dropWhile_blanks hbefore]

theorem value?_quote :
    value? (fuel + 1) ('"' :: rest)
      =
    (literalTail? none rest).map fun (cs, rest) => (.text (String.ofList cs), rest) := rfl

theorem value?_bracket :
    value? (fuel + 1) ('[' :: cs)
      =
    match cs.dropWhile isSpace with
    | ']' :: rest => some (.list [], rest)
    | _ => (items? fuel cs).map fun (items, rest) => (.list items, rest) := rfl

theorem value?_brace :
    value? (fuel + 1) ('\x7b' :: cs)
      =
    match cs.dropWhile isSpace with
    | '\x7d' :: rest => some (.record [], rest)
    | _ => (members? fuel cs).map fun (members, rest) => (.record members, rest) := rfl

theorem of_isDigit {p : Char → Prop} (hall : ∀ n < 58, 48 ≤ n → p (Char.ofNat n)) {d : Char}
    (hd : d.isDigit = true) : p d := by
  simp only [Char.isDigit, Bool.and_eq_true, decide_eq_true_eq, ge_iff_le, UInt32.le_iff_toNat_le] at hd
  rw [← d.ofNat_toNat]
  exact hall d.toNat (Nat.lt_succ_of_le hd.right) hd.left

theorem mem_digits {d : Char} (hd : d.isDigit = true) :
    d ∈ ['0', '1', '2', '3', '4', '5', '6', '7', '8', '9'] :=
  of_isDigit (by decide) hd

theorem value?_digit {d : Char} (hd : d.isDigit = true) :
    value? (fuel + 1) (d :: rest) = number? false (d :: rest) := by
  have hmem := mem_digits hd
  simp only [List.mem_cons, List.not_mem_nil, or_false] at hmem
  rcases hmem with rfl | rfl | rfl | rfl | rfl | rfl | rfl | rfl | rfl | rfl <;> rfl

theorem value?_minus {d : Char} (hd : d.isDigit = true) :
    value? (fuel + 1) ('-' :: d :: rest) = number? true (d :: rest) := by
  have hmem := mem_digits hd
  simp only [List.mem_cons, List.not_mem_nil, or_false] at hmem
  rcases hmem with rfl | rfl | rfl | rfl | rfl | rfl | rfl | rfl | rfl | rfl <;> rfl

theorem items?_last {item : Json} {after tail : List Char} (hitem : value? fuel cs = some (item, after))
    (hafter : after.dropWhile isSpace = ']' :: tail) :
    items? (fuel + 1) cs = some ([item], tail) := by
  rw [items?, hitem]
  simp only [hafter]

theorem items?_cons {item : Json} {after tail : List Char} (hitem : value? fuel cs = some (item, after))
    (hafter : after.dropWhile isSpace = ',' :: tail) :
    items? (fuel + 1) cs = (items? fuel tail).map fun (items, rest) => (item :: items, rest) := by
  rw [items?, hitem]
  simp only [hafter]

section Member

variable {name : String} {quoted gap : List Char} (hbefore : Blanks before)
  (hname : SpellsChars name.toList quoted) (hgap : Blanks gap) {value : Json} {after tail : List Char}
  (hvalue : value? fuel cs = some (value, after))

include hbefore hname hgap hvalue

theorem members?_last (hafter : after.dropWhile isSpace = '\x7d' :: tail) :
    members? (fuel + 1) (before ++ '"' :: (quoted ++ '"' :: (gap ++ ':' :: cs)))
      =
    some ([(name, value)], tail) := by
  have hcolon : (gap ++ ':' :: cs).dropWhile isSpace = ':' :: cs := dropWhile_blanks_cons hgap rfl cs
  rw [members?, dropWhile_blanks_cons hbefore rfl]
  simp only [literalTail?_of_spellsChars _ hname, hcolon, hvalue, hafter, String.ofList_toList]

theorem members?_cons (hafter : after.dropWhile isSpace = ',' :: tail) :
    members? (fuel + 1) (before ++ '"' :: (quoted ++ '"' :: (gap ++ ':' :: cs)))
      =
    (members? fuel tail).map fun (members, rest) => ((name, value) :: members, rest) := by
  have hcolon : (gap ++ ':' :: cs).dropWhile isSpace = ':' :: cs := dropWhile_blanks_cons hgap rfl cs
  rw [members?, dropWhile_blanks_cons hbefore rfl]
  simp only [literalTail?_of_spellsChars _ hname, hcolon, hvalue, hafter, String.ofList_toList]

end Member

end Values

/-! Where a value starts and ends. -/

theorem SpellsNat.start {n : Nat} {digits : List Char} (hdigits : SpellsNat n digits) :
    ∃ d tail, digits = d :: tail ∧ d.isDigit = true ∧ isSpace d = false ∧ d ≠ ']' := by
  obtain ⟨d, tail, rfl⟩ := List.exists_cons_of_ne_nil hdigits.nonempty
  have hd := hdigits.digit d List.mem_cons_self
  exact ⟨d, tail, rfl, hd, of_isDigit (p := fun d => isSpace d = false ∧ d ≠ ']') (by decide) hd⟩

theorem Spells.start {value : Json} {code : List Char} (hcode : Spells value code) :
    ∃ c tail, code = c :: tail ∧ isSpace c = false ∧ c ≠ ']' := by
  cases hcode with
  | null => exact ⟨_, _, rfl, rfl, by decide⟩
  | bool value =>
    cases value with
    | false => exact ⟨_, _, rfl, rfl, by decide⟩
    | true => exact ⟨_, _, rfl, rfl, by decide⟩
  | int hint =>
    cases hint with
    | natural hdigits =>
      obtain ⟨d, tail, heq, -, hstart⟩ := hdigits.start
      exact ⟨d, tail, heq, hstart⟩
    | negative hdigits => exact ⟨_, _, rfl, rfl, by decide⟩
  | text => exact ⟨_, _, rfl, rfl, by decide⟩
  | emptyList => exact ⟨_, _, rfl, rfl, by decide⟩
  | list => exact ⟨_, _, rfl, rfl, by decide⟩
  | emptyRecord => exact ⟨_, _, rfl, rfl, by decide⟩
  | record => exact ⟨_, _, rfl, rfl, by decide⟩

theorem SpellsItems.dropWhile_ne {items : List Json} {code : List Char} (hcode : SpellsItems items code)
    (after rest : List Char) : (code ++ after).dropWhile isSpace ≠ ']' :: rest := by
  have hitem : ∀ {item before code} (after : List Char), Blanks before → Spells item code →
      (before ++ (code ++ after)).dropWhile isSpace ≠ ']' :: rest := by
    intro item before code after hbefore hcode heq
    obtain ⟨c, tail, rfl, hspace, hne⟩ := hcode.start
    rw [dropWhile_blanks hbefore, List.cons_append, List.dropWhile_cons_of_neg (by simp [hspace])] at heq
    exact hne (List.cons.inj heq).left
  cases hcode with
  | last hbefore hcode hafter =>
    simp only [List.append_assoc]
    exact hitem _ hbefore hcode
  | cons hbefore hcode hafter hrest =>
    simp only [List.append_assoc]
    exact hitem _ hbefore hcode

theorem SpellsMembers.dropWhile_ne {members : List (String × Json)} {code : List Char}
    (hcode : SpellsMembers members code) (after rest : List Char) :
    (code ++ after).dropWhile isSpace ≠ '\x7d' :: rest := by
  have hmember : ∀ {member code} (after : List Char), SpellsMember member code →
      (code ++ after).dropWhile isSpace ≠ '\x7d' :: rest := by
    intro member code after hcode heq
    cases hcode with
    | mk hbefore =>
      simp only [List.append_assoc, List.cons_append] at heq
      rw [dropWhile_blanks hbefore, List.dropWhile_cons_of_neg (by decide)] at heq
      exact absurd (List.cons.inj heq).left (by decide)
  cases hcode with
  | last hcode => exact hmember _ hcode
  | cons hcode hrest =>
    rw [List.append_assoc]
    exact hmember _ hcode

theorem ends_closed {after : List Char} (hafter : Blanks after) {c : Char} (hc : c ∈ [',', ']', '\x7d'])
    (rest : List Char) : Ends (after ++ c :: rest) := by
  cases after with
  | nil =>
    intro d hd
    cases hd
    exact .inr hc
  | cons d after =>
    intro e he
    cases he
    exact .inl (hafter d List.mem_cons_self)

/-! Whole values; the fuel exceeds the characters that are looked at. -/

mutual

theorem value?_of_spells {value : Json} {code : List Char} (hcode : Spells value code) {fuel : Nat}
    {rest : List Char} (hfuel : code.length < fuel) (hends : Ends rest) :
    value? fuel (code ++ rest) = some (value, rest) := by
  obtain ⟨fuel, rfl⟩ := Nat.exists_eq_add_one_of_ne_zero (Nat.ne_zero_of_lt hfuel)
  cases hcode with
  | null => rfl
  | bool value => cases value <;> rfl
  | int hint =>
    cases hint with
    | natural hdigits =>
      obtain ⟨d, tail, rfl, hd, -⟩ := hdigits.start
      rw [List.cons_append, value?_digit hd]
      exact number?_of_spellsNat hends hdigits false
    | negative hdigits =>
      obtain ⟨d, tail, rfl, hd, -⟩ := hdigits.start
      rw [List.cons_append, List.cons_append, value?_minus hd]
      exact number?_of_spellsNat hends hdigits true
  | text htext =>
    rw [List.append_assoc, List.cons_append, List.singleton_append, value?_quote,
      literalTail?_of_spellsChars _ htext, Option.map_some]
    dsimp only
    rw [String.ofList_toList]
  | emptyList hgap =>
    rw [List.append_assoc, List.cons_append, List.singleton_append, value?_bracket,
      dropWhile_blanks_cons hgap rfl]
    rfl
  | list hitems =>
    rw [List.append_assoc, List.cons_append, List.singleton_append, value?_bracket]
    simp only [List.length_append, List.length_cons, List.length_nil] at hfuel
    split
    . next hclosed => exact absurd hclosed (hitems.dropWhile_ne _ _)
    . rw [items?_of_spells hitems (by omega), Option.map_some]
  | emptyRecord hgap =>
    rw [List.append_assoc, List.cons_append, List.singleton_append, value?_brace,
      dropWhile_blanks_cons hgap rfl]
    rfl
  | record hmembers =>
    rw [List.append_assoc, List.cons_append, List.singleton_append, value?_brace]
    simp only [List.length_append, List.length_cons, List.length_nil] at hfuel
    split
    . next hclosed => exact absurd hclosed (hmembers.dropWhile_ne _ _)
    . rw [members?_of_spells hmembers (by omega), Option.map_some]

theorem items?_of_spells {items : List Json} {code : List Char} (hcode : SpellsItems items code) {fuel : Nat}
    {rest : List Char} (hfuel : code.length + 1 < fuel) :
    items? fuel (code ++ ']' :: rest) = some (items, rest) := by
  obtain ⟨fuel, rfl⟩ := Nat.exists_eq_add_one_of_ne_zero (Nat.ne_zero_of_lt hfuel)
  cases hcode with
  | @last item before code after hbefore hitem hafter =>
    simp only [List.length_append] at hfuel
    have hvalue : value? fuel (before ++ (code ++ (after ++ ']' :: rest)))
        = some (item, after ++ ']' :: rest) := by
      rw [value?_blanks hbefore]
      exact value?_of_spells hitem (by omega) (ends_closed hafter (by decide) rest)
    simp only [List.append_assoc]
    exact items?_last hvalue (dropWhile_blanks_cons hafter rfl rest)
  | @cons item items before code after later hbefore hitem hafter hlater =>
    simp only [List.length_append, List.length_cons] at hfuel
    have hvalue : value? fuel (before ++ (code ++ (after ++ ',' :: (later ++ ']' :: rest))))
        = some (item, after ++ ',' :: (later ++ ']' :: rest)) := by
      rw [value?_blanks hbefore]
      exact value?_of_spells hitem (by omega) (ends_closed hafter (by decide) _)
    simp only [List.append_assoc, List.cons_append]
    rw [items?_cons hvalue (dropWhile_blanks_cons hafter rfl _), items?_of_spells hlater (by omega)]
    rfl

theorem members?_of_spellsMember {member : String × Json} {code : List Char}
    (hcode : SpellsMember member code) {fuel : Nat} (hfuel : code.length ≤ fuel) (rest : List Char) :
    members? (fuel + 1) (code ++ '\x7d' :: rest) = some ([member], rest) ∧
    members? (fuel + 1) (code ++ ',' :: rest)
      = (members? fuel rest).map fun (members, rest) => (member :: members, rest) := by
  cases hcode with
  | @mk name value before quoted gap gap' code after hbefore hname hgap hgap' hcode hafter =>
    simp only [List.length_append, List.length_cons] at hfuel
    have hvalue : ∀ c ∈ [',', ']', '\x7d'],
        value? fuel (gap' ++ (code ++ (after ++ c :: rest))) = some (value, after ++ c :: rest) := by
      intro c hc
      rw [value?_blanks hgap']
      exact value?_of_spells hcode (by omega) (ends_closed hafter hc rest)
    simp only [List.append_assoc, List.cons_append]
    exact ⟨members?_last hbefore hname hgap (hvalue _ (by decide)) (dropWhile_blanks_cons hafter rfl rest),
      members?_cons hbefore hname hgap (hvalue _ (by decide)) (dropWhile_blanks_cons hafter rfl rest)⟩

theorem members?_of_spells {members : List (String × Json)} {code : List Char}
    (hcode : SpellsMembers members code) {fuel : Nat} {rest : List Char} (hfuel : code.length + 1 < fuel) :
    members? fuel (code ++ '\x7d' :: rest) = some (members, rest) := by
  obtain ⟨fuel, rfl⟩ := Nat.exists_eq_add_one_of_ne_zero (Nat.ne_zero_of_lt hfuel)
  cases hcode with
  | last hmember => exact (members?_of_spellsMember hmember (by omega) rest).left
  | @cons member members code later hmember hlater =>
    simp only [List.length_append, List.length_cons] at hfuel
    have hlater' : members? fuel (later ++ '\x7d' :: rest) = some (members, rest) :=
      members?_of_spells hlater (by omega)
    rw [List.append_assoc, List.cons_append, (members?_of_spellsMember hmember (by omega) _).right, hlater',
      Option.map_some]

end

theorem parse?_of_isTextOf {value : Json} {text : String} (htext : IsTextOf value text) :
    parse? text = some value := by
  obtain ⟨before, code, after, hbefore, hcode, hafter, heq⟩ := htext
  have hends : Ends after := by
    intro c hc
    exact .inl (hafter c (List.mem_of_mem_head? hc))
  have hread : value? (2 * text.toList.length + 2) text.toList = some (value, after) := by
    rw [heq, List.append_assoc, value?_blanks hbefore]
    apply value?_of_spells hcode _ hends
    simp only [List.length_append]
    omega
  have hrest : after.all isSpace = true := List.all_eq_true.mpr hafter
  unfold parse?
  rw [hread]
  simp only [hrest, if_true]

end TableGraph.Json
