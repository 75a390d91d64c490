import TableGraph.Json.Parser

/-!
The grammar of JSON texts: how a value may be spelled, with blanks wherever they may stand. Of the numbers it
has the integers.
-/

namespace TableGraph.Json

def Blanks (cs : List Char) : Prop :=
  ∀ c ∈ cs, isSpace c = true

instance (cs : List Char) : Decidable (Blanks cs) :=
  List.decidableBAll _ _

theorem blanks_nil : Blanks [] :=
  nofun

theorem Blanks.append {first second : List Char} (hfirst : Blanks first) (hsecond : Blanks second) :
    Blanks (first ++ second) :=
  List.forall_mem_append.mpr ⟨hfirst, hsecond⟩

inductive SpellsChar (c : Char) : List Char → Prop where
  | plain (hquote : c ≠ '"') (hescape : c ≠ '\\') (hcontrol : 0x20 ≤ c.toNat) : SpellsChar c [c]
  | escape {letter : Char} (hletter : unescape? letter = some c) : SpellsChar c ['\\', letter]
  | unit {a b d e : Char} (hunit : unit? a b d e = some c.toNat) :
      SpellsChar c ['\\', 'u', a, b, d, e]
  | pair {a b d e a' b' d' e' : Char} {high low : Nat} (hhigh : unit? a b d e = some high)
      (hhigh' : isHighUnit high = true) (hlow : unit? a' b' d' e' = some low)
      (hlow' : isLowUnit low = true)
      (hcode : c.toNat = 0x10000 + (high - 0xD800) * 0x400 + (low - 0xDC00)) :
      SpellsChar c (['\\', 'u', a, b, d, e] ++ ['\\', 'u', a', b', d', e'])

inductive SpellsChars : List Char → List Char → Prop where
  | nil : SpellsChars [] []
  | cons {c : Char} {cs code codes : List Char} (hc : SpellsChar c code) (hcs : SpellsChars cs codes) :
      SpellsChars (c :: cs) (code ++ codes)

structure SpellsNat (n : Nat) (digits : List Char) : Prop where
  nonempty : digits ≠ []
  digit : ∀ d ∈ digits, d.isDigit = true
  leading : digits.head? = some '0' → digits = ['0']
  value : Nat.ofDigitChars 10 digits 0 = n

inductive SpellsInt : Int → List Char → Prop where
  | natural {n : Nat} {digits : List Char} (hdigits : SpellsNat n digits) : SpellsInt n digits
  | negative {n : Nat} {digits : List Char} (hdigits : SpellsNat n digits) :
      SpellsInt (-n) ('-' :: digits)

mutual

inductive Spells : Json → List Char → Prop where
  | null : Spells .null ['n', 'u', 'l', 'l']
  | bool (value : Bool) :
      Spells (.bool value) (if value then ['t', 'r', 'u', 'e'] else ['f', 'a', 'l', 's', 'e'])
  | int {n : Int} {code : List Char} (hcode : SpellsInt n code) : Spells (.int n) code
  | text {value : String} {code : List Char} (hcode : SpellsChars value.toList code) :
      Spells (.text value) ('"' :: code ++ ['"'])
  | emptyList {gap : List Char} (hgap : Blanks gap) : Spells (.list []) ('[' :: gap ++ [']'])
  | list {items : List Json} {code : List Char} (hcode : SpellsItems items code) :
      Spells (.list items) ('[' :: code ++ [']'])
  | emptyRecord {gap : List Char} (hgap : Blanks gap) : Spells (.record []) ('\x7b' :: gap ++ ['\x7d'])
  | record {members : List (String × Json)} {code : List Char} (hcode : SpellsMembers members code) :
      Spells (.record members) ('\x7b' :: code ++ ['\x7d'])

inductive SpellsItems : List Json → List Char → Prop where
  | last {item : Json} {before code after : List Char} (hbefore : Blanks before)
      (hcode : Spells item code) (hafter : Blanks after) : SpellsItems [item] (before ++ code ++ after)
  | cons {item : Json} {items : List Json} {before code after rest : List Char} (hbefore : Blanks before)
      (hcode : Spells item code) (hafter : Blanks after) (hrest : SpellsItems items rest) :
      SpellsItems (item :: items) (before ++ code ++ after ++ ',' :: rest)

inductive SpellsMember : String × Json → List Char → Prop where
  | mk {name : String} {value : Json} {before quoted gap gap' code after : List Char}
      (hbefore : Blanks before) (hname : SpellsChars name.toList quoted) (hgap : Blanks gap)
      (hgap' : Blanks gap') (hcode : Spells value code) (hafter : Blanks after) :
      SpellsMember (name, value) (before ++ '"' :: quoted ++ '"' :: gap ++ ':' :: gap' ++ code ++ after)

inductive SpellsMembers : List (String × Json) → List Char → Prop where
  | last {member : String × Json} {code : List Char} (hcode : SpellsMember member code) :
      SpellsMembers [member] code
  | cons {member : String × Json} {members : List (String × Json)} {code rest : List Char}
      (hcode : SpellsMember member code) (hrest : SpellsMembers members rest) :
      SpellsMembers (member :: members) (code ++ ',' :: rest)

end

def IsTextOf (value : Json) (text : String) : Prop :=
  ∃ before code after, Blanks before ∧ Spells value code ∧ Blanks after ∧
    text.toList = before ++ code ++ after

end TableGraph.Json
