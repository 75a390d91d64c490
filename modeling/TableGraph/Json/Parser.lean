import TableGraph.Json.Basic
import TableGraph.Text.Hex

/-!
Reading JSON texts, where the words `Infinity`, `-Infinity` and `NaN` are numbers too. Every step returns
the value it read and the rest of the text, or nothing if the text does not start with such a value.
-/

namespace TableGraph.Json

def isSpace (c : Char) : Bool :=
  c == ' ' || c == '\n' || c == '\r' || c == '\t'

def unescape? : Char → Option Char
  | '"' => some '"'
  | '\\' => some '\\'
  | '/' => some '/'
  | 'b' => some '\x08'
  | 'f' => some '\x0c'
  | 'n' => some '\n'
  | 'r' => some '\r'
  | 't' => some '\t'
  | _ => none

def unit? (a b c d : Char) : Option Nat := do
  let a ← Text.hexValue? a
  let b ← Text.hexValue? b
  let c ← Text.hexValue? c
  let d ← Text.hexValue? d
  return ((a * 16 + b) * 16 + c) * 16 + d

def isHighUnit (unit : Nat) : Bool :=
  0xD800 ≤ unit && unit ≤ 0xDBFF

def isLowUnit (unit : Nat) : Bool :=
  0xDC00 ≤ unit && unit ≤ 0xDFFF

/--
The rest of a literal after its opening quote. `high` is the first unit of a pair whose second one has to
follow; a unit of a pair that stands alone is refused.
-/
def literalTail? (high : Option Nat) : List Char → Option (List Char × List Char)
  | '\\' :: 'u' :: a :: b :: c :: d :: rest =>
    match unit? a b c d, high with
    | some unit, none =>
      if isHighUnit unit then
        literalTail? (some unit) rest
      else if isLowUnit unit then
        none
      else
        (literalTail? none rest).map fun (cs, rest) => (Char.ofNat unit :: cs, rest)
    | some unit, some first =>
      if isLowUnit unit then
        let code := 0x10000 + (first - 0xD800) * 0x400 + (unit - 0xDC00)
        (literalTail? none rest).map fun (cs, rest) => (Char.ofNat code :: cs, rest)
      else
        none
    | none, _ => none
  | '"' :: rest => if high.isSome then none else some ([], rest)
  | '\\' :: e :: rest =>
    match high, unescape? e with
    | none, some c => (literalTail? none rest).map fun (cs, rest) => (c :: cs, rest)
    | _, _ => none
  | c :: rest =>
    if high.isSome || c.toNat < 0x20 then
      none
    else
      (literalTail? none rest).map fun (cs, rest) => (c :: cs, rest)
  | [] => none

def digitsValue (digits : List Char) : Nat :=
  digits.foldl (fun value d => value * 10 + (d.toNat - '0'.toNat)) 0

def digits? (cs : List Char) : Option (List Char × List Char) :=
  match cs.takeWhile Char.isDigit with
  | [] => none
  | digits => some (digits, cs.dropWhile Char.isDigit)

def fraction? : List Char → Option (List Char × List Char)
  | '.' :: rest => digits? rest
  | cs => some ([], cs)

def exponentTail? : List Char → Option (Int × List Char)
  | '-' :: rest => (digits? rest).map fun (digits, rest) => (-(digitsValue digits : Int), rest)
  | '+' :: rest => (digits? rest).map fun (digits, rest) => ((digitsValue digits : Int), rest)
  | cs => (digits? cs).map fun (digits, rest) => ((digitsValue digits : Int), rest)

def exponent? : List Char → Option (Option Int × List Char)
  | 'e' :: rest => (exponentTail? rest).map fun (e, rest) => (some e, rest)
  | 'E' :: rest => (exponentTail? rest).map fun (e, rest) => (some e, rest)
  | cs => some (none, cs)

def number? (negative : Bool) (cs : List Char) : Option (Json × List Char) := do
  let (whole, rest) ← digits? cs
  let (fraction, rest) ← fraction? rest
  let (exponent, rest) ← exponent? rest
  if fraction.isEmpty && exponent.isNone then
    let value : Int := digitsValue whole
    return (.int (if negative then -value else value), rest)
  else
    let value : Decimal :=
      ⟨negative, digitsValue (whole ++ fraction), exponent.getD 0 - fraction.length⟩
    return (.decimal (.ofDecimal value), rest)

def infinityTail : List Char := ['n', 'f', 'i', 'n', 'i', 't', 'y']

def word? : List Char → List Char → Option (List Char)
  | [], rest => some rest
  | w :: ws, c :: cs => if w == c then word? ws cs else none
  | _ :: _, [] => none

mutual

/-- A value at the start of a text; `fuel` bounds the number of characters looked at. -/
def value? (fuel : Nat) (cs : List Char) : Option (Json × List Char) :=
  match fuel with
  | 0 => none
  | fuel + 1 =>
    match cs.dropWhile isSpace with
    | '"' :: rest => (literalTail? none rest).map fun (cs, rest) => (.text (String.ofList cs), rest)
    | '[' :: rest =>
      match rest.dropWhile isSpace with
      | ']' :: rest => some (.list [], rest)
      | _ => (items? fuel rest).map fun (items, rest) => (.list items, rest)
    | '\x7b' :: rest =>
      match rest.dropWhile isSpace with
      | '\x7d' :: rest => some (.record [], rest)
      | _ => (members? fuel rest).map fun (members, rest) => (.record members, rest)
    | 't' :: rest => (word? ['r', 'u', 'e'] rest).map (.bool true, ·)
    | 'f' :: rest => (word? ['a', 'l', 's', 'e'] rest).map (.bool false, ·)
    | 'n' :: rest => (word? ['u', 'l', 'l'] rest).map (.null, ·)
    | 'N' :: rest => (word? ['a', 'N'] rest).map (.decimal .undefined, ·)
    | 'I' :: rest => (word? infinityTail rest).map (.decimal (.infinite false), ·)
    | '-' :: 'I' :: rest => (word? infinityTail rest).map (.decimal (.infinite true), ·)
    | '-' :: rest => number? true rest
    | rest => number? false rest

def items? (fuel : Nat) (cs : List Char) : Option (List Json × List Char) :=
  match fuel with
  | 0 => none
  | fuel + 1 =>
    match value? fuel cs with
    | none => none
    | some (item, rest) =>
      match rest.dropWhile isSpace with
      | ',' :: rest => (items? fuel rest).map fun (items, rest) => (item :: items, rest)
      | ']' :: rest => some ([item], rest)
      | _ => none

def members? (fuel : Nat) (cs : List Char) : Option (List (String × Json) × List Char) :=
  match fuel with
  | 0 => none
  | fuel + 1 =>
    match cs.dropWhile isSpace with
    | '"' :: rest =>
      match literalTail? none rest with
      | none => none
      | some (name, rest) =>
        match rest.dropWhile isSpace with
        | ':' :: rest =>
          match value? fuel rest with
          | none => none
          | some (value, rest) =>
            let member := (String.ofList name, value)
            match rest.dropWhile isSpace with
            | ',' :: rest => (members? fuel rest).map fun (members, rest) => (member :: members, rest)
            | '\x7d' :: rest => some ([member], rest)
            | _ => none
        | _ => none
    | _ => none

end

def parse? (s : String) : Option Json :=
  match value? (2 * s.toList.length + 2) s.toList with
  | some (value, rest) => if rest.all isSpace then some value else none
  | none => none

end TableGraph.Json
