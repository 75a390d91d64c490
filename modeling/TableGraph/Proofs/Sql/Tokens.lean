import TableGraph.Proofs.Sql
import TableGraph.Proofs.Text.Layout

/-!
Statements as a database reads them: words and signs, names in backticks, in which a pair of backticks stands
for one, and placeholders. A text is read in one way at most. The statements of a table are read as their own
words around the names that they are made for, whatever stands in the name of the table.
-/

namespace TableGraph.Sql

open Text

def isWordChar (c : Char) : Bool :=
  isNameChar c || c == '$' || 0x80 ≤ c.toNat

def signs : List Char :=
  ['*', '=', ',', ';', '.', '(', ')', '<', '>', '+', '-', '/', '%', '!', '&', '|', '^', '~', '?', '@']

inductive Quotes : List Char → List Char → Prop where
  | nil : Quotes [] []
  | pair {name code : List Char} (hcode : Quotes name code) :
      Quotes ('\x60' :: name) ('\x60' :: '\x60' :: code)
  | char {c : Char} {name code : List Char} (hc : c ≠ '\x60') (hcode : Quotes name code) :
      Quotes (c :: name) (c :: code)

inductive Token where
  | word (letters : String)
  | sign (c : Char)
  | identifier (name : String)
  | placeholder (name : String)
  deriving DecidableEq, Repr

/-- How a token is written in front of the rest of a text. It goes as far as it can. -/
inductive Token.Spells (rest : List Char) : Token → List Char → Prop where
  | word {letters : String} {c : Char} {cs : List Char} (hletters : letters.toList = c :: cs)
      (hchars : ∀ d ∈ c :: cs, isWordChar d = true) (hrest : Ends isWordChar rest) :
      Spells rest (.word letters) (c :: cs)
  | sign {c : Char} (hc : c ∈ signs) : Spells rest (.sign c) [c]
  | identifier {name : String} {code : List Char} (hcode : Quotes name.toList code)
      (hrest : Ends (· == '\x60') rest) : Spells rest (.identifier name) ('\x60' :: (code ++ ['\x60']))
  | placeholder {name : String} (hname : IsName name) (hrest : Ends isNameChar rest) :
      Spells rest (.placeholder name) (':' :: name.toList)

inductive Reads : List Char → List Token → Prop where
  | nil : Reads [] []
  | blank {rest : List Char} {tokens : List Token} (hrest : Reads rest tokens) : Reads (' ' :: rest) tokens
  | token {token : Token} {code rest : List Char} {tokens : List Token} (hcode : token.Spells rest code)
      (hrest : Reads rest tokens) : Reads (code ++ rest) (token :: tokens)

/-! A text is read in one way at most. -/

section Unique

variable {name other code otherCode rest otherRest : List Char}

theorem Quotes.unique (hcode : Quotes name code) (hother : Quotes other otherCode)
    (hrest : Ends (· == '\x60') rest) (hotherRest : Ends (· == '\x60') otherRest)
    (heq : code ++ '\x60' :: rest = otherCode ++ '\x60' :: otherRest) : name = other ∧ rest = otherRest := by
  -- a closing backtick and the first one of a pair are told apart by what follows
  induction hcode generalizing other otherCode with
  | nil =>
    cases hother with
    | nil => exact ⟨rfl, (List.cons.inj heq).right⟩
    | pair =>
      obtain rfl := (List.cons.inj heq).right
      cases hrest
    | char hc => exact absurd (List.cons.inj heq).left.symm hc
  | pair _ ih =>
    cases hother with
    | nil =>
      obtain rfl := (List.cons.inj heq).right
      cases hotherRest
    | pair hother =>
      obtain ⟨rfl, hsame⟩ := ih hother (List.cons.inj (List.cons.inj heq).right).right
      exact ⟨rfl, hsame⟩
    | char hc => exact absurd (List.cons.inj heq).left.symm hc
  | char hc _ ih =>
    cases hother with
    | nil => exact absurd (List.cons.inj heq).left hc
    | pair => exact absurd (List.cons.inj heq).left hc
    | char _ hother =>
      obtain ⟨rfl, htail⟩ := List.cons.inj heq
      obtain ⟨rfl, hsame⟩ := ih hother htail
      exact ⟨rfl, hsame⟩

inductive Token.Kind where
  | word
  | sign
  | identifier
  | placeholder
  deriving DecidableEq

def Token.kind : Token → Kind
  | .word _ => .word
  | .sign _ => .sign
  | .identifier _ => .identifier
  | .placeholder _ => .placeholder

def Token.kindOf (c : Char) : Kind :=
  if isWordChar c then .word
  else if c == '\x60' then .identifier
  else if c == ':' then .placeholder
  else .sign

theorem Token.Spells.start {token : Token} (hcode : token.Spells rest code) :
    ∃ c tail, code = c :: tail ∧ c ≠ ' ' ∧ Token.kindOf c = token.kind := by
  cases hcode with
  | word _ hchars =>
    have hc := hchars _ List.mem_cons_self
    refine ⟨_, _, rfl, ?_, if_pos hc⟩
    rintro rfl
    cases hc
  | @sign c hc =>
    have hsigns : signs.all (fun c => c ≠ ' ' ∧ Token.kindOf c = .sign) = true := by decide
    exact ⟨c, [], rfl, of_decide_eq_true (List.all_eq_true.mp hsigns c hc)⟩
  | identifier => exact ⟨_, _, rfl, by decide, rfl⟩
  | placeholder => exact ⟨_, _, rfl, by decide, rfl⟩

theorem Token.Spells.unique {token otherToken : Token} (hcode : token.Spells rest code)
    (hother : otherToken.Spells otherRest otherCode) (heq : code ++ rest = otherCode ++ otherRest) :
    token = otherToken ∧ rest = otherRest := by
  have hkind : token.kind = otherToken.kind := by
    obtain ⟨c, tail, rfl, -, hc⟩ := hcode.start
    obtain ⟨d, otherTail, rfl, -, hd⟩ := hother.start
    rw [← hc, ← hd, (List.cons.inj heq).left]
  cases hcode with
  | word hletters hchars hrest =>
    cases hother with
    | word hotherLetters hotherChars hotherRest =>
      obtain ⟨hsame, htail⟩ := append_inj_of_ends hchars hotherChars hrest hotherRest heq
      rw [← hletters, ← hotherLetters, String.toList_inj] at hsame
      exact ⟨congrArg Token.word hsame, htail⟩
    | _ => cases hkind
  | sign =>
    cases hother with
    | sign =>
      obtain ⟨rfl, htail⟩ := List.cons.inj heq
      exact ⟨rfl, htail⟩
    | _ => cases hkind
  | identifier hcode hrest =>
    cases hother with
    | identifier hotherCode hotherRest =>
      have hquoted := (List.cons.inj heq).right
      simp only [List.append_eq, List.append_assoc] at hquoted
      obtain ⟨hsame, htail⟩ := hcode.unique hotherCode hrest hotherRest hquoted
      exact ⟨congrArg Token.identifier (String.toList_inj.mp hsame), htail⟩
    | _ => cases hkind
  | placeholder hname hrest =>
    cases hother with
    | placeholder hotherName hotherRest =>
      obtain ⟨hsame, htail⟩ := append_inj_of_ends (fun _ => hname.isNameChar)
        (fun _ => hotherName.isNameChar) hrest hotherRest (List.cons.inj heq).right
      exact ⟨congrArg Token.placeholder (String.toList_inj.mp hsame), htail⟩
    | _ => cases hkind

theorem Reads.unique {text : List Char} {tokens others : List Token} (htokens : Reads text tokens)
    (hothers : Reads text others) : tokens = others := by
  induction htokens generalizing others with
  | nil =>
    generalize htext : ([] : List Char) = text at hothers
    cases hothers with
    | nil => rfl
    | blank => cases htext
    | token hcode =>
      obtain ⟨c, tail, rfl, -⟩ := hcode.start
      cases htext
  | blank _ ih =>
    generalize htext : ' ' :: _ = text at hothers
    cases hothers with
    | nil => cases htext
    | blank hrest =>
      obtain rfl := (List.cons.inj htext).right
      exact ih hrest
    | token hcode =>
      obtain ⟨c, tail, rfl, hc, -⟩ := hcode.start
      exact absurd (List.cons.inj htext).left.symm hc
  | @token token code rest tokens hcode _ ih =>
    generalize htext : code ++ rest = text at hothers
    cases hothers with
    | nil =>
      obtain ⟨c, tail, rfl, -⟩ := hcode.start
      cases htext
    | blank =>
      obtain ⟨c, tail, rfl, hc, -⟩ := hcode.start
      exact absurd (List.cons.inj htext).left hc
    | token hother hrest =>
      obtain ⟨rfl, rfl⟩ := hcode.unique hother htext
      rw [ih hrest]

end Unique

/-- A text is read as these tokens and in no other way. -/
def ReadsAs (text : String) (tokens : List Token) : Prop :=
  ∀ others, Reads text.toList others ↔ others = tokens

theorem Reads.readsAs {text : String} {tokens : List Token} (htext : Reads text.toList tokens) :
    ReadsAs text tokens := by
  intro others
  constructor
  . exact fun hothers => hothers.unique htext
  . rintro rfl
    exact htext

/-! Tokens that are written with a blank between them are read as they were. -/

theorem quotes_identifierChar (name : List Char) : Quotes name (name.flatMap identifierChar) := by
  induction name with
  | nil => exact .nil
  | cons c name ih =>
    rw [List.flatMap_cons, identifierChar]
    split
    . next hc =>
      rw [eq_of_beq hc]
      exact .pair ih
    . next hc => exact .char (by simpa using hc) ih

namespace Token

def text : Token → String
  | .word letters => letters
  | .sign c => String.singleton c
  | .identifier name => Sql.identifier name
  | .placeholder name => Sql.placeholder name

def IsProper : Token → Prop
  | .word letters => letters ≠ "" ∧ ∀ c ∈ letters.toList, isWordChar c = true
  | .sign c => c ∈ signs
  | .identifier _ => True
  | .placeholder name => IsName name

instance : DecidablePred IsProper
  | .word letters => @instDecidableAnd _ _ inferInstance (List.decidableBAll _ letters.toList)
  | .sign c => inferInstanceAs (Decidable (c ∈ signs))
  | .identifier _ => inferInstanceAs (Decidable True)
  | .placeholder name => inferInstanceAs (Decidable (IsName name))

def Stops (rest : List Char) : Prop :=
  rest.head?.all (· == ' ') = true

theorem Stops.ends {rest : List Char} (hrest : Stops rest) {p : Char → Bool} (hp : p ' ' = false) :
    Ends p rest := by
  cases rest with
  | nil => rfl
  | cons c rest =>
    obtain rfl : c = ' ' := by simpa [Stops] using hrest
    exact ends_cons hp rest

theorem IsProper.spells {token : Token} (htoken : token.IsProper) {rest : List Char} (hrest : Stops rest) :
    token.Spells rest token.text.toList := by
  cases token with
  | word letters =>
    obtain ⟨hne, hchars⟩ := htoken
    obtain ⟨c, cs, hcs⟩ := List.exists_cons_of_ne_nil (String.toList_eq_nil_iff.not.mpr hne)
    rw [text, hcs]
    rw [hcs] at hchars
    exact .word hcs hchars (hrest.ends (by decide))
  | sign c =>
    rw [text, String.toList_singleton]
    exact .sign htoken
  | identifier name =>
    rw [text, Sql.identifier, String.toList_ofList]
    exact .identifier (quotes_identifierChar name.toList) (hrest.ends (by decide))
  | placeholder name =>
    rw [text, Sql.placeholder, String.toList_append]
    exact .placeholder htoken (hrest.ends (by decide))

end Token

theorem reads_intercalate {tokens : List Token} (htokens : ∀ token ∈ tokens, token.IsProper) :
    Reads (" ".intercalate (tokens.map (·.text))).toList tokens := by
  induction tokens with
  | nil => exact .nil
  | cons token tokens ih =>
    rw [List.forall_mem_cons] at htokens
    cases tokens with
    | nil =>
      rw [List.map_singleton, String.intercalate_singleton, ← List.append_nil token.text.toList]
      exact .token (htokens.left.spells rfl) .nil
    | cons next tokens =>
      rw [List.map_cons, List.map_cons, String.intercalate_cons_cons, String.toList_append,
        String.toList_append, List.append_assoc]
      exact .token (htokens.left.spells rfl) (ih htokens.right).blank

theorem readsAs_intercalate {text : String} {tokens : List Token} (htokens : ∀ token ∈ tokens, token.IsProper)
    (htext : text = " ".intercalate (tokens.map (·.text))) : ReadsAs text tokens := by
  rw [htext]
  exact (reads_intercalate htokens).readsAs

/-! The statements of a table, whatever its name is. -/

section Statements

variable (table : String) {key : String} (hkey : IsName key)

theorem readsAs_selectAll :
    ReadsAs (selectAll table) [.word "SELECT", .sign '*', .word "FROM", .identifier table] := by
  apply readsAs_intercalate
  . simp only [List.forall_mem_cons, List.not_mem_nil, false_imp_iff, implies_true, and_true]
    exact ⟨by decide, by decide, by decide, trivial⟩
  . rw [selectAll_eq_append, ← String.toList_inj]
    simp [Token.text]

include hkey in
theorem readsAs_selectByKey :
    ReadsAs (selectByKey table key)
      [.word "SELECT", .sign '*', .word "FROM", .identifier table,
        .word "WHERE", .identifier key, .sign '=', .placeholder key] := by
  apply readsAs_intercalate
  . simp only [List.forall_mem_cons, List.not_mem_nil, false_imp_iff, implies_true, and_true]
    exact ⟨by decide, by decide, by decide, trivial, by decide, trivial, by decide, hkey⟩
  . rw [selectByKey_eq_append hkey, ← String.toList_inj]
    simp [Token.text, assignment]

include hkey in
theorem readsAs_deleteByKey :
    ReadsAs (deleteByKey table key)
      [.word "DELETE", .word "FROM", .identifier table,
        .word "WHERE", .identifier key, .sign '=', .placeholder key] := by
  apply readsAs_intercalate
  . simp only [List.forall_mem_cons, List.not_mem_nil, false_imp_iff, implies_true, and_true]
    exact ⟨by decide, by decide, trivial, by decide, trivial, by decide, hkey⟩
  . rw [deleteByKey_eq_append hkey, ← String.toList_inj]
    simp [Token.text, assignment]

include hkey in
theorem readsAs_keyClause :
    ReadsAs (keyClause key) [.word "WHERE", .identifier key, .sign '=', .placeholder key] := by
  apply readsAs_intercalate
  . simp only [List.forall_mem_cons, List.not_mem_nil, false_imp_iff, implies_true, and_true]
    exact ⟨by decide, trivial, by decide, hkey⟩
  . rw [keyClause_eq_append hkey, ← String.toList_inj]
    simp [Token.text, assignment]

theorem readsAs_insertInto :
    ReadsAs (insertInto table) [.word "INSERT", .word "INTO", .identifier table] := by
  apply readsAs_intercalate
  . simp only [List.forall_mem_cons, List.not_mem_nil, false_imp_iff, implies_true, and_true]
    exact ⟨by decide, by decide, trivial⟩
  . rw [insertInto, ← String.toList_inj]
    simp [Token.text]

theorem readsAs_updateSet : ReadsAs (updateSet table) [.word "UPDATE", .identifier table, .word "SET"] := by
  apply readsAs_intercalate
  . simp only [List.forall_mem_cons, List.not_mem_nil, false_imp_iff, implies_true, and_true]
    exact ⟨by decide, trivial, by decide⟩
  . rw [updateSet, ← String.toList_inj]
    simp [Token.text]

include hkey in
theorem readsAs_assignment : ReadsAs (assignment key) [.identifier key, .sign '=', .placeholder key] := by
  apply readsAs_intercalate
  . simp only [List.forall_mem_cons, List.not_mem_nil, false_imp_iff, implies_true, and_true]
    exact ⟨trivial, by decide, hkey⟩
  . rw [assignment, ← String.toList_inj]
    simp [Token.text]

end Statements

/--
The statements of a table with any name are read, each in one way only, as their own words with the names of the
table and of the key, as they are, and the placeholder of the key. In conditions it is the same as elsewhere.
-/
theorem readsAs_statements (table : String) {key column : String} (hkey : IsName key) (hcolumn : IsName column) :
    ReadsAs (selectAll table) [.word "SELECT", .sign '*', .word "FROM", .identifier table] ∧
    ReadsAs (selectByKey table key)
      [.word "SELECT", .sign '*', .word "FROM", .identifier table,
        .word "WHERE", .identifier key, .sign '=', .placeholder key] ∧
    ReadsAs (deleteByKey table key)
      [.word "DELETE", .word "FROM", .identifier table,
        .word "WHERE", .identifier key, .sign '=', .placeholder key] ∧
    ReadsAs (keyClause key) [.word "WHERE", .identifier key, .sign '=', .placeholder key] ∧
    ReadsAs (insertInto table) [.word "INSERT", .word "INTO", .identifier table] ∧
    ReadsAs (updateSet table) [.word "UPDATE", .identifier table, .word "SET"] ∧
    ReadsAs (assignment column) [.identifier column, .sign '=', .placeholder column] ∧
    marker key = placeholder key ∧ keyClause key = "WHERE " ++ assignment key :=
  ⟨readsAs_selectAll table, readsAs_selectByKey table hkey, readsAs_deleteByKey table hkey,
    readsAs_keyClause hkey, readsAs_insertInto table, readsAs_updateSet table, readsAs_assignment hcolumn,
    marker_eq hkey, keyClause_eq_append hkey⟩

theorem readsAs_statements_backtick :
    IsName "id" ∧
    deleteByKey "a\x60; --\x60" "id" = "DELETE FROM \x60a\x60\x60; --\x60\x60\x60 WHERE \x60id\x60 = :id" ∧
    ReadsAs "DELETE FROM \x60a\x60\x60; --\x60\x60\x60 WHERE \x60id\x60 = :id"
      [.word "DELETE", .word "FROM", .identifier "a\x60; --\x60",
        .word "WHERE", .identifier "id", .sign '=', .placeholder "id"] := by
  have hid : IsName "id" := by decide
  have htext : deleteByKey "a\x60; --\x60" "id"
      = "DELETE FROM \x60a\x60\x60; --\x60\x60\x60 WHERE \x60id\x60 = :id" := by decide
  obtain ⟨-, -, hdelete, -⟩ := readsAs_statements "a\x60; --\x60" hid hid
  rw [htext] at hdelete
  exact ⟨hid, htext, hdelete⟩

end TableGraph.Sql
