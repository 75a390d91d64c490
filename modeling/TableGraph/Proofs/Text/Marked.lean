import TableGraph.Name

/-!
Names behind a mark in a text: references behind a dollar sign, placeholders behind a colon. A name goes as
far as its characters are those of names.
-/

namespace TableGraph.Text

inductive Piece where
  | plain (c : Char)
  | marked (name : List Char)
  deriving DecidableEq, Repr

/-- The pieces of a text; behind a mark, with what has been read of the name. -/
def pieces (mark : Char) : Option (List Char) → List Char → List Piece
  | none, [] => []
  | some name, [] => [.marked name]
  | none, c :: rest =>
    if c == mark then pieces mark (some []) rest else .plain c :: pieces mark none rest
  | some name, c :: rest =>
    if isNameChar c then
      pieces mark (some (name ++ [c])) rest
    else
      .marked name :: (if c == mark then pieces mark (some []) rest else .plain c :: pieces mark none rest)

def EndsName (rest : List Char) : Prop :=
  rest.head?.all (!isNameChar ·) = true

instance (rest : List Char) : Decidable (EndsName rest) :=
  inferInstanceAs (Decidable (_ = true))

theorem endsName_cons {c : Char} (hc : isNameChar c = false) (rest : List Char) : EndsName (c :: rest) := by
  simp [EndsName, hc]

section Pieces

variable {mark : Char}

theorem pieces_plain {cs : List Char} (hcs : mark ∉ cs) (rest : List Char) :
    pieces mark none (cs ++ rest) = cs.map .plain ++ pieces mark none rest := by
  induction cs with
  | nil => rfl
  | cons c cs ih =>
    rw [List.mem_cons, not_or] at hcs
    rw [List.cons_append, pieces, if_neg, ih hcs.right]
    . rfl
    . simpa using Ne.symm hcs.left

theorem pieces_pending {read name rest : List Char} (hname : ∀ c ∈ name, isNameChar c = true)
    (hrest : EndsName rest) :
    pieces mark (some read) (name ++ rest) = .marked (read ++ name) :: pieces mark none rest := by
  induction name generalizing read with
  | nil =>
    cases rest with
    | nil => simp [pieces]
    | cons c rest =>
      have hc : isNameChar c = false := by simpa [EndsName] using hrest
      rw [List.nil_append, List.append_nil, pieces, pieces, hc]
      rfl
  | cons c name ih =>
    rw [List.forall_mem_cons] at hname
    rw [List.cons_append, pieces, if_pos hname.left, ih hname.right, List.append_assoc]
    rfl

theorem pieces_marked {name rest : List Char} (hname : ∀ c ∈ name, isNameChar c = true)
    (hrest : EndsName rest) :
    pieces mark none (mark :: (name ++ rest)) = .marked name :: pieces mark none rest := by
  rw [pieces, if_pos (beq_self_eq_true mark), pieces_pending hname hrest]
  rfl

end Pieces

end TableGraph.Text
