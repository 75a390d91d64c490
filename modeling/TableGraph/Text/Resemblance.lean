import TableGraph.Text.Similarity

/-!
How much two words resemble each other: how many characters they share at nearly the same place, how many
of these come in the same order, and how far their beginnings are the same. Words are lists of any
characters.
-/

namespace TableGraph.Text

structure Share where
  part : Nat
  whole : Nat
  deriving DecidableEq, Repr

namespace Share

def none : Share := ⟨0, 1⟩

def isLess (a b : Share) : Bool :=
  a.part * b.whole < b.part * a.whole

def raise (a : Share) (tenths : Nat) : Share :=
  ⟨10 * a.part + tenths * (a.whole - a.part), 10 * a.whole⟩

end Share

variable {α : Type} [BEq α]

/-- Takes the first free entry that is `x`, among the `span` entries after the first `skip`. -/
def takeFree (x : α) : Nat → Nat → List (α × Bool) → Option (List (α × Bool))
  | _, _, [] => none
  | skip + 1, span, entry :: rest => (takeFree x skip span rest).map (entry :: ·)
  | 0, 0, _ :: _ => none
  | 0, span + 1, (y, taken) :: rest =>
    if !taken && y == x then some ((y, true) :: rest)
    else (takeFree x 0 span rest).map ((y, taken) :: ·)

/-- The shared entries of two words, each in its own order: an entry of the second word is shared with an
entry of the first that stands at most `reach` places from it. -/
def sharedEntries (reach : Nat) (first : List (α × Bool)) : Nat → List α → List α × List α
  | _, [] => ((first.filter (·.2)).map (·.1), [])
  | place, x :: rest =>
    match takeFree x (place - reach) (place + reach + 1 - (place - reach)) first with
    | some first =>
      let (as, bs) := sharedEntries reach first (place + 1) rest
      (as, x :: bs)
    | none => sharedEntries reach first (place + 1) rest

def differences : List α → List α → Nat
  | a :: as, b :: bs => differences as bs + if a == b then 0 else 1
  | _, _ => 0

/-- The average of three shares: of the first word and of the second, what is shared, and of what is
shared, what is in order. Two entries that changed places count as one out of order. -/
def sharedShare (first second : List α) : Share :=
  let p := first.length
  let t := second.length
  let reach := max p t / 2 - 1
  let (as, bs) := sharedEntries reach (first.map (·, false)) 0 second
  let m := as.length
  if m == 0 then Share.none
  else ⟨m * m * t + m * m * p + (m - differences as bs / 2) * p * t, 3 * p * t * m⟩

/-- How much two words resemble each other. If that is seven tenths without a look at their beginnings,
each of the first four characters that are the same counts for a tenth of what is missing. -/
def resemblance (first second : List α) : Share :=
  let share := sharedShare first second
  if share.isLess ⟨7, 10⟩ then share else share.raise (min 4 (commonLength first second))

example : resemblance "martha".toList "marhta".toList = ⟨6228, 6480⟩ := by decide
example : resemblance "abc".toList "xyz".toList = Share.none := by decide

end TableGraph.Text
