/-!
Control sequences of terminals: an escape character and a bracket, parameters from `0` to `?`, then
characters from the space to `/`, and one final character from `@` to `~`.
-/

namespace TableGraph.Text

def afterControlSequence? (cs : List Char) : Option (List Char) :=
  let cs := cs.dropWhile fun c => '0' ≤ c && c ≤ '?'
  let cs := cs.dropWhile fun c => ' ' ≤ c && c ≤ '/'
  match cs with
  | c :: rest => if '@' ≤ c && c ≤ '~' then some rest else none
  | [] => none

theorem length_dropWhile_le (p : Char → Bool) (cs : List Char) :
    (cs.dropWhile p).length ≤ cs.length :=
  (List.dropWhile_suffix p).length_le

theorem length_afterControlSequence?_lt {cs rest : List Char}
    (h : afterControlSequence? cs = some rest) : rest.length < cs.length := by
  unfold afterControlSequence? at h
  dsimp only at h
  split at h
  next c tail hcs =>
    split at h
    next =>
      obtain rfl := Option.some.inj h
      have hinner := length_dropWhile_le (fun c => '0' ≤ c && c ≤ '?') cs
      have houter := length_dropWhile_le (fun c => ' ' ≤ c && c ≤ '/')
        (cs.dropWhile fun c => '0' ≤ c && c ≤ '?')
      rw [hcs] at houter
      simp only [List.length_cons] at houter
      omega
    next => simp at h
  next => simp at h

/-- A text without its control sequences; an escape character that starts none stays. -/
def withoutControlSequences : List Char → List Char
  | '\x1b' :: '[' :: rest =>
    match _h : afterControlSequence? rest with
    | some after => withoutControlSequences after
    | none => '\x1b' :: withoutControlSequences ('[' :: rest)
  | c :: rest => c :: withoutControlSequences rest
  | [] => []
termination_by cs => cs.length
decreasing_by
  · have := length_afterControlSequence?_lt _h
    simp only [List.length_cons]
    omega
  all_goals simp

end TableGraph.Text
