import Mathlib.Data.List.Infix
import TableGraph.FileTree

/-!
Where paths lead to: the places that a walk along a path comes through, and the paths that the file system
takes.
-/

namespace TableGraph
namespace FilePath

variable {path place other directory : FilePath} {name : String}

def Contains (place other : FilePath) : Prop :=
  place.root = other.root ∧ place.parts <+: other.parts

theorem Contains.trans {last : FilePath} (hfirst : place.Contains other) (hsecond : other.Contains last) :
    place.Contains last :=
  ⟨hfirst.left.trans hsecond.left, hfirst.right.trans hsecond.right⟩

theorem contains_child_iff :
    place.Contains (directory.child name) ↔ place = directory.child name ∨ place.Contains directory := by
  obtain ⟨root, parts⟩ := place
  obtain ⟨otherRoot, otherParts⟩ := directory
  simp only [Contains, child, List.prefix_concat_iff, FilePath.mk.injEq]
  rw [and_or_left]

theorem child_inj {first second : String} :
    path.child first = other.child second ↔ path = other ∧ first = second := by
  obtain ⟨root, parts⟩ := path
  obtain ⟨otherRoot, otherParts⟩ := other
  simp only [child, FilePath.mk.injEq, ← List.concat_eq_append, List.concat_inj]
  rw [and_assoc]

theorem isAbove_of_contains (hcontains : place.Contains other) (habove : other.isAbove = true) :
    place.isAbove = true := by
  unfold isAbove at *
  rw [List.all_eq_true] at *
  exact fun part hpart => habove part (hcontains.right.subset hpart)

theorem isAbove_start : path.start.isAbove = true := rfl

theorem isAbove_child : (place.child name).isAbove = true ↔ place.isAbove = true ∧ name = ".." := by
  simp [isAbove, child]

theorem step_cases (place : FilePath) (name : String) :
    place.step name = place.child name ∨ (place.step name).Contains place ∨
      (place.step name).isAbove = true := by
  unfold step
  split
  . exact .inr (.inl ⟨rfl, List.prefix_rfl⟩)
  . split
    . next habove =>
      right
      unfold parent
      split
      . next habove =>
        right
        split
        . exact isAbove_child.mpr ⟨habove, rfl⟩
        . exact habove
      . exact .inl ⟨rfl, List.dropLast_prefix _⟩
    . exact .inl rfl

/-- A name that leads from a directory to what is in it. -/
def IsProperName (name : String) : Prop :=
  name ≠ "." ∧ name ≠ ".."

theorem step_of_isProperName (hname : IsProperName name) : place.step name = place.child name := by
  unfold step
  rw [if_neg (by simpa using hname.left), if_neg (by simpa using hname.right)]

theorem resolve_child (path : FilePath) (name : String) : (path.child name).resolve = path.resolve.step name := by
  unfold resolve child start
  rw [List.foldl_append]
  rfl

theorem resolve_child_of_isProperName (hname : IsProperName name) :
    (path.child name).resolve = path.resolve.child name := by
  rw [resolve_child, step_of_isProperName hname]

/-- The places that a walk along a path comes through, from its start to its end. -/
def places (path : FilePath) : List FilePath :=
  path.parts.inits.map fun names => names.foldl step path.start

theorem mem_places :
    place ∈ path.places ↔ ∃ names, names <+: path.parts ∧ names.foldl step path.start = place := by
  unfold places
  simp only [List.mem_map, List.mem_inits]

theorem places_of_empty (root : String) : (⟨root, []⟩ : FilePath).places = [(⟨root, []⟩ : FilePath).start] := rfl

theorem mem_places_child :
    place ∈ (path.child name).places ↔ place ∈ path.places ∨ place = (path.child name).resolve := by
  simp only [mem_places, child, List.prefix_concat_iff, or_and_right, exists_or, exists_eq_left]
  rw [or_comm, eq_comm]
  rfl

theorem start_mem_places : path.start ∈ path.places :=
  mem_places.mpr ⟨[], List.nil_prefix, rfl⟩

theorem resolve_mem_places : path.resolve ∈ path.places :=
  mem_places.mpr ⟨path.parts, List.prefix_rfl, rfl⟩

/-- A path that is short enough for the file system, as are the names in it. -/
structure Fits (path : FilePath) : Prop where
  whole : path.toString.utf8ByteSize ≤ pathLimit
  names : ∀ name ∈ path.parts, name.utf8ByteSize ≤ nameLimit

instance (path : FilePath) : Decidable path.Fits :=
  decidable_of_iff
    (path.toString.utf8ByteSize ≤ pathLimit ∧ ∀ name ∈ path.parts, name.utf8ByteSize ≤ nameLimit)
    ⟨fun ⟨whole, names⟩ => ⟨whole, names⟩, fun ⟨whole, names⟩ => ⟨whole, names⟩⟩

theorem toString_child (path : FilePath) (name : String) :
    (path.child name).toString = path.root ++ "/".intercalate (path.parts ++ [name]) := by
  unfold toString child
  rw [if_neg (by simp)]

theorem Fits.of_child (hfits : (path.child name).Fits) : path.Fits where
  whole := by
    have hwhole := hfits.whole
    rw [toString_child, String.utf8ByteSize_append] at hwhole
    unfold toString
    split
    . decide
    . rw [String.utf8ByteSize_append]
      cases hparts : path.parts with
      | nil =>
        rw [String.intercalate_nil]
        exact Nat.le_trans (Nat.add_le_add_left (Nat.zero_le _) _) hwhole
      | cons first rest =>
        rw [hparts, String.intercalate_append_of_ne_nil (by simp) (by simp), String.append_assoc,
          String.utf8ByteSize_append] at hwhole
        omega
  names := fun other hother => hfits.names other (List.mem_append_left _ hother)

end FilePath
end TableGraph
