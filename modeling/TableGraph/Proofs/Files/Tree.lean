import TableGraph.Proofs.Files.Path

/-!
What is at which place of a file tree, after something was put there, and which paths can be followed.
-/

namespace TableGraph

open FilePath

namespace FileTree

variable {tree : FileTree} {place other directory : FilePath} {name : String} {entry : FileEntry}

section Entries

theorem isInhabited_iff : tree.isInhabited place = true ↔ ∃ recorded ∈ tree, place.Contains recorded.1 := by
  unfold isInhabited Contains
  simp only [List.any_eq_true, Bool.and_eq_true, beq_iff_eq, List.isPrefixOf_iff_prefix]
  simp only [eq_comm]

theorem exists_mem_put {p : FilePath → Prop} :
    (∃ recorded ∈ tree.put place entry, p recorded.1) ↔ p place ∨ ∃ recorded ∈ tree, p recorded.1 := by
  induction tree with
  | nil => simp [put]
  | cons first rest ih =>
    unfold put
    split
    . next heq =>
      rw [← eq_of_beq heq]
      simp
    . simp only [List.mem_cons, or_and_right, exists_or, exists_eq_left, ih]
      exact or_left_comm

theorem isInhabited_put_iff :
    (tree.put place entry).isInhabited other = true ↔ other.Contains place ∨ tree.isInhabited other = true := by
  rw [isInhabited_iff, exists_mem_put, isInhabited_iff]

theorem isInhabited_of_get? (hget : tree.get? place = some entry) : tree.isInhabited place = true := by
  obtain ⟨recorded, hfind, -⟩ := Option.map_eq_some_iff.mp hget
  have hplace : recorded.1 = place := by simpa using List.find?_some hfind
  exact isInhabited_iff.mpr ⟨recorded, List.mem_of_find?_eq_some hfind, hplace ▸ ⟨rfl, List.prefix_rfl⟩⟩

theorem entryAt?_of_get?_eq_none (hget : tree.get? place = none) :
    tree.entryAt? place = if place.isAbove || tree.isInhabited place then some .directory else none := by
  unfold entryAt?
  rw [hget]

theorem isSome_entryAt?_iff :
    (tree.entryAt? place).isSome = true ↔ place.isAbove = true ∨ tree.isInhabited place = true := by
  cases hget : tree.get? place with
  | none =>
    rw [entryAt?_of_get?_eq_none hget, ← Bool.or_eq_true]
    split
    . next h => simp [h]
    . next h => simp [h]
  | some recorded =>
    unfold entryAt?
    rw [hget]
    simp [isInhabited_of_get? hget]

theorem isSome_entryAt?_of_contains (hcontains : place.Contains other)
    (hother : (tree.entryAt? other).isSome = true) : (tree.entryAt? place).isSome = true := by
  rw [isSome_entryAt?_iff, isInhabited_iff] at *
  rcases hother with habove | ⟨recorded, hmem, hrecorded⟩
  . exact .inl (isAbove_of_contains hcontains habove)
  . exact .inr ⟨recorded, hmem, hcontains.trans hrecorded⟩

theorem isSome_entryAt?_step (hplace : (tree.entryAt? place).isSome = true)
    (hstep : place.step name ≠ place.child name) : (tree.entryAt? (place.step name)).isSome = true := by
  rcases step_cases place name with hchild | hcontains | habove
  . exact absurd hchild hstep
  . exact isSome_entryAt?_of_contains hcontains hplace
  . exact isSome_entryAt?_iff.mpr (.inl habove)

theorem entryAt?_put (hdirectory : (tree.entryAt? directory).isSome = true) :
    FileTree.entryAt? (tree.put (directory.child name) entry) place
      =
    if place = directory.child name then some entry else tree.entryAt? place := by
  have hget := get?_put tree (directory.child name) place entry
  split
  . next heq =>
    unfold entryAt?
    rw [hget, if_pos heq]
  . next hne =>
    rw [if_neg hne] at hget
    cases hrecorded : tree.get? place with
    | some recorded =>
      unfold entryAt?
      rw [hget, hrecorded]
    | none =>
      have hsame : place.isAbove = true ∨ (tree.put (directory.child name) entry).isInhabited place = true
          ↔ place.isAbove = true ∨ tree.isInhabited place = true := by
        rw [isInhabited_put_iff, contains_child_iff]
        constructor
        . rintro (habove | ((heq | hcontains) | hinhabited))
          . exact .inl habove
          . exact absurd heq hne
          . -- the place contains the directory, so it was there before
            exact isSome_entryAt?_iff.mp (isSome_entryAt?_of_contains hcontains hdirectory)
          . exact .inr hinhabited
        . exact Or.imp_right .inr
      rw [entryAt?_of_get?_eq_none (hget.trans hrecorded), entryAt?_of_get?_eq_none hrecorded]
      simp only [Bool.or_eq_true, hsame]

end Entries

def IsClear (tree : FileTree) (place : FilePath) : Prop :=
  ∀ entry, tree.entryAt? place = some entry → entry = .directory

theorem IsClear.cases (hclear : tree.IsClear place) :
    tree.entryAt? place = none ∨ tree.entryAt? place = some .directory := by
  cases hentry : tree.entryAt? place with
  | none => exact .inl rfl
  | some entry =>
    rw [hclear entry hentry]
    exact .inr rfl

section Walks

variable {names : List String} {problem : PathProblem}

theorem walk_concat_eq_ok_iff :
    tree.walk place (names ++ [name]) = .ok other
      ↔
    (∀ front, front <+: names → tree.entryAt? (front.foldl step place) = some .directory) ∧
    (∀ part ∈ names ++ [name], part.utf8ByteSize ≤ nameLimit) ∧
    other = (names ++ [name]).foldl step place := by
  induction names generalizing place with
  | nil =>
    simp only [List.nil_append, walk, List.prefix_nil, forall_eq, List.foldl_nil, List.foldl_cons,
      List.forall_mem_singleton]
    split
    . next hentry => simp [hentry]
    . next hentry =>
      split
      . next hlong => simp [Nat.not_le.mpr hlong]
      . next hshort => simp [hentry, Nat.not_lt.mp hshort, eq_comm]
    . next hfile hentry =>
      simp only [reduceCtorEq, hentry, Option.some.injEq, false_iff, not_and]
      exact fun hdirectory => absurd hdirectory hfile
  | cons first names ih =>
    have hfronts : (∀ front, front <+: first :: names → tree.entryAt? (front.foldl step place) = some .directory)
        ↔ tree.entryAt? place = some .directory ∧
          ∀ front, front <+: names → tree.entryAt? (front.foldl step (place.step first)) = some .directory := by
      constructor
      . intro hall
        refine ⟨hall [] List.nil_prefix, ?_⟩
        exact fun front hfront => hall (first :: front) (List.cons_prefix_cons.mpr ⟨rfl, hfront⟩)
      . rintro ⟨hplace, hrest⟩ front hfront
        cases front with
        | nil => exact hplace
        | cons head front =>
          obtain ⟨rfl, htail⟩ := List.cons_prefix_cons.mp hfront
          exact hrest front htail
    rw [hfronts]
    simp only [List.cons_append, walk, List.foldl_cons, List.forall_mem_cons]
    split
    . next hentry => simp [hentry]
    . next hentry =>
      split
      . next hlong => simp [Nat.not_le.mpr hlong]
      . next hshort =>
        rw [ih]
        simp [hentry, Nat.not_lt.mp hshort]
    . next hfile hentry =>
      simp only [reduceCtorEq, hentry, Option.some.injEq, false_iff, not_and, and_imp]
      exact fun hdirectory => absurd hdirectory hfile

/-- A walk without files on its way can only come to an end because of a directory that is not there. -/
theorem walk_eq_missing (hclear : ∀ front, front <+: names → tree.IsClear (front.foldl step place))
    (hshort : ∀ part ∈ names, part.utf8ByteSize ≤ nameLimit)
    (hwalk : tree.walk place names = .error problem) : problem = .missing := by
  induction names generalizing place with
  | nil => cases hwalk
  | cons first names ih =>
    rw [List.forall_mem_cons] at hshort
    rw [walk] at hwalk
    rcases (hclear [] List.nil_prefix).cases with hnone | hdirectory
    . simp only [List.foldl_nil] at hnone
      rw [hnone] at hwalk
      cases hwalk
      rfl
    . simp only [List.foldl_nil] at hdirectory
      rw [hdirectory] at hwalk
      dsimp only at hwalk
      rw [if_neg (Nat.not_lt.mpr hshort.left)] at hwalk
      refine ih (fun front hfront => ?_) hshort.right hwalk
      exact hclear (first :: front) (List.cons_prefix_cons.mpr ⟨rfl, hfront⟩)

theorem walk_of_kept {after : FileTree}
    (hkept : ∀ place, tree.entryAt? place = some .directory → after.entryAt? place = some .directory)
    (hwalk : tree.walk place names = .ok other) : after.walk place names = .ok other := by
  induction names generalizing place with
  | nil => exact hwalk
  | cons first names ih =>
    rw [walk] at hwalk ⊢
    split at hwalk
    . cases hwalk
    . next hentry =>
      rw [hkept place hentry]
      split at hwalk
      . cases hwalk
      . next hshort =>
        dsimp only
        rw [if_neg hshort]
        exact ih hwalk
    . cases hwalk

variable {path : FilePath}

theorem locate_of_fits (hfits : path.Fits) : tree.locate path = tree.walk path.start path.parts := by
  unfold locate
  rw [if_neg (Nat.not_lt.mpr hfits.whole)]

theorem locate_child_eq_ok_iff (hfits : (path.child name).Fits) :
    tree.locate (path.child name) = .ok place
      ↔
    (∀ way ∈ path.places, tree.entryAt? way = some .directory) ∧ place = (path.child name).resolve := by
  have hshort : ∀ part ∈ path.parts ++ [name], part.utf8ByteSize ≤ nameLimit := hfits.names
  have hways : (∀ way ∈ path.places, tree.entryAt? way = some .directory)
      ↔ ∀ front, front <+: path.parts → tree.entryAt? (front.foldl step path.start) = some .directory := by
    simp [mem_places]
  rw [locate_of_fits hfits, hways]
  refine walk_concat_eq_ok_iff.trans ⟨?_, ?_⟩
  . rintro ⟨hfront, -, hplace⟩
    exact ⟨hfront, hplace⟩
  . rintro ⟨hfront, hplace⟩
    exact ⟨hfront, hshort, hplace⟩

theorem locate_eq_missing (hfits : path.Fits) (hclear : ∀ way ∈ path.places, tree.IsClear way)
    (hlocate : tree.locate path = .error problem) : problem = .missing := by
  rw [locate_of_fits hfits] at hlocate
  exact walk_eq_missing (fun front hfront => hclear _ (mem_places.mpr ⟨front, hfront, rfl⟩)) hfits.names hlocate

theorem locate_of_kept {after : FileTree}
    (hkept : ∀ place, tree.entryAt? place = some .directory → after.entryAt? place = some .directory)
    (hlocate : tree.locate path = .ok place) : after.locate path = .ok place := by
  unfold locate at *
  split at hlocate
  . cases hlocate
  . next hshort =>
    rw [if_neg hshort]
    exact walk_of_kept hkept hlocate

end Walks

end FileTree

def Artifact.place (file : Artifact) : FilePath :=
  file.path.resolve

namespace FileTree

variable {tree : FileTree} {file other : Artifact} {files : List Artifact} {place : FilePath}

/-- A file can be written: its path leads into a directory, and its place is not taken by another one. -/
structure Admits (tree : FileTree) (file : Artifact) : Prop where
  located : tree.locate file.path = .ok file.place
  within : ∃ directory name, file.place = FilePath.child directory name ∧
    tree.entryAt? directory = some .directory
  free : tree.entryAt? file.place ≠ some .directory

theorem Admits.write (hfile : tree.Admits file) :
    tree.write file = .ok (tree.put file.place (.text file.text)) := by
  unfold FileTree.write
  rw [hfile.located]
  simp only [bind, Except.bind]
  split
  . next hentry => exact absurd hentry hfile.free
  . rfl

theorem Admits.entryAt?_put (hfile : tree.Admits file) (entry : FileEntry) :
    FileTree.entryAt? (tree.put file.place entry) place
      =
    if place = file.place then some entry else tree.entryAt? place := by
  obtain ⟨directory, name, hplace, hdirectory⟩ := hfile.within
  rw [hplace]
  apply FileTree.entryAt?_put
  rw [hdirectory]
  rfl

/-- Directories stay, and no new ones appear where a file is to be written. -/
theorem Admits.of_kept {after : FileTree} (hfile : tree.Admits file)
    (hkept : ∀ place, tree.entryAt? place = some .directory → after.entryAt? place = some .directory)
    (hfree : after.entryAt? file.place ≠ some .directory) : after.Admits file where
  located := locate_of_kept hkept hfile.located
  within := by
    obtain ⟨directory, name, hplace, hdirectory⟩ := hfile.within
    exact ⟨directory, name, hplace, hkept directory hdirectory⟩
  free := hfree

theorem Admits.put (hfile : tree.Admits file) (hother : tree.Admits other) :
    (tree.put other.place (.text other.text)).Admits file := by
  apply hfile.of_kept
  . intro place hdirectory
    rw [hother.entryAt?_put, if_neg]
    . exact hdirectory
    . rintro rfl
      exact hother.free hdirectory
  . rw [hother.entryAt?_put]
    split
    . simp
    . exact hfile.free

def putAll (tree : FileTree) (files : List Artifact) : FileTree :=
  files.foldl (fun tree file => tree.put file.place (.text file.text)) tree

theorem putAll_cons (tree : FileTree) (file : Artifact) (files : List Artifact) :
    tree.putAll (file :: files) = (tree.put file.place (.text file.text)).putAll files := rfl

theorem putAll_append (tree : FileTree) (files later : List Artifact) :
    tree.putAll (files ++ later) = (tree.putAll files).putAll later := List.foldl_append

theorem admits_putAll (hfiles : ∀ file ∈ files, tree.Admits file) (hother : tree.Admits other) :
    (tree.putAll files).Admits other := by
  induction files generalizing tree with
  | nil => exact hother
  | cons file files ih =>
    rw [List.forall_mem_cons] at hfiles
    rw [putAll_cons]
    apply ih
    . exact fun later hlater => (hfiles.right later hlater).put hfiles.left
    . exact hother.put hfiles.left

theorem entryAt?_putAll_of_not_mem (hfiles : ∀ file ∈ files, tree.Admits file)
    (hplace : place ∉ files.map (·.place)) :
    FileTree.entryAt? (tree.putAll files) place = tree.entryAt? place := by
  induction files generalizing tree with
  | nil => rfl
  | cons file files ih =>
    rw [List.forall_mem_cons] at hfiles
    rw [List.map_cons, List.mem_cons, not_or] at hplace
    rw [putAll_cons, ih (fun later hlater => (hfiles.right later hlater).put hfiles.left) hplace.right,
      hfiles.left.entryAt?_put, if_neg hplace.left]

theorem entryAt?_putAll_of_mem (hfiles : ∀ file ∈ files, tree.Admits file)
    (hplaces : (files.map (·.place)).Nodup) (hfile : file ∈ files) :
    FileTree.entryAt? (tree.putAll files) file.place = some (.text file.text) := by
  induction files generalizing tree with
  | nil => cases hfile
  | cons first files ih =>
    rw [List.forall_mem_cons] at hfiles
    rw [List.map_cons, List.nodup_cons] at hplaces
    have hlater : ∀ file ∈ files, (tree.put first.place (.text first.text)).Admits file :=
      fun later hlater => (hfiles.right later hlater).put hfiles.left
    rw [putAll_cons]
    rcases List.mem_cons.mp hfile with rfl | hmem
    . rw [entryAt?_putAll_of_not_mem hlater hplaces.left, hfiles.left.entryAt?_put, if_pos rfl]
    . exact ih hlater hplaces.right hmem

end FileTree
end TableGraph
