import TableGraph.Emission
import TableGraph.Proofs.Files.Tree
import TableGraph.Proofs.Program

/-!
Making the directory of a path: where no file is in the way, it is made with all directories on its way, and
nothing else changes.
-/

namespace TableGraph

open FilePath FileTree

/-- A tree with the directories that a path leads through, and otherwise as another one. -/
structure FileTree.Opened (tree : FileTree) (path : FilePath) (after : FileTree) : Prop where
  made : ∀ place ∈ path.places, after.entryAt? place = some .directory
  kept : ∀ place, place ∉ path.places → after.entryAt? place = tree.entryAt? place

namespace FileTree.Opened

variable {tree middle after : FileTree} {path : FilePath} {name : String} {place : FilePath}

theorem refl (hplaces : ∀ place ∈ path.places, tree.entryAt? place = some .directory) : tree.Opened path tree :=
  ⟨hplaces, fun _ _ => rfl⟩

theorem directory (hopened : tree.Opened path after) (hplace : tree.entryAt? place = some .directory) :
    after.entryAt? place = some .directory := by
  by_cases hmem : place ∈ path.places
  . exact hopened.made place hmem
  . rw [hopened.kept place hmem, hplace]

theorem isClear (hopened : tree.Opened path after) (hplace : tree.IsClear place) : after.IsClear place := by
  by_cases hmem : place ∈ path.places
  . intro entry hentry
    rw [hopened.made place hmem] at hentry
    exact (Option.some.inj hentry).symm
  . unfold IsClear
    rwa [hopened.kept place hmem]

theorem trans (hfirst : tree.Opened path middle) (hsecond : middle.Opened (path.child name) after) :
    tree.Opened (path.child name) after where
  made := hsecond.made
  kept := by
    intro place hplace
    have hbefore : place ∉ path.places := fun hmem => hplace (mem_places_child.mpr (.inl hmem))
    rw [hsecond.kept place hplace, hfirst.kept place hbefore]

theorem put (hplaces : ∀ place ∈ path.places, tree.entryAt? place = some .directory)
    (hnone : tree.entryAt? (path.child name).resolve = none) :
    tree.Opened (path.child name) (tree.put (path.child name).resolve .directory) := by
  have hdirectory : (tree.entryAt? path.resolve).isSome = true := by
    rw [hplaces _ resolve_mem_places]
    rfl
  have hstep : (path.child name).resolve = path.resolve.child name := by
    rw [resolve_child]
    by_contra hne
    have hsome := isSome_entryAt?_step hdirectory hne
    rw [← resolve_child, hnone] at hsome
    cases hsome
  constructor
  . intro place hplace
    rw [hstep, entryAt?_put hdirectory]
    split
    . rfl
    . next hne =>
      rcases mem_places_child.mp hplace with hmem | heq
      . exact hplaces place hmem
      . exact absurd (heq.trans hstep) hne
  . intro place hplace
    rw [hstep, entryAt?_put hdirectory, if_neg]
    rintro rfl
    exact hplace (mem_places_child.mpr (.inr hstep.symm))

end FileTree.Opened

namespace Emitting

variable {path place : FilePath} {name : String} {emission : Emission} {problem : PathProblem}

theorem run_makeDirectory (path : FilePath) (emission : Emission) :
    (makeDirectory path).run emission
      =
    match emission.tree.makeDirectory path with
    | .ok tree => (.ok none, ⟨tree, emission.steps ++ [.makeDirectory path]⟩)
    | .error problem => (.ok (some problem), emission) := rfl

theorem run_makeDirectory_of_error (hlocate : emission.tree.locate path = .error problem) :
    (makeDirectory path).run emission = (.ok (some problem), emission) := by
  rw [run_makeDirectory, FileTree.makeDirectory, hlocate]
  rfl

theorem run_makeDirectory_of_none (hlocate : emission.tree.locate path = .ok place)
    (hnone : emission.tree.entryAt? place = none) :
    (makeDirectory path).run emission
      =
    (.ok none, ⟨emission.tree.put place .directory, emission.steps ++ [.makeDirectory path]⟩) := by
  rw [run_makeDirectory, FileTree.makeDirectory, hlocate]
  simp only [bind, Except.bind, hnone]
  rfl

theorem run_makeDirectory_of_directory (hlocate : emission.tree.locate path = .ok place)
    (hdirectory : emission.tree.entryAt? place = some .directory) :
    (makeDirectory path).run emission = (.ok (some .occupied), emission) ∧
      (settle path (some .occupied)).run emission = (.ok (), emission) := by
  constructor
  . rw [run_makeDirectory, FileTree.makeDirectory, hlocate]
    simp only [bind, Except.bind, hdirectory]
    rfl
  . have hthere : emission.tree.isDirectory path = true := by
      unfold isDirectory
      rw [hlocate]
      simp [Except.toOption, hdirectory]
    change (if _ then _ else _) = _
    rw [if_pos hthere]

theorem run_makeDirectory_of_places (hfits : (path.child name).Fits)
    (hplaces : ∀ place ∈ path.places, emission.tree.entryAt? place = some .directory)
    (hclear : emission.tree.IsClear (path.child name).resolve) :
    ∃ after problem?, (makeDirectory (path.child name)).run emission = (.ok problem?, after) ∧
      problem? ≠ some .missing ∧ (settle (path.child name) problem?).run after = (.ok (), after) ∧
      emission.tree.Opened (path.child name) after.tree := by
  have hlocate : emission.tree.locate (path.child name) = .ok (path.child name).resolve :=
    (locate_child_eq_ok_iff hfits).mpr ⟨hplaces, rfl⟩
  rcases hclear.cases with hnone | hdirectory
  . exact ⟨_, none, run_makeDirectory_of_none hlocate hnone, by simp, rfl, .put hplaces hnone⟩
  . obtain ⟨hrun, hsettle⟩ := run_makeDirectory_of_directory hlocate hdirectory
    refine ⟨_, some .occupied, hrun, by simp, hsettle, .refl ?_⟩
    intro place hplace
    rcases mem_places_child.mp hplace with hmem | rfl
    . exact hplaces place hmem
    . exact hdirectory

theorem run_makeDirectories (root : String) (names : List String) (emission : Emission)
    (hfits : FilePath.Fits ⟨root, names.reverse⟩)
    (hclear : ∀ place ∈ FilePath.places ⟨root, names.reverse⟩, emission.tree.IsClear place) :
    ∃ after, (makeDirectories root names).run emission = (.ok (), after) ∧
      emission.tree.Opened ⟨root, names.reverse⟩ after.tree := by
  induction names generalizing emission with
  | nil =>
    rw [List.reverse_nil] at *
    have hlocate : emission.tree.locate ⟨root, []⟩ = .ok (FilePath.start ⟨root, []⟩) :=
      locate_of_fits hfits
    have hdirectory : emission.tree.entryAt? (FilePath.start ⟨root, []⟩) = some .directory := by
      rcases (hclear _ start_mem_places).cases with hnone | hdirectory
      . have hsome : (emission.tree.entryAt? (FilePath.start ⟨root, []⟩)).isSome = true :=
          isSome_entryAt?_iff.mpr (.inl isAbove_start)
        rw [hnone] at hsome
        cases hsome
      . exact hdirectory
    obtain ⟨hrun, hsettle⟩ := run_makeDirectory_of_directory hlocate hdirectory
    refine ⟨emission, ?_, .refl ?_⟩
    . unfold makeDirectories
      dsimp only
      rw [run_bind_of_ok hrun]
      exact hsettle
    . intro place hplace
      rw [places_of_empty, List.mem_singleton] at hplace
      rw [hplace]
      exact hdirectory
  | cons name above ih =>
    have hpath : (⟨root, (name :: above).reverse⟩ : FilePath) = (⟨root, above.reverse⟩ : FilePath).child name := by
      rw [List.reverse_cons]
      rfl
    rw [hpath] at hfits hclear ⊢
    unfold makeDirectories
    dsimp only
    rw [hpath]
    cases hlocate : emission.tree.locate ((⟨root, above.reverse⟩ : FilePath).child name) with
    | ok place =>
      obtain ⟨hplaces, -⟩ := (locate_child_eq_ok_iff hfits).mp hlocate
      obtain ⟨after, problem?, hrun, hproblem, hsettle, hopened⟩ :=
        run_makeDirectory_of_places hfits hplaces (hclear _ resolve_mem_places)
      refine ⟨after, ?_, hopened⟩
      rw [run_bind_of_ok hrun]
      split
      . exact absurd rfl hproblem
      . exact hsettle
    | error problem =>
      obtain rfl := locate_eq_missing hfits hclear hlocate
      obtain ⟨middle, hmiddle, hopened⟩ :=
        ih emission hfits.of_child fun place hplace => hclear place (mem_places_child.mpr (.inl hplace))
      obtain ⟨after, problem?, hrun, -, hsettle, hlast⟩ :=
        run_makeDirectory_of_places hfits hopened.made
          (hopened.isClear (hclear _ resolve_mem_places))
      refine ⟨after, ?_, hopened.trans hlast⟩
      rw [run_bind_of_ok (run_makeDirectory_of_error hlocate)]
      dsimp only
      rw [run_bind_of_ok hmiddle, run_bind_of_ok hrun]
      exact hsettle

end Emitting
end TableGraph
