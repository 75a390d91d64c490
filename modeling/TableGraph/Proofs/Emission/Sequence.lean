import TableGraph.Proofs.Emission.Files

/-!
Several builds that are emitted one after the other into one directory. No emission removes a file, so what
lies there are the files of all of them, each as the last build that has it has written it.
-/

namespace TableGraph
namespace Build

open FilePath FileTree

def emitAll (output : FilePath) : List Build → Emitting (List (List FilePath))
  | [] => return []
  | build :: builds => do
    let paths ← build.emit output
    let rest ← emitAll output builds
    return paths :: rest

def written? (build : Build) (output place : FilePath) : Option FileEntry :=
  ((build.artifacts output).find? (·.place == place)).map fun file => .text file.text

variable {build : Build} {builds : List Build} {output place : FilePath} {emission : Emission}
  {tree middle after : FileTree}

theorem isSome_written?_iff (hsound : build.IsSound) :
    (build.written? output place).isSome = true ↔ place ∈ (build.document.filePaths output).map (·.resolve) := by
  unfold written?
  rw [Option.isSome_map, List.find?_isSome, ← (perm_places hsound output).mem_iff]
  simp

theorem Emitted.entryAt?_eq (hemitted : build.Emitted output tree after) (hsound : build.IsSound)
    (hplace : place ∉ (resolverDirectory output).places) :
    after.entryAt? place = (build.written? output place).or (tree.entryAt? place) := by
  unfold written?
  cases hfind : (build.artifacts output).find? (·.place == place) with
  | none =>
    apply hemitted.kept place hplace
    rw [← (perm_places hsound output).mem_iff]
    simpa using hfind
  | some file =>
    have hfile : file.place = place := by simpa using List.find?_some hfind
    rw [← hfile]
    exact hemitted.held file (List.mem_of_find?_eq_some hfind)

/-- After several emissions there is at each place what the last one that writes to it has written. -/
theorem run_emitAll (emission : Emission) (hsound : ∀ build ∈ builds, build.IsSound)
    (hroom : ∀ build ∈ builds, build.document.HasRoom output emission.tree) :
    ∃ paths after, (emitAll output builds).run emission = (.ok paths, after) ∧
      (∀ place ∉ (resolverDirectory output).places, after.tree.entryAt? place =
        (builds.reverse.findSome? (·.written? output place)).or (emission.tree.entryAt? place)) ∧
      ∀ document : Document, document.HasRoom output emission.tree → document.HasRoom output after.tree := by
  induction builds generalizing emission with
  | nil => exact ⟨[], emission, rfl, fun _ _ => rfl, fun _ hdocument => hdocument⟩
  | cons build builds ih =>
    rw [List.forall_mem_cons] at hsound hroom
    obtain ⟨middle, hrun, hemitted⟩ := emitted_of_run hsound.left hroom.left
    obtain ⟨paths, after, hrest, hafter, hstays⟩ :=
      ih middle hsound.right fun later hlater => hemitted.hasRoom hsound.left (hroom.right later hlater)
    refine ⟨(build.artifacts output).map (·.path) :: paths, after, ?_, ?_, ?_⟩
    . unfold emitAll
      rw [run_bind_of_ok hrun, run_bind_of_ok hrest]
      rfl
    . intro place hplace
      rw [hafter place hplace, hemitted.entryAt?_eq hsound.left hplace, ← Option.or_assoc,
        List.reverse_cons, List.findSome?_append, List.findSome?_singleton]
    . exact fun document hdocument => hstays document (hemitted.hasRoom hsound.left hdocument)

theorem run_emitAll_concat {paths : List (List FilePath)} {last : List FilePath} {middle after : Emission}
    (hrun : (emitAll output builds).run emission = (.ok paths, middle))
    (hlast : (build.emit output).run middle = (.ok last, after)) :
    (emitAll output (builds ++ [build])).run emission = (.ok (paths ++ [last]), after) := by
  induction builds generalizing emission paths with
  | nil =>
    cases hrun
    rw [List.nil_append]
    unfold emitAll
    rw [run_bind_of_ok hlast]
    rfl
  | cons first builds ih =>
    rw [emitAll, run_bind] at hrun
    split at hrun
    . next written started hfirst =>
      rw [run_bind] at hrun
      split at hrun
      . next rest between hrest =>
        cases hrun
        rw [List.cons_append, emitAll, run_bind_of_ok hfirst, run_bind_of_ok (ih hrest)]
        rfl
      . cases hrun
    . cases hrun

theorem mem_places_iff {document : Document} (hbelow : (resolverDirectory output).resolve.Contains place) :
    place ∈ (document.filePaths output).map (·.resolve)
      ↔
    ∃ name ∈ document.resolverNames, place = (resolverDirectory output).resolve.child name := by
  rw [Document.places_filePaths, Document.resolve_resolverDirectory, List.mem_cons, List.mem_map]
  rw [Document.resolve_resolverDirectory] at hbelow
  simp only [eq_comm]
  apply or_iff_right
  rintro rfl
  rcases contains_child_iff.mp hbelow with heq | hcontains
  . exact absurd (child_inj.mp heq).right (by decide)
  . have hlength := hcontains.right.length_le
    rw [child, List.length_append, List.length_singleton] at hlength
    omega

/--
Builds with checked documents are emitted one after the other, with room for their files and nothing in the
directory of the resolvers at first. After each emission the files of the last build are there; and the files
in the directory of the resolvers are those of the fields of all builds that were emitted so far, each of them
as the last build with that field has written it.
-/
theorem emitAll_files (builds : List Build) (build : Build)
    (hvalidated : ∀ other ∈ builds ++ [build], other.IsValidated) (emission : Emission)
    (hroom : ∀ other ∈ builds ++ [build], other.document.HasRoom output emission.tree)
    (hempty : ∀ place, (resolverDirectory output).resolve.Contains place → emission.tree.entryAt? place = none) :
    ∃ paths after, (emitAll output (builds ++ [build])).run emission = (.ok paths, after) ∧
      build.Holds output after.tree ∧
      (∀ place ∈ (resolverDirectory output).places, after.tree.entryAt? place = some .directory) ∧
      ∀ place ∉ (resolverDirectory output).places, (resolverDirectory output).resolve.Contains place →
        ((after.tree.entryAt? place).isSome = true
          ↔
          ∃ other ∈ builds ++ [build], ∃ name ∈ other.document.resolverNames,
            place = (resolverDirectory output).resolve.child name) ∧
        ∀ entry, after.tree.entryAt? place = some entry →
          ∃ earlier other later, builds ++ [build] = earlier ++ other :: later ∧
            other.written? output place = some entry ∧
            ∀ next ∈ later, next.written? output place = none := by
  have hsound : ∀ other ∈ builds ++ [build], other.IsSound :=
    fun other hother => (hvalidated other hother).isSound
  obtain ⟨hbuilds, hbuild⟩ := List.forall_mem_append.mp hsound
  rw [List.forall_mem_singleton] at hbuild
  obtain ⟨hrooms, hlastRoom⟩ := List.forall_mem_append.mp hroom
  rw [List.forall_mem_singleton] at hlastRoom
  obtain ⟨paths, middle, hrun, hmiddle, hstays⟩ := run_emitAll emission hbuilds hrooms
  obtain ⟨after, hlast, hemitted⟩ := emitted_of_run hbuild (hstays _ hlastRoom)
  refine ⟨_, after, run_emitAll_concat hrun hlast, hemitted.holds hbuild (hstays _ hlastRoom), hemitted.made, ?_⟩
  intro place hplace hbelow
  have hentry : after.tree.entryAt? place = (builds ++ [build]).reverse.findSome? (·.written? output place) := by
    rw [hemitted.entryAt?_eq hbuild hplace, hmiddle place hplace, hempty place hbelow, Option.or_none,
      List.reverse_append, List.reverse_singleton, List.singleton_append, List.findSome?_cons]
    cases build.written? output place with
    | none => rfl
    | some entry => rfl
  rw [hentry]
  constructor
  . rw [List.findSome?_isSome_iff]
    constructor
    . rintro ⟨other, hother, hwritten⟩
      rw [List.mem_reverse] at hother
      rw [isSome_written?_iff (hsound other hother), mem_places_iff hbelow] at hwritten
      exact ⟨other, hother, hwritten⟩
    . rintro ⟨other, hother, hname⟩
      refine ⟨other, List.mem_reverse.mpr hother, ?_⟩
      rw [isSome_written?_iff (hsound other hother), mem_places_iff hbelow]
      exact hname
  . intro entry hsome
    obtain ⟨later, other, earlier, hsplit, hwritten, hnone⟩ := List.findSome?_eq_some_iff.mp hsome
    refine ⟨earlier.reverse, other, later.reverse, ?_, hwritten, ?_⟩
    . simpa using congrArg List.reverse hsplit
    . exact fun next hnext => hnone next (List.mem_reverse.mp hnext)

def dropped : List Build :=
  [ofTables [keyTable "a"], ofTables [keyTable "b"]]

theorem dropped_isValidated : ∀ build ∈ dropped, build.IsValidated := by
  unfold dropped
  rw [List.forall_mem_cons, List.forall_mem_singleton]
  refine ⟨isValidated_keyTable ?_ ?_, isValidated_keyTable ?_ ?_⟩
  . decide
  . decide
  . decide
  . decide

theorem dropped_hasRoom : ∀ build ∈ dropped, build.document.HasRoom ⟨"", ["out"]⟩ [] := by
  unfold dropped
  rw [List.forall_mem_cons, List.forall_mem_singleton]
  refine ⟨Document.hasRoom_nil ?_ ?_, Document.hasRoom_nil ?_ ?_⟩
  . decide +kernel
  . decide +kernel
  . decide +kernel
  . decide +kernel

theorem emitAll_files_dropped :
    (∀ build ∈ dropped, build.IsValidated) ∧
      (∀ build ∈ dropped, build.document.HasRoom ⟨"", ["out"]⟩ []) ∧
      (∀ place : FilePath, (⟨"", ["out", "resolvers"]⟩ : FilePath).Contains place → entryAt? [] place = none) ∧
      ∃ paths after, (emitAll ⟨"", ["out"]⟩ dropped).run { tree := [] } = (.ok paths, after) ∧
        (ofTables [keyTable "b"]).Holds ⟨"", ["out"]⟩ after.tree := by
  have hempty : ∀ place : FilePath,
      (⟨"", ["out", "resolvers"]⟩ : FilePath).Contains place → entryAt? [] place = none := by
    intro place hcontains
    rw [entryAt?_of_get?_eq_none rfl, if_neg]
    rw [Bool.or_eq_true, not_or]
    exact ⟨fun habove => absurd (isAbove_of_contains hcontains habove) (by decide), by simp [isInhabited]⟩
  obtain ⟨paths, after, hrun, hholds, -⟩ := emitAll_files [ofTables [keyTable "a"]]
    (ofTables [keyTable "b"]) dropped_isValidated { tree := [] } dropped_hasRoom hempty
  exact ⟨dropped_isValidated, dropped_hasRoom, hempty, paths, after, hrun, hholds⟩

/-- The files of a field stay when the field is gone. -/
theorem emitAll_stale :
    (∀ build ∈ dropped, build.IsValidated) ∧
      ∃ paths after, (emitAll ⟨"", ["out"]⟩ dropped).run { tree := [] } = (.ok paths, after) ∧
        (after.tree.entryAt? ⟨"", ["out", "resolvers", "Query.geta.req.vtl"]⟩).isSome = true ∧
        ∀ last ∈ dropped.getLast?, ("Query", "geta") ∉ last.document.fieldNames := by
  have hsound : ∀ build ∈ dropped, build.IsSound := fun build hbuild => (dropped_isValidated build hbuild).isSound
  obtain ⟨paths, after, hrun, hafter, -⟩ := run_emitAll { tree := [] } hsound dropped_hasRoom
  refine ⟨dropped_isValidated, paths, after, hrun, ?_, by decide⟩
  rw [hafter _ (by decide), Option.isSome_or, Bool.or_eq_true, List.findSome?_isSome_iff]
  left
  refine ⟨ofTables [keyTable "a"], by simp [dropped], ?_⟩
  rw [isSome_written?_iff (hsound _ (by simp [dropped]))]
  decide +kernel

end Build
end TableGraph
