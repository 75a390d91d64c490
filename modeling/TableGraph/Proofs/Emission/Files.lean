import TableGraph.Proofs.Build.Results
import TableGraph.Proofs.Emission.Directories
import TableGraph.Proofs.Emission.Paths

/-!
What is in the files after a build was emitted: each file holds what it is for, and all else is as before.
-/

namespace TableGraph

open FilePath FileTree

def FileTree.read? (tree : FileTree) (path : FilePath) : Option String :=
  match (tree.locate path).toOption.bind tree.entryAt? with
  | some (.text content) => some content
  | _ => none

/-- The files of a document can be written below a directory: all names are short enough, no file is where
a directory is asked for, and no directory is, or has to be made, where a file is to be written. -/
structure Document.HasRoom (document : Document) (output : FilePath) (tree : FileTree) : Prop where
  fits : ∀ path ∈ resolverDirectory output :: document.filePaths output, path.Fits
  clear : ∀ place ∈ (resolverDirectory output).places, tree.IsClear place
  free : ∀ path ∈ document.filePaths output, tree.entryAt? path.resolve ≠ some .directory
  apart : ∀ path ∈ document.filePaths output, path.resolve ∉ (resolverDirectory output).places

theorem Document.hasRoom_nil {document : Document} {output : FilePath}
    (hfits : ∀ path ∈ resolverDirectory output :: document.filePaths output, path.Fits)
    (hapart : ∀ path ∈ document.filePaths output, path.resolve ∉ (resolverDirectory output).places) :
    document.HasRoom output [] where
  fits := hfits
  clear := by
    intro place _ entry hentry
    rw [entryAt?_of_get?_eq_none rfl] at hentry
    split at hentry
    . exact (Option.some.inj hentry).symm
    . cases hentry
  free := by
    intro path hpath
    obtain ⟨directory, name, rfl, hname, -⟩ := mem_filePaths hpath
    rw [entryAt?_of_get?_eq_none rfl, resolve_child_of_isProperName hname, if_neg]
    . simp
    . simp [isAbove_child, hname.right, isInhabited]
  apart := hapart

namespace Build

structure IsSound (build : Build) : Prop where
  fields : build.resolvedFields.Perm build.document.fieldNames
  nodup : build.document.fieldNames.Nodup
  proper : ∀ resolver ∈ build.allResolvers, resolver.IsProper

theorem IsValidated.isSound {build : Build} (hvalidated : build.IsValidated) : build.IsSound := by
  obtain ⟨σ, reader, options, id, database, session, hvalidate, hrun⟩ := hvalidated
  obtain ⟨tables, hreturns⟩ := run_eq_ok_iff.mp hrun
  have hdocument : build.document = .ofTables build.tables := by rw [hreturns.build_eq]
  obtain ⟨-, htypes⟩ := Table.mapM_types_eq_ok_iff.mp hreturns.accepted
  have hviolations := Document.violations_eq_nil_of_failure? (hreturns.checked hvalidate)
  rw [htypes] at hviolations
  obtain ⟨hnames, -⟩ := (Document.violations_eq_nil_iff _).mp hviolations
  have hdistinct : (build.tables.map (·.table)).Nodup := by
    rw [htypes, List.map_map]
    exact (Document.typeNames_fresh_iff.mp hnames).left
  constructor
  . exact perm_resolvedFields build hdistinct hdocument
  . unfold Document.fieldNames
    rw [hdocument]
    exact Document.nodup_requestFields hdistinct
  . intro resolver hresolver
    unfold allResolvers at hresolver
    rw [resolvers_of_nodup hdistinct] at hresolver
    simp only [List.mem_flatMap, List.mem_map] at hresolver
    obtain ⟨_, ⟨types, -, rfl⟩, made, hmade, rfl⟩ := hresolver
    exact types.resolvers_proper made hmade

structure Emitted (build : Build) (output : FilePath) (before after : FileTree) : Prop where
  held : ∀ file ∈ build.artifacts output, after.entryAt? file.place = some (.text file.text)
  made : ∀ place ∈ (resolverDirectory output).places, after.entryAt? place = some .directory
  kept : ∀ place, place ∉ (resolverDirectory output).places →
    place ∉ (build.document.filePaths output).map (·.resolve) → after.entryAt? place = before.entryAt? place

/-- All files of a build are there: its schema, and for each resolver what its templates are rendered to. -/
structure Holds (build : Build) (output : FilePath) (tree : FileTree) : Prop where
  schema : tree.read? (output.child "schema.graphql") = some (build.document.print ++ "\n")
  resolvers : ∀ resolver ∈ build.allResolvers, ∃ request response,
    resolver.request.render = .ok request ∧ resolver.response.render = .ok response ∧
    tree.read? (resolver.requestPath output) = some (request ++ "\n") ∧
    tree.read? (resolver.responsePath output) = some (response ++ "\n")

variable {build : Build} {document : Document} {output : FilePath} {emission : Emission} {tree after : FileTree}

theorem IsSound.mem_filePaths (hsound : build.IsSound) {file : Artifact}
    (hfile : file ∈ build.artifacts output) : file.path ∈ build.document.filePaths output :=
  (perm_filePaths hsound.fields output).subset (List.mem_map_of_mem hfile)

theorem perm_places (hsound : build.IsSound) (output : FilePath) :
    ((build.artifacts output).map (·.place)).Perm ((build.document.filePaths output).map (·.resolve)) := by
  have hperm := (perm_filePaths hsound.fields output).map (·.resolve)
  rwa [List.map_map] at hperm

/-- Where all directories are made, all files of a document can be written. -/
theorem locate_of_made (hroom : document.HasRoom output tree)
    (hmade : ∀ place ∈ (resolverDirectory output).places, after.entryAt? place = some .directory)
    {path : FilePath} (hpath : path ∈ document.filePaths output) :
    after.locate path = .ok path.resolve ∧
      ∃ directory name, path.resolve = FilePath.child directory name ∧
        after.entryAt? directory = some .directory := by
  obtain ⟨directory, name, rfl, hname, hdirectory⟩ := Document.mem_filePaths hpath
  have hways : ∀ way ∈ directory.places, after.entryAt? way = some .directory := by
    intro way hway
    apply hmade
    rcases hdirectory with rfl | rfl
    . exact mem_places_child.mpr (.inl hway)
    . exact hway
  refine ⟨?_, directory.resolve, name, ?_, hways _ resolve_mem_places⟩
  . exact (locate_child_eq_ok_iff (hroom.fits _ (List.mem_cons_of_mem _ hpath))).mpr ⟨hways, rfl⟩
  . exact resolve_child_of_isProperName hname

theorem admits_of_opened (hroom : document.HasRoom output tree)
    (hopened : tree.Opened (resolverDirectory output) after) {file : Artifact}
    (hfile : file.path ∈ document.filePaths output) : after.Admits file := by
  obtain ⟨hlocated, hwithin⟩ := locate_of_made hroom hopened.made hfile
  refine ⟨hlocated, hwithin, ?_⟩
  unfold Artifact.place
  rw [hopened.kept _ (hroom.apart _ hfile)]
  exact hroom.free _ hfile

theorem run_emit (hsound : build.IsSound) (hroom : build.document.HasRoom output emission.tree) :
    ∃ opened, emission.tree.Opened (resolverDirectory output) opened ∧ ∃ after,
      (build.emit output).run emission = (.ok ((build.artifacts output).map (·.path)), after) ∧
      after.tree = opened.putAll (build.artifacts output) := by
  obtain ⟨opened, hmake, hopened⟩ :
      ∃ opened, (Emitting.makeDirectories (resolverDirectory output).root
          (resolverDirectory output).parts.reverse).run emission = (.ok (), opened) ∧
        emission.tree.Opened (resolverDirectory output) opened.tree := by
    have hpath : (⟨(resolverDirectory output).root, (resolverDirectory output).parts.reverse.reverse⟩ : FilePath)
        = resolverDirectory output := by
      rw [List.reverse_reverse]
    have hmake := Emitting.run_makeDirectories (resolverDirectory output).root
      (resolverDirectory output).parts.reverse emission
    rw [hpath] at hmake
    exact hmake (hroom.fits _ List.mem_cons_self) hroom.clear
  have hadmits : ∀ file ∈ build.artifacts output, opened.tree.Admits file :=
    fun file hfile => admits_of_opened hroom hopened (hsound.mem_filePaths hfile)
  have hproper : ∀ entry ∈ build.resolvers, ∀ resolver ∈ entry.2.map (·.2), resolver.IsProper :=
    fun entry hentry resolver hresolver =>
      hsound.proper resolver (List.mem_flatMap.mpr ⟨entry, hentry, hresolver⟩)
  unfold Build.emit
  dsimp only
  rw [run_bind_of_ok hmake]
  refine ⟨opened.tree, hopened, Emitting.Writes.bind (.write _) ?_ opened hadmits⟩
  apply Emitting.Writes.silent_bind (.say _)
  apply Emitting.Writes.bind_silent (emitTables_writes output hproper)
  apply Emitting.Writes.silent_bind (.say _)
  exact .pure _

theorem emitted_of_run (hsound : build.IsSound) (hroom : build.document.HasRoom output emission.tree) :
    ∃ after, (build.emit output).run emission = (.ok ((build.artifacts output).map (·.path)), after) ∧
      build.Emitted output emission.tree after.tree := by
  obtain ⟨opened, hopened, after, hrun, hafter⟩ := run_emit hsound hroom
  have hadmits : ∀ file ∈ build.artifacts output, opened.Admits file :=
    fun file hfile => admits_of_opened hroom hopened (hsound.mem_filePaths hfile)
  have hplaces := perm_places hsound output
  refine ⟨after, hrun, ?_, ?_, ?_⟩
  . intro file hfile
    rw [hafter]
    exact entryAt?_putAll_of_mem hadmits
      (hplaces.nodup_iff.mpr (Document.nodup_places hsound.nodup output)) hfile
  . intro place hplace
    rw [hafter, entryAt?_putAll_of_not_mem hadmits, hopened.made place hplace]
    intro hfile
    obtain ⟨path, hpath, rfl⟩ := List.mem_map.mp (hplaces.subset hfile)
    exact hroom.apart path hpath hplace
  . intro place hdirectory hplace
    rw [hafter, entryAt?_putAll_of_not_mem hadmits, hopened.kept place hdirectory]
    exact fun hfile => hplace (hplaces.subset hfile)

namespace Emitted

theorem read? (hemitted : build.Emitted output tree after) (hsound : build.IsSound)
    (hroom : build.document.HasRoom output tree) {file : Artifact} (hfile : file ∈ build.artifacts output) :
    after.read? file.path = some file.text := by
  obtain ⟨hlocated, -⟩ := locate_of_made hroom hemitted.made (hsound.mem_filePaths hfile)
  have hheld : after.entryAt? file.path.resolve = some (.text file.text) := hemitted.held file hfile
  unfold FileTree.read?
  rw [hlocated]
  simp [Except.toOption, hheld]

theorem holds (hemitted : build.Emitted output tree after) (hsound : build.IsSound)
    (hroom : build.document.HasRoom output tree) : build.Holds output after where
  schema := by
    have hschema : build.schemaArtifact output ∈ build.artifacts output := List.mem_cons_self
    have hread := hemitted.read? hsound hroom hschema
    rwa [schemaArtifact] at hread
  resolvers := by
    intro resolver hresolver
    have hfile : ∀ file ∈ resolver.artifacts output, after.read? file.path = some file.text := by
      intro file hfile
      apply hemitted.read? hsound hroom
      exact List.mem_cons_of_mem _ (List.mem_flatMap.mpr ⟨resolver, hresolver, hfile⟩)
    obtain ⟨hrequest, hresponse⟩ := hsound.proper resolver hresolver
    rw [Resolver.artifacts, List.forall_mem_cons, List.forall_mem_singleton] at hfile
    exact ⟨_, _, hrequest.render, hresponse.render, hfile⟩

theorem hasRoom (hemitted : build.Emitted output tree after) (hsound : build.IsSound)
    (hroom : document.HasRoom output tree) : document.HasRoom output after where
  fits := hroom.fits
  clear := by
    intro place hplace entry hentry
    rw [hemitted.made place hplace] at hentry
    exact (Option.some.inj hentry).symm
  free := by
    intro path hpath
    by_cases hfile : path.resolve ∈ (build.document.filePaths output).map (·.resolve)
    . obtain ⟨file, hmem, heq⟩ := List.mem_map.mp ((perm_places hsound output).symm.subset hfile)
      rw [← heq, hemitted.held file hmem]
      simp
    . rw [hemitted.kept _ (hroom.apart path hpath) hfile]
      exact hroom.free path hpath
  apart := hroom.apart

theorem entryAt?_again (hemitted : build.Emitted output tree after) (hsound : build.IsSound) {again : FileTree}
    (hagain : build.Emitted output after again) (place : FilePath) : again.entryAt? place = after.entryAt? place := by
  by_cases hdirectory : place ∈ (resolverDirectory output).places
  . rw [hagain.made place hdirectory, hemitted.made place hdirectory]
  . by_cases hfile : place ∈ (build.document.filePaths output).map (·.resolve)
    . obtain ⟨file, hmem, rfl⟩ := List.mem_map.mp ((perm_places hsound output).symm.subset hfile)
      rw [hagain.held file hmem, hemitted.held file hmem]
    . exact hagain.kept place hdirectory hfile

end Emitted

/--
An emission of a build with a checked document, with room for its files, writes one file for the schema and
two for each field that requests are made to. Each holds its own text, whatever was there before, and all
other files are as they were; and to emit the build again changes nothing.
-/
theorem emit_files (hvalidated : build.IsValidated) (emission : Emission)
    (hroom : build.document.HasRoom output emission.tree) :
    ∃ paths after, (build.emit output).run emission = (.ok paths, after) ∧
      paths.Nodup ∧
      paths.length = 1 + 2 * build.document.requestFields.length ∧
      paths.Perm (build.document.filePaths output) ∧
      paths = output.child "schema.graphql" :: build.allResolvers.flatMap (fun resolver =>
        [resolver.requestPath output, resolver.responsePath output]) ∧
      build.Holds output after.tree ∧
      (∀ place, place ∉ paths.map (·.resolve) →
        after.tree.entryAt? place = emission.tree.entryAt? place ∨
        place ∈ (resolverDirectory output).places ∧ emission.tree.entryAt? place = none ∧
          after.tree.entryAt? place = some .directory) ∧
      ∃ again, (build.emit output).run after = (.ok paths, again) ∧
        ∀ place, again.tree.entryAt? place = after.tree.entryAt? place := by
  have hsound := hvalidated.isSound
  have hperm := perm_filePaths hsound.fields output
  obtain ⟨after, hrun, hemitted⟩ := emitted_of_run hsound hroom
  obtain ⟨again, hrerun, hagain⟩ := emitted_of_run hsound (hemitted.hasRoom hsound hroom)
  refine ⟨_, after, hrun, ?_, ?_, hperm, ?_, ?_, ?_, again, hrerun, ?_⟩
  . exact hperm.nodup_iff.mpr (Document.nodup_filePaths hsound.nodup output)
  . rw [hperm.length_eq, Document.length_filePaths]
  . unfold artifacts
    rw [List.map_cons, List.map_flatMap]
    rfl
  . exact hemitted.holds hsound hroom
  . intro place hplace
    have hfile : place ∉ (build.document.filePaths output).map (·.resolve) :=
      fun hmem => hplace ((hperm.map _).symm.subset hmem)
    by_cases hdirectory : place ∈ (resolverDirectory output).places
    . rw [hemitted.made place hdirectory]
      rcases (hroom.clear place hdirectory).cases with hnone | hthere
      . exact .inr ⟨hdirectory, hnone, rfl⟩
      . exact .inl hthere.symm
    . exact .inl (hemitted.kept place hdirectory hfile)
  . exact hemitted.entryAt?_again hsound hagain

theorem sampleTables_isValidated : (ofTables sampleTables).IsValidated := by
  apply isValidated_ofTables
  . simp [sampleTables]
  . decide
  . decide
  . decide
  . decide

theorem sampleTables_hasRoom : (ofTables sampleTables).document.HasRoom ⟨"", ["out"]⟩ [] := by
  apply Document.hasRoom_nil
  . decide +kernel
  . decide +kernel

theorem emit_files_sampleTables :
    (ofTables sampleTables).IsValidated ∧ (ofTables sampleTables).document.HasRoom ⟨"", ["out"]⟩ [] ∧
      ∃ paths after, ((ofTables sampleTables).emit ⟨"", ["out"]⟩).run { tree := [] } = (.ok paths, after) ∧
        paths.Nodup ∧ paths.length = 25 ∧ (ofTables sampleTables).Holds ⟨"", ["out"]⟩ after.tree := by
  obtain ⟨paths, after, hrun, hpaths, hlength, -, -, hholds, -⟩ :=
    emit_files sampleTables_isValidated { tree := [] } sampleTables_hasRoom
  exact ⟨sampleTables_isValidated, sampleTables_hasRoom, paths, after, hrun, hpaths, hlength, hholds⟩

def longName : String :=
  String.ofList (List.replicate 250 'a')

theorem longName_isName : IsName longName := by
  unfold IsName longName
  rw [String.toList_ofList]
  decide +kernel

/-- Without room an emission fails: a file is where the directory of the resolvers is to be made, a directory
is made where the schema is to be written, or the names of files are too long. -/
theorem emit_fails :
    (ofTables sampleTables).IsValidated ∧
      (((ofTables sampleTables).emit ⟨"", ["out"]⟩).run
        { tree := [(⟨"", ["out"]⟩, .directory), (⟨"", ["out", "resolvers"]⟩, .text "")] }).1.isOk = false ∧
      (((ofTables sampleTables).emit ⟨"", ["out", "schema.graphql", ".."]⟩).run { tree := [] }).1.isOk = false ∧
    (ofTables [keyTable longName]).IsValidated ∧
      (((ofTables [keyTable longName]).emit ⟨"", ["out"]⟩).run { tree := [] }).1.isOk = false := by
  refine ⟨sampleTables_isValidated, ?_, ?_, isValidated_keyTable longName_isName ?_, ?_⟩
  . decide +kernel
  . decide +kernel
  . decide +kernel
  . decide +kernel

end Build
end TableGraph
