import TableGraph.Proofs.Build.Agreement
import TableGraph.Proofs.Emission.Writes

/-!
The paths of the files of a document: its own and two for each field that requests are made to. No two of
them are the same, and none leads to the place of another one.
-/

namespace TableGraph

open FilePath

def resolverFiles (field : String × String) : List String :=
  [field.1 ++ "." ++ field.2 ++ ".req.vtl", field.1 ++ "." ++ field.2 ++ ".res.vtl"]

section Names

variable {field other : String × String} {name : String}

theorem isProperName_append (stem : String) {ending : String} (hending : 2 < ending.toList.length) :
    IsProperName (stem ++ ending) := by
  have hlong : ∀ name : String, stem ++ ending = name → 2 < name.toList.length := by
    rintro _ rfl
    rw [String.toList_append, List.length_append]
    omega
  constructor
  . intro heq
    exact absurd (hlong _ heq) (by decide)
  . intro heq
    exact absurd (hlong _ heq) (by decide)

theorem isProperName_of_mem_resolverFiles (hname : name ∈ resolverFiles field) : IsProperName name := by
  simp only [resolverFiles, List.mem_cons, List.not_mem_nil, or_false] at hname
  rcases hname with rfl | rfl
  . exact isProperName_append _ (by decide)
  . exact isProperName_append _ (by decide)

theorem fileStem_inj (hfield : field.1 ∈ ["Query", "Mutation"]) (hother : other.1 ∈ ["Query", "Mutation"])
    (heq : field.1 ++ "." ++ field.2 = other.1 ++ "." ++ other.2) : field = other := by
  obtain ⟨type, field⟩ := field
  obtain ⟨otherType, other⟩ := other
  dsimp only at hfield hother heq
  have hstart : ∀ type field : String, type.toList <+: (type ++ "." ++ field).toList := by
    intro type field
    rw [String.append_assoc, String.toList_append]
    apply List.prefix_append
  have htype : type = otherType := by
    simp only [List.mem_cons, List.not_mem_nil, or_false] at hfield hother
    rcases hfield with rfl | rfl
    . rcases hother with rfl | rfl
      . rfl
      . exact absurd heq (ne_of_starts (hstart _ _) (hstart _ _) (by decide) (by decide))
    . rcases hother with rfl | rfl
      . exact absurd heq (ne_of_starts (hstart _ _) (hstart _ _) (by decide) (by decide))
      . rfl
  rw [htype, String.append_right_inj] at heq
  rw [htype, heq]

theorem request_ne_response (stem otherStem : String) : stem ++ ".req.vtl" ≠ otherStem ++ ".res.vtl" :=
  ne_of_suffix (suffix_append stem ".req.vtl") (suffix_append otherStem ".res.vtl") (by decide) (by decide)

theorem nodup_resolverFiles (field : String × String) : (resolverFiles field).Nodup := by
  simp only [resolverFiles, List.nodup_cons, List.mem_cons, List.not_mem_nil, or_false,
    not_false_eq_true, List.nodup_nil, and_true]
  apply request_ne_response

theorem disjoint_resolverFiles (hfield : field.1 ∈ ["Query", "Mutation"])
    (hother : other.1 ∈ ["Query", "Mutation"]) (hne : field ≠ other) :
    (resolverFiles field).Disjoint (resolverFiles other) := by
  intro name hname hname'
  simp only [resolverFiles, List.mem_cons, List.not_mem_nil, or_false] at hname hname'
  rcases hname with rfl | rfl
  . rcases hname' with h | h
    . exact hne (fileStem_inj hfield hother (String.append_left_inj _ |>.mp h))
    . exact request_ne_response _ _ h
  . rcases hname' with h | h
    . exact request_ne_response _ _ h.symm
    . exact hne (fileStem_inj hfield hother (String.append_left_inj _ |>.mp h))

end Names

namespace Document

def fieldNames (document : Document) : List (String × String) :=
  document.requestFields.map fun entry => (entry.1, entry.2.name)

def resolverNames (document : Document) : List String :=
  document.fieldNames.flatMap resolverFiles

def filePaths (document : Document) (output : FilePath) : List FilePath :=
  output.child "schema.graphql" :: document.resolverNames.map (resolverDirectory output).child

variable {document : Document} {output : FilePath}

theorem root_of_mem_fieldNames {field : String × String} (hfield : field ∈ document.fieldNames) :
    field.1 ∈ ["Query", "Mutation"] := by
  simp only [fieldNames, requestFields, fieldsIn, List.map_append, List.map_map, List.mem_append, List.mem_map,
    Function.comp_apply] at hfield
  rcases hfield with ⟨_, -, rfl⟩ | ⟨_, -, rfl⟩
  . exact List.mem_cons_self
  . exact List.mem_cons_of_mem _ (List.mem_singleton_self _)

theorem nodup_resolverNames (hfields : document.fieldNames.Nodup) : document.resolverNames.Nodup := by
  unfold resolverNames
  rw [List.nodup_flatMap]
  refine ⟨fun field _ => nodup_resolverFiles field, ?_⟩
  apply List.Pairwise.imp_of_mem _ hfields
  intro field other hfield hother hne
  exact disjoint_resolverFiles (root_of_mem_fieldNames hfield) (root_of_mem_fieldNames hother) hne

theorem length_resolverNames (document : Document) :
    document.resolverNames.length = 2 * document.requestFields.length := by
  unfold resolverNames
  have hsum : ∀ fields : List (String × String), (fields.flatMap resolverFiles).length = 2 * fields.length := by
    intro fields
    induction fields with
    | nil => rfl
    | cons field fields ih =>
      rw [List.flatMap_cons, List.length_append, ih, List.length_cons]
      simp only [resolverFiles, List.length_cons, List.length_nil]
      omega
  rw [hsum, fieldNames, List.length_map]

theorem length_filePaths (document : Document) (output : FilePath) :
    (document.filePaths output).length = 1 + 2 * document.requestFields.length := by
  rw [filePaths, List.length_cons, List.length_map, length_resolverNames]
  omega

theorem isProperName_schema : IsProperName "schema.graphql" := by
  constructor
  . decide
  . decide

theorem resolve_resolverDirectory (output : FilePath) :
    (resolverDirectory output).resolve = output.resolve.child "resolvers" := by
  apply resolve_child_of_isProperName
  constructor
  . decide
  . decide

theorem mem_filePaths {path : FilePath} (hpath : path ∈ document.filePaths output) :
    ∃ directory name, path = directory.child name ∧ IsProperName name ∧
      (directory = output ∨ directory = resolverDirectory output) := by
  rcases List.mem_cons.mp hpath with rfl | hmem
  . exact ⟨output, _, rfl, isProperName_schema, .inl rfl⟩
  . obtain ⟨name, hname, rfl⟩ := List.mem_map.mp hmem
    obtain ⟨field, -, hfile⟩ := List.mem_flatMap.mp hname
    exact ⟨_, name, rfl, isProperName_of_mem_resolverFiles hfile, .inr rfl⟩

theorem places_filePaths (document : Document) (output : FilePath) :
    (document.filePaths output).map (·.resolve)
      =
    output.resolve.child "schema.graphql" ::
      document.resolverNames.map (output.resolve.child "resolvers").child := by
  unfold filePaths
  rw [List.map_cons, List.map_map, resolve_child_of_isProperName isProperName_schema]
  congr 1
  apply List.map_congr_left
  intro name hname
  obtain ⟨field, -, hfile⟩ := List.mem_flatMap.mp hname
  rw [Function.comp_apply, resolve_child_of_isProperName (isProperName_of_mem_resolverFiles hfile),
    resolve_resolverDirectory]

theorem schema_not_mem (directory : FilePath) (names : List String) :
    directory.child "schema.graphql" ∉ names.map (directory.child "resolvers").child := by
  intro hmem
  obtain ⟨name, -, heq⟩ := List.mem_map.mp hmem
  have hlength := congrArg (·.parts.length) heq
  simp [child] at hlength

theorem nodup_children (directory : FilePath) {names : List String} (hnames : names.Nodup) :
    (names.map directory.child).Nodup :=
  hnames.map fun _ _ heq => (child_inj.mp heq).right

theorem nodup_filePaths (hfields : document.fieldNames.Nodup) (output : FilePath) :
    (document.filePaths output).Nodup :=
  List.nodup_cons.mpr ⟨schema_not_mem output _, nodup_children _ (nodup_resolverNames hfields)⟩

theorem nodup_places (hfields : document.fieldNames.Nodup) (output : FilePath) :
    ((document.filePaths output).map (·.resolve)).Nodup := by
  rw [places_filePaths]
  exact List.nodup_cons.mpr ⟨schema_not_mem _ _, nodup_children _ (nodup_resolverNames hfields)⟩

end Document

namespace Build

theorem artifacts_paths (build : Build) (output : FilePath) :
    (build.artifacts output).map (·.path)
      =
    output.child "schema.graphql" ::
      (build.resolvedFields.flatMap resolverFiles).map (resolverDirectory output).child := by
  unfold artifacts allResolvers resolvedFields
  simp only [List.map_cons, List.map_flatMap, List.flatMap_map, List.flatMap_assoc]
  rfl

theorem perm_filePaths {build : Build}
    (hfields : build.resolvedFields.Perm build.document.fieldNames) (output : FilePath) :
    ((build.artifacts output).map (·.path)).Perm (build.document.filePaths output) := by
  rw [artifacts_paths]
  apply List.Perm.cons
  apply List.Perm.map
  exact hfields.flatMap_right _

end Build
end TableGraph
