import TableGraph.Emission
import TableGraph.Proofs.Files.Tree
import TableGraph.Proofs.Program
import TableGraph.Proofs.Template.Rendering

/-!
What the programs of an emission write: they return wherever their files are admitted, and leave a tree with
these files.
-/

namespace TableGraph

open FileTree

namespace Emitting

variable {α β : Type}

def Writes (program : Emitting α) (files : List Artifact) (value : α) : Prop :=
  ∀ emission : Emission, (∀ file ∈ files, emission.tree.Admits file) →
    ∃ after, program.run emission = (.ok value, after) ∧ after.tree = emission.tree.putAll files

namespace Writes

theorem pure (value : α) : Writes (Pure.pure value) [] value :=
  fun emission _ => ⟨emission, rfl, rfl⟩

theorem say (lines : Log) : Writes (Emitting.say lines) [] () :=
  fun _ _ => ⟨_, rfl, rfl⟩

theorem write (file : Artifact) : Writes (Emitting.write file) [file] () := by
  intro emission hfile
  have hwrite := (hfile file (List.mem_singleton_self file)).write
  have hrun : Emitting.write file emission
      = (.ok (), ⟨emission.tree.put file.place (.text file.text), emission.steps ++ [.write file]⟩) := by
    unfold Emitting.write
    rw [hwrite]
  exact ⟨_, hrun, rfl⟩

theorem rendered {template : Template} (hproper : template.IsProper) :
    Writes (Emitting.rendered template) [] template.rendering := by
  unfold Emitting.rendered
  rw [hproper.render]
  exact pure _

variable {program : Emitting α} {next : α → Emitting β} {files later : List Artifact} {value : α} {last : β}

theorem bind (hprogram : Writes program files value) (hnext : Writes (next value) later last) :
    Writes (program >>= next) (files ++ later) last := by
  intro emission hfiles
  rw [List.forall_mem_append] at hfiles
  obtain ⟨middle, hfirst, hmiddle⟩ := hprogram emission hfiles.left
  obtain ⟨after, hsecond, hafter⟩ := hnext middle (by
    rw [hmiddle]
    exact fun file hfile => admits_putAll hfiles.left (hfiles.right file hfile))
  refine ⟨after, ?_, ?_⟩
  . rw [run_bind_of_ok hfirst, hsecond]
  . rw [hafter, hmiddle, putAll_append]

theorem silent_bind (hprogram : Writes program [] value) (hnext : Writes (next value) later last) :
    Writes (program >>= next) later last :=
  bind hprogram hnext

theorem bind_silent (hprogram : Writes program files value) (hnext : Writes (next value) [] last) :
    Writes (program >>= next) files last := by
  rw [← List.append_nil files]
  exact bind hprogram hnext

end Writes
end Emitting

open Emitting (Writes)

namespace Resolver

def artifacts (resolver : Resolver) (output : FilePath) : List Artifact :=
  [⟨resolver.requestPath output, resolver.request.rendering ++ "\n"⟩,
   ⟨resolver.responsePath output, resolver.response.rendering ++ "\n"⟩]

variable (output : FilePath)

theorem IsProper.emit {resolver : Resolver} (hproper : resolver.IsProper) :
    Writes (resolver.emit output) (resolver.artifacts output) ((resolver.artifacts output).map (·.path)) := by
  unfold Resolver.emit
  apply Writes.silent_bind (.rendered hproper.request)
  apply Writes.bind (.write _)
  apply Writes.silent_bind (.rendered hproper.response)
  exact Writes.bind (.write _) (.pure _)

theorem emitEach_writes {resolvers : List Resolver} (hproper : ∀ resolver ∈ resolvers, resolver.IsProper) :
    Writes (emitEach output resolvers) (resolvers.flatMap (·.artifacts output))
      ((resolvers.flatMap (·.artifacts output)).map (·.path)) := by
  induction resolvers with
  | nil => exact .pure _
  | cons resolver resolvers ih =>
    rw [List.forall_mem_cons] at hproper
    rw [List.flatMap_cons, List.map_append]
    exact Writes.bind (hproper.left.emit output) ((ih hproper.right).bind_silent (.pure _))

end Resolver

namespace Build

/-- The resolvers of a build without regard to their tables. -/
def allResolvers (build : Build) : List Resolver :=
  build.resolvers.flatMap fun entry => entry.2.map (·.2)

def artifacts (build : Build) (output : FilePath) : List Artifact :=
  build.schemaArtifact output :: build.allResolvers.flatMap (·.artifacts output)

theorem emitTables_writes (output : FilePath) {entries : List (String × List (Operation × Resolver))}
    (hproper : ∀ entry ∈ entries, ∀ resolver ∈ entry.2.map (·.2), resolver.IsProper) :
    Writes (emitTables output entries)
      ((entries.flatMap fun entry => entry.2.map (·.2)).flatMap (·.artifacts output))
      (((entries.flatMap fun entry => entry.2.map (·.2)).flatMap (·.artifacts output)).map (·.path)) := by
  induction entries with
  | nil => exact .pure _
  | cons entry entries ih =>
    obtain ⟨table, resolvers⟩ := entry
    rw [List.forall_mem_cons] at hproper
    rw [List.flatMap_cons, List.flatMap_append, List.map_append]
    apply Writes.bind (Resolver.emitEach_writes output hproper.left)
    apply Writes.silent_bind (.say _)
    exact (ih hproper.right).bind_silent (.pure _)

end Build

end TableGraph
