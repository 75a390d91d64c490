import TableGraph.Build
import TableGraph.FileTree
import TableGraph.Template.Printer

/-!
Emission: writing the files of a build, its schema and for each resolver one file with the request
template and one with the response template. They are laid out below an output directory as
`schema.graphql` and `resolvers/<type>.<field>.req.vtl` and `.res.vtl`.

The first step that fails ends an emission. What was made and written before it stays.
-/

namespace TableGraph

inductive EmissionStep where
  | makeDirectory (path : FilePath)
  | write (file : Artifact)
  | say (line : LogLine)
  deriving DecidableEq, Repr

structure Emission where
  tree : FileTree
  steps : List EmissionStep := []

def Emission.log (emission : Emission) : Log :=
  emission.steps.filterMap fun
    | .say line => some line
    | _ => none

abbrev Emitting (α : Type) :=
  ExceptT Failure (StateM Emission) α

namespace Emitting

def say (lines : Log) : Emitting Unit :=
  fun emission => (.ok (), { emission with steps := emission.steps ++ lines.map .say })

def write (file : Artifact) : Emitting Unit :=
  fun emission =>
    match emission.tree.write file with
    | .ok tree => (.ok (), ⟨tree, emission.steps ++ [.write file]⟩)
    | .error problem => (.error (problem.failure file.path), emission)

/-- Makes one directory; a problem with it does not interrupt what follows. -/
def makeDirectory (path : FilePath) : Emitting (Option PathProblem) :=
  fun emission =>
    match emission.tree.makeDirectory path with
    | .ok tree => (.ok none, ⟨tree, emission.steps ++ [.makeDirectory path]⟩)
    | .error problem => (.ok (some problem), emission)

def settle (path : FilePath) (problem? : Option PathProblem) : Emitting Unit :=
  fun emission =>
    match problem? with
    | none => (.ok (), emission)
    | some problem =>
      if emission.tree.isDirectory path then (.ok (), emission)
      else (.error (problem.failure path), emission)

def makeDirectories (root : String) : (names : List String) → Emitting Unit
  | [] => do
    let path : FilePath := ⟨root, []⟩
    settle path (← makeDirectory path)
  | name :: above => do
    let path : FilePath := ⟨root, (name :: above).reverse⟩
    match ← makeDirectory path with
    | some .missing =>
      makeDirectories root above
      settle path (← makeDirectory path)
    | problem? => settle path problem?

def rendered (template : Template) : Emitting String :=
  match template.render with
  | .ok text => return text
  | .error problem => throw problem.failure

end Emitting

def resolverDirectory (output : FilePath) : FilePath :=
  output.child "resolvers"

namespace Resolver

def fileStem (resolver : Resolver) : String :=
  resolver.type ++ "." ++ resolver.field

def requestPath (resolver : Resolver) (output : FilePath) : FilePath :=
  (resolverDirectory output).child (resolver.fileStem ++ ".req.vtl")

def responsePath (resolver : Resolver) (output : FilePath) : FilePath :=
  (resolverDirectory output).child (resolver.fileStem ++ ".res.vtl")

def emit (resolver : Resolver) (output : FilePath) : Emitting (List FilePath) := do
  let request ← Emitting.rendered resolver.request
  Emitting.write ⟨resolver.requestPath output, request ++ "\n"⟩
  let response ← Emitting.rendered resolver.response
  Emitting.write ⟨resolver.responsePath output, response ++ "\n"⟩
  return [resolver.requestPath output, resolver.responsePath output]

def emitEach (output : FilePath) : List Resolver → Emitting (List FilePath)
  | [] => return []
  | resolver :: resolvers => do
    let paths ← resolver.emit output
    let rest ← emitEach output resolvers
    return paths ++ rest

end Resolver

namespace Build

def schemaArtifact (build : Build) (output : FilePath) : Artifact :=
  ⟨output.child "schema.graphql", build.document.print ++ "\n"⟩

def emitTables (output : FilePath) :
    List (String × List (Operation × Resolver)) → Emitting (List FilePath)
  | [] => return []
  | (table, resolvers) :: tables => do
    let paths ← Resolver.emitEach output (resolvers.map (·.2))
    Emitting.say [⟨.debug, .artifacts,
      "Wrote " ++ toString resolvers.length ++ " resolvers for table '" ++ table ++ "'"⟩]
    let rest ← emitTables output tables
    return paths ++ rest

def emit (build : Build) (output : FilePath) : Emitting (List FilePath) := do
  let directory := resolverDirectory output
  Emitting.makeDirectories directory.root directory.parts.reverse
  let schema := build.schemaArtifact output
  Emitting.write schema
  Emitting.say build.skippedResolvers
  let paths := schema.path :: (← emitTables output build.resolvers)
  Emitting.say [⟨.info, .artifacts,
    "Wrote " ++ toString paths.length ++ " files to " ++ output.toString⟩]
  return paths

end Build

end TableGraph
