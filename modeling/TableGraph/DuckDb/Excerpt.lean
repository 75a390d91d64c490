import TableGraph.DuckDb.Query
import TableGraph.Text.Width

/-!
Excerpts of queries under the texts of errors: the line in which the error is, and marks below what it is
about.
-/

namespace TableGraph.DuckDb

def excerptWidth : Nat := 60

def excerptSlack : Nat := 3

def clustersBelow (width : Nat) : List (List Char) → Nat
  | [] => 0
  | cluster :: rest =>
    if width ≤ Text.clusterWidth cluster then 0
    else clustersBelow (width - Text.clusterWidth cluster) rest + 1

def isInWord (cluster : List Char) : Bool :=
  cluster.head?.any fun c => c.isAlphanum || c == '_' || 0x80 ≤ c.toNat

def wordEndsAfter (clusters : List (List Char)) (count : Nat) : Bool :=
  (clusters[count - 1]?.any isInWord) && clusters[count]?.any (!isInWord ·)

/-- How many clusters are shown of a line that is too wide to show more than `fitting` of them: up to the
next end of a word, or else the last one, if it is near. -/
def breakAt (clusters : List (List Char)) (fitting : Nat) : Nat :=
  let wordEnds := ((List.range clusters.length).drop 1).filter (wordEndsAfter clusters)
  let widthOf := fun count => Text.totalWidth (clusters.take count)
  let next := wordEnds.find? fun count =>
    fitting ≤ count && widthOf count < excerptWidth + excerptSlack
  let last := wordEnds.reverse.find? fun count =>
    count < fitting && excerptWidth ≤ widthOf count + excerptSlack
  (next.or last).getD fitting

def shownAfter (clusters : List (List Char)) : List (List Char) :=
  let fitting := clustersBelow excerptWidth clusters
  if fitting < clusters.length then clusters.take (breakAt clusters fitting) else clusters

def excerpt (sql : String) (position : Nat) : String :=
  let clusters := Text.clusters (sql.toList.takeWhile fun c => c != '\n' && c != '\r')
  let before := clusters.take position
  let after := clusters.drop position
  let shown := shownAfter after
  let dots := if shown.length < after.length then "..." else ""
  let indent := "LINE 1: ".length + Text.totalWidth before
  "LINE 1: " ++ String.ofList (before ++ shown).flatten ++ dots ++ "\n" ++
    String.ofList
      (List.replicate indent ' ' ++ List.replicate (Text.totalWidth shown) '^')

/-- Where the function that lists columns stands in the statement that its query is short for. -/
def tableFunctionPosition : Nat := "SELECT * FROM ".length

def withExcerpt (query : Query) : Failure → Failure
  | .other className text =>
    .other className (text ++ "\n\n" ++ excerpt query.sql tableFunctionPosition)
  | failure => failure

end TableGraph.DuckDb
