import TableGraph.Text.ClusterTable

/-!
Clusters of characters: what is read as one character, such as a letter with its accents, a syllable of
Hangul, consonants that are linked, the two letters of a flag, and pictographs that are joined. Clusters
are looked for in one line, so no line break is in them.
-/

namespace TableGraph.Text

/-- What matters of a character, or of a cluster up to some character, for what comes after it. -/
inductive ClusterClass where
  | other
  | control
  | extend
  | joiner
  | spacingMark
  | prepend
  | regional
  | leading
  | vowel
  | trailing
  | openSyllable
  | closedSyllable
  | pictograph
  | joinedPictograph
  deriving DecidableEq, Repr

def clusterClass (c : Char) : ClusterClass :=
  let n := c.toNat
  if n == 0x200D then .joiner
  else if isWithin extendRanges c then .extend
  else if isWithin controlRanges c then .control
  else if isWithin spacingMarkRanges c then .spacingMark
  else if isWithin prependRanges c then .prepend
  else if isWithin pictographRanges c then .pictograph
  else if isWithin [(0x1F1E6, 0x1F1FF)] c then .regional
  else if isWithin [(0x1100, 0x115F), (0xA960, 0xA97C)] c then .leading
  else if isWithin [(0x1160, 0x11A7), (0xD7B0, 0xD7C6)] c then .vowel
  else if isWithin [(0x11A8, 0x11FF), (0xD7CB, 0xD7FB)] c then .trailing
  else if isWithin [(0xAC00, 0xD7A3)] c then
    if (n - 0xAC00) % 28 == 0 then .openSyllable else .closedSyllable
  else .other

namespace ClusterClass

def continues : ClusterClass → ClusterClass → Bool
  | .control, _ => false
  | _, .control => false
  | _, .extend => true
  | _, .joiner => true
  | _, .spacingMark => true
  | .prepend, _ => true
  | .leading, c => c == .leading || c == .vowel || c == .openSyllable || c == .closedSyllable
  | .openSyllable, c => c == .vowel || c == .trailing
  | .vowel, c => c == .vowel || c == .trailing
  | .closedSyllable, c => c == .trailing
  | .trailing, c => c == .trailing
  | .joinedPictograph, c => c == .pictograph
  | .regional, c => c == .regional
  | _, _ => false

/-- The class of a cluster with one more character. Regional letters go in pairs. -/
def next : ClusterClass → ClusterClass → ClusterClass
  | .regional, .regional => .other
  | .pictograph, .extend => .pictograph
  | .pictograph, .joiner => .joinedPictograph
  | _, c => c

end ClusterClass

/-- What matters of a character, or of a cluster up to some character, for linked consonants. In a cluster
`linker` says that one has come since the last consonant. -/
inductive Conjunct where
  | other
  | consonant
  | extend
  | linker
  deriving DecidableEq, Repr

def conjunctOf (c : Char) : Conjunct :=
  if isWithin linkerRanges c then .linker
  else if isWithin consonantRanges c then .consonant
  else if c != '\u200c' && (clusterClass c == .extend || clusterClass c == .joiner) then .extend
  else .other

def Conjunct.next : Conjunct → Conjunct → Conjunct
  | _, .consonant => .consonant
  | .consonant, c => c
  | .extend, c => c
  | .linker, .extend => .linker
  | .linker, c => c
  | .other, _ => .other

structure OpenCluster where
  last : ClusterClass
  conjunct : Conjunct
  deriving DecidableEq, Repr

namespace OpenCluster

def start (c : Char) : OpenCluster :=
  ⟨clusterClass c, if conjunctOf c == .consonant then .consonant else .other⟩

def takes (cluster : OpenCluster) (c : Char) : Bool :=
  cluster.last.continues (clusterClass c) ||
    (cluster.conjunct == .linker && conjunctOf c == .consonant)

def push (cluster : OpenCluster) (c : Char) : OpenCluster :=
  ⟨cluster.last.next (clusterClass c), cluster.conjunct.next (conjunctOf c)⟩

end OpenCluster

/-- The clusters from within one; `run` holds its characters backwards. -/
def clustersFrom (cluster : OpenCluster) (run : List Char) : List Char → List (List Char)
  | [] => [run.reverse]
  | c :: rest =>
    if cluster.takes c then clustersFrom (cluster.push c) (c :: run) rest
    else run.reverse :: clustersFrom (.start c) [c] rest

def clusters : List Char → List (List Char)
  | [] => []
  | c :: rest => clustersFrom (.start c) [c] rest

end TableGraph.Text
