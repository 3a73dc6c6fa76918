import RelStore.Text.GraphemeClass

/-!
# Grapheme clusters

A text is cut into clusters, what a reader takes for single characters: a letter with its marks, a
flag, a syllable, a family of connected pictographs.  Between two characters there is a cut unless a
rule keeps them together, and the rules look at most at the cluster before the second.

| kept together | by |
| --- | --- |
| a carriage return and a line feed, jamo of one syllable, a mark after anything | `keepsPair` |
| a sign and what it precedes | `keepsPair` |
| the consonants of a conjunct | `endsInLinkedConsonant` |
| pictographs about a joiner | `endsInJoinedPictograph` |
| two regional indicators | `endsInLoneRegional` |
-/

namespace RelStore.Text

/-- Whether there is never a cut between characters of the two classes. -/
def keepsPair (before after : GraphemeClass) : Bool :=
  match before, after with
  | .carriageReturn, .lineFeed => true
  | .carriageReturn, _ | .lineFeed, _ | .control, _ => false
  | _, .carriageReturn | _, .lineFeed | _, .control => false
  | _, .extend | _, .joiner | _, .spacingMark => true
  | .prepended, _ => true
  | .leadingJamo, .leadingJamo | .leadingJamo, .vowelJamo => true
  | .leadingJamo, .openSyllable | .leadingJamo, .closedSyllable => true
  | .openSyllable, .vowelJamo | .openSyllable, .trailingJamo => true
  | .vowelJamo, .vowelJamo | .vowelJamo, .trailingJamo => true
  | .closedSyllable, .trailingJamo | .trailingJamo, .trailingJamo => true
  | _, _ => false

/-- Whether a cluster, last character first, ends in a consonant and marks with a linker among
them. -/
def endsInLinkedConsonant (cluster : List Char) : Bool :=
  (cluster.takeWhile isConjunctMark).any isLinker &&
    (cluster.dropWhile isConjunctMark).head?.map GraphemeClass.ofChar == some .consonant

/-- Whether a cluster, last character first, ends in a pictograph, marks and a joiner. -/
def endsInJoinedPictograph (cluster : List Char) : Bool :=
  match cluster with
  | [] => false
  | c :: rest =>
    GraphemeClass.ofChar c == .joiner &&
      (rest.dropWhile (GraphemeClass.ofChar · == .extend)).head?.map GraphemeClass.ofChar ==
        some .pictograph

/-- Whether a cluster, last character first, ends in an odd number of regional indicators. -/
def endsInLoneRegional (cluster : List Char) : Bool :=
  (cluster.takeWhile (GraphemeClass.ofChar · == .regional)).length % 2 == 1

/-- Whether a character goes on with a cluster, which is given last character first. -/
def continuesCluster (cluster : List Char) (c : Char) : Bool :=
  let after := GraphemeClass.ofChar c
  cluster.head?.any (fun last => keepsPair (.ofChar last) after) ||
    (after == .consonant && endsInLinkedConsonant cluster) ||
    (after == .pictograph && endsInJoinedPictograph cluster) ||
    (after == .regional && endsInLoneRegional cluster)

/-- The clusters of the characters after a cluster begun, which is given last character first. -/
def clustersAfter (cluster : List Char) : List Char → List (List Char)
  | [] => [cluster.reverse]
  | c :: cs =>
    if continuesCluster cluster c then clustersAfter (c :: cluster) cs
    else cluster.reverse :: clustersAfter [c] cs

/-- The clusters of the characters, in order. -/
def clusters : List Char → List (List Char)
  | [] => []
  | c :: cs => clustersAfter [c] cs

theorem flatten_clustersAfter (cluster cs : List Char) :
    (clustersAfter cluster cs).flatten = cluster.reverse ++ cs := by
  induction cs generalizing cluster with
  | nil => simp [clustersAfter]
  | cons c cs ih =>
    simp only [clustersAfter]
    split
    · simp [ih]
    · simp [ih]

/-- No character is lost or moved by cutting. -/
@[simp] theorem flatten_clusters (cs : List Char) : (clusters cs).flatten = cs := by
  cases cs with
  | nil => rfl
  | cons c cs => simp [clusters, flatten_clustersAfter]

end RelStore.Text
