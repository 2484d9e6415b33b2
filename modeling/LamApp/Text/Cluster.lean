import LamApp.Text.ClusterClass

/-!
# Clusters

A text as a list of clusters, each of them one character to its reader. Whether
a character goes on with the cluster in front of it depends on the class of the
character before, and in three cases on what is further in front:

* a consonant goes on with consonants if a mark between them joins them;
* a pictograph goes on behind a joiner that follows a pictograph;
* the second half of a flag goes on with the first one.

Main statement: joined again, the clusters are the text.
-/

namespace LamApp
namespace Text

/-- How far a sequence has come that a further character may go on with. -/
inductive Progress where
  /-- There is no such sequence. -/
  | none
  | begun
  /-- What joins the next character was read. -/
  | joined
deriving DecidableEq

/-- What has to be known of the text in front of a character. -/
structure ClusterContext where
  last : ClusterClass
  /-- Joined consonants. -/
  consonants : Progress
  /-- Joined pictographs. -/
  pictographs : Progress
  /-- The last character is the first half of a flag. -/
  halfFlag : Bool

namespace ClusterContext

/-- Nothing holds to the beginning of a text, as nothing holds to a control
character. -/
def start : ClusterContext :=
  ⟨.control, .none, .none, false⟩

/-- Joined consonants, behind one more character. -/
def consonantsWith (progress : Progress) : ClusterClass → Progress
  | .consonant => .begun
  | .linker => if progress = .none then .none else .joined
  | .extending => progress
  | .joiner => progress
  | _ => .none

/-- Joined pictographs, behind one more character. -/
def pictographsWith (progress : Progress) : ClusterClass → Progress
  | .pictograph => .begun
  | .extending | .linker | .nonJoiner =>
    if progress = .begun then .begun else .none
  | .joiner => if progress = .begun then .joined else .none
  | _ => .none

/-- The context behind one more character. -/
def next (context : ClusterContext) (c : ClusterClass) : ClusterContext where
  last := c
  consonants := consonantsWith context.consonants c
  pictographs := pictographsWith context.pictographs c
  halfFlag := c = .regional && !context.halfFlag

/-- The class is one of control characters and line ends. -/
def breaks : ClusterClass → Bool
  | .carriageReturn | .lineFeed | .control => true
  | _ => false

/-- Two parts of one syllable. -/
def sameSyllable : ClusterClass → ClusterClass → Bool
  | .leadingConsonant, .leadingConsonant => true
  | .leadingConsonant, .vowel => true
  | .leadingConsonant, .openSyllable => true
  | .leadingConsonant, .closedSyllable => true
  | .openSyllable, .vowel => true
  | .openSyllable, .trailingConsonant => true
  | .vowel, .vowel => true
  | .vowel, .trailingConsonant => true
  | .closedSyllable, .trailingConsonant => true
  | .trailingConsonant, .trailingConsonant => true
  | _, _ => false

/-- A character of the class goes on with the cluster in front of it. -/
def continues (context : ClusterContext) (c : ClusterClass) : Bool :=
  if context.last = .carriageReturn && c = .lineFeed then
    true
  else if breaks context.last || breaks c then
    false
  else
    match c with
    | .extending | .linker | .nonJoiner | .joiner | .spacing => true
    | _ =>
      context.last = .preceding || sameSyllable context.last c ||
        (c = .consonant && context.consonants = .joined) ||
        (c = .pictograph && context.pictographs = .joined) ||
        (c = .regional && context.halfFlag)

end ClusterContext

/-- The clusters of a text, of which the first one has begun with some
characters, last one first. -/
def clustersFrom (context : ClusterContext) (begun : List Char) :
    List Char → List (List Char)
  | [] => [begun.reverse]
  | c :: cs =>
    let kind := ClusterClass.ofChar c
    if context.continues kind then
      clustersFrom (context.next kind) (c :: begun) cs
    else
      begun.reverse :: clustersFrom (context.next kind) [c] cs

/-- The clusters of a text. -/
def clusters : List Char → List (List Char)
  | [] => []
  | c :: cs =>
    clustersFrom (ClusterContext.start.next (ClusterClass.ofChar c)) [c] cs

theorem flatten_clustersFrom
    (context : ClusterContext) (begun cs : List Char) :
    (clustersFrom context begun cs).flatten = begun.reverse ++ cs := by
  induction cs generalizing context begun with
  | nil => simp [clustersFrom]
  | cons c cs ih =>
    by_cases h : context.continues (ClusterClass.ofChar c) = true
    · simp [clustersFrom, h, ih]
    · simp [clustersFrom, h, ih]

/-- Joined again, the clusters are the text. -/
theorem flatten_clusters (cs : List Char) : (clusters cs).flatten = cs := by
  cases cs with
  | nil => rfl
  | cons c cs => simp [clusters, flatten_clustersFrom]

end Text
end LamApp
