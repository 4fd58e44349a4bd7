import ScriptTree.Text.Joining

/-!
Clusters: the pieces of text that a reader takes for single characters, by the rules for extended
grapheme clusters.
-/

namespace ScriptTree.Text

/-- How far a chain of consonants and viramas has come. -/
inductive Linking where
  | none
  | consonant
  | virama
deriving DecidableEq, Repr

/-- How far a chain of joined pictographs has come. -/
inductive Chaining where
  | none
  /-- It ends in a pictograph and marks on it. -/
  | pictograph
  /-- It ends in a joiner behind these. -/
  | joiner
deriving DecidableEq, Repr

/-- What the rules need to know about the cluster in front of a character. -/
structure ClusterEnd where
  last : Joining
  chaining : Chaining
  /-- Whether the cluster ends in an odd number of regional indicators. -/
  oddRegional : Bool
  linking : Linking
deriving DecidableEq, Repr

namespace ClusterEnd

/-- The end of a cluster of one character. -/
def start (c : Char) : ClusterEnd where
  last := joining c
  chaining := if isPictographic c then .pictograph else .none
  oddRegional := joining c == .regional
  linking := if linkedConsonantRanges.contains c then .consonant else .none

/-- The end of the cluster after one more character. -/
def after (before : ClusterEnd) (c : Char) : ClusterEnd where
  last := joining c
  chaining :=
    if isPictographic c then .pictograph
    else if before.chaining = .pictograph then
      if joining c = .extend then .pictograph
      else if joining c = .joiner then .joiner
      else .none
    else .none
  oddRegional := joining c == .regional && !before.oddRegional
  linking :=
    if linkedConsonantRanges.contains c then .consonant
    else if before.linking = .none then .none
    else if viramaRanges.contains c then .virama
    else if (joining c == .extend && c.toNat ≠ 0x200C) || joining c == .joiner then before.linking
    else .none

/-- Whether a character belongs to the cluster in front of it. -/
def joins (before : ClusterEnd) (c : Char) : Bool :=
  match before.last, joining c with
  | .carriageReturn, .lineFeed => true
  | .carriageReturn, _ | .lineFeed, _ | .control, _ => false
  | _, .carriageReturn | _, .lineFeed | _, .control => false
  | _, .extend | _, .joiner | _, .spacing => true
  | .prepend, _ => true
  | .leadingJamo, .leadingJamo | .leadingJamo, .vowelJamo | .leadingJamo, .openSyllable
  | .leadingJamo, .closedSyllable => true
  | .openSyllable, .vowelJamo | .openSyllable, .trailingJamo | .vowelJamo, .vowelJamo
  | .vowelJamo, .trailingJamo => true
  | .closedSyllable, .trailingJamo | .trailingJamo, .trailingJamo => true
  | .regional, .regional => before.oddRegional
  | .joiner, _ =>
    (before.chaining = .joiner && isPictographic c) ||
      (before.linking = .virama && linkedConsonantRanges.contains c)
  | _, _ => before.linking = .virama && linkedConsonantRanges.contains c

end ClusterEnd

/-- The clusters of a text whose first cluster has begun; its characters come last first. -/
def clustersFrom (before : ClusterEnd) (begun : List Char) : List Char → List (List Char)
  | [] => [begun.reverse]
  | c :: cs =>
    if before.joins c then clustersFrom (before.after c) (c :: begun) cs
    else begun.reverse :: clustersFrom (.start c) [c] cs

def clusters : List Char → List (List Char)
  | [] => []
  | c :: cs => clustersFrom (.start c) [c] cs

end ScriptTree.Text
