/-
**Clusters: what a reader takes for one character.**

A letter with its marks, a Hangul syllable written in parts, a conjunct of consonants, a flag or a
sequence of joined pictographs is one cluster, although it consists of several characters.  The
rules are those of Unicode for extended grapheme clusters: every character starts a cluster of its
own unless a rule joins it to the character before it.

Main definitions:

* `Text.ClusterClass`, `Text.clusterClass` — what the rules know of a character;
* `Text.ClusterTail` — what the end of a text offers to the character after it;
* `Text.joinsCluster` — whether a character belongs to the cluster before it;
* `Text.clusters` — the clusters of a text.

Main results:

* `Text.flatten_clusters` — the clusters make up the text;
* `Text.ne_nil_of_mem_clusters` — no cluster is empty.
-/

import FilterQuery.Text.ClusterTables

set_option relaxedAutoImplicit false
set_option autoImplicit false

namespace FilterQuery

namespace Text

/-! ### Classes of characters -/

/-- What the rules know of a character. -/
inductive ClusterClass where
  | carriageReturn
  | lineFeed
  | control
  /-- A mark on the character before it. -/
  | mark
  /-- A mark that links consonants into a conjunct. -/
  | linker
  /-- A mark that keeps consonants apart. -/
  | nonJoiner
  /-- A mark that joins pictographs. -/
  | joiner
  /-- A mark that takes room of its own. -/
  | spacingMark
  /-- A sign on the character after it. -/
  | prepended
  /-- A consonant that begins a Hangul syllable. -/
  | leading
  /-- A vowel of a Hangul syllable. -/
  | vowel
  /-- A consonant that ends a Hangul syllable. -/
  | trailing
  /-- A Hangul syllable that no consonant ends. -/
  | openSyllable
  /-- A Hangul syllable that a consonant ends. -/
  | closedSyllable
  /-- One half of a flag. -/
  | regional
  | pictograph
  /-- A consonant that can be part of a conjunct. -/
  | consonant
  | other
deriving DecidableEq

/-- The class of a mark. -/
def markClass (n : Nat) : ClusterClass :=
  if conjunctLinkers.contains n then .linker
  else if n = 0x200c then .nonJoiner
  else .mark

/-- The class of a part of a Hangul syllable or of a whole one, if the character is one. -/
def hangulClass? (n : Nat) : Option ClusterClass :=
  if inRanges [(0x1100, 0x115f), (0xa960, 0xa97c)] n then some .leading
  else if inRanges [(0x1160, 0x11a7), (0xd7b0, 0xd7c6)] n then some .vowel
  else if inRanges [(0x11a8, 0x11ff), (0xd7cb, 0xd7fb)] n then some .trailing
  -- There are twenty-seven trailing consonants, and a syllable without one comes first.
  else if 0xac00 ≤ n ∧ n ≤ 0xd7a3 then
    some (if (n - 0xac00) % 28 = 0 then .openSyllable else .closedSyllable)
  -- The vowels of Kirat Rai combine as those of Hangul do.
  else if n = 0x16d63 ∨ (0x16d67 ≤ n ∧ n ≤ 0x16d6a) then some .vowel
  else none

/-- The class of a character. -/
def clusterClass (c : Char) : ClusterClass :=
  let n := c.toNat
  if c = '\r' then .carriageReturn
  else if c = '\n' then .lineFeed
  else if 0x20 ≤ n ∧ n ≤ 0x7e then .other
  else if inRanges clusterControlRanges n then .control
  else if n = 0x200d then .joiner
  -- The skin tones of pictographs are marks on them, without having the property.
  else if extendsGrapheme c ∨ (0x1f3fb ≤ n ∧ n ≤ 0x1f3ff) then markClass n
  else if inRanges spacingMarkRanges n then .spacingMark
  else if inRanges prependedRanges n then .prepended
  else if 0x1f1e6 ≤ n ∧ n ≤ 0x1f1ff then .regional
  else if inRanges pictographRanges n then .pictograph
  else if inRanges conjunctConsonantRanges n then .consonant
  else (hangulClass? n).getD .other

namespace ClusterClass

/-- Whether characters of the class never belong to another one. -/
def isSeparate : ClusterClass → Bool
  | .carriageReturn => true
  | .lineFeed => true
  | .control => true
  | _ => false

/-- Whether characters of the class always belong to the one before. -/
def isAttached : ClusterClass → Bool
  | .mark => true
  | .linker => true
  | .nonJoiner => true
  | .joiner => true
  | .spacingMark => true
  | _ => false

/-- Whether two neighbours are parts of one Hangul syllable. -/
def joinsHangul : ClusterClass → ClusterClass → Bool
  | .leading, .leading => true
  | .leading, .vowel => true
  | .leading, .openSyllable => true
  | .leading, .closedSyllable => true
  | .openSyllable, .vowel => true
  | .openSyllable, .trailing => true
  | .vowel, .vowel => true
  | .vowel, .trailing => true
  | .closedSyllable, .trailing => true
  | .trailing, .trailing => true
  | _, _ => false

end ClusterClass

/-! ### Joining -/

/-- What the end of a text offers to the character after it. -/
inductive ClusterTail where
  | plain
  /-- The first half of a flag. -/
  | halfFlag
  /-- A pictograph with its marks. -/
  | pictograph
  /-- A pictograph with its marks and a joiner. -/
  | joinedPictograph
  /-- A consonant with its marks, none of which is a linker. -/
  | consonant
  /-- A consonant with its marks, one of which is a linker. -/
  | linkedConsonant
deriving DecidableEq

/-- The end of a text after a further character. -/
def ClusterTail.next (tail : ClusterTail) : ClusterClass → ClusterTail
  | .regional => if tail = .halfFlag then .plain else .halfFlag
  | .pictograph => .pictograph
  | .consonant => .consonant
  | .joiner =>
      match tail with
      | .pictograph => .joinedPictograph
      | .consonant => .consonant
      | .linkedConsonant => .linkedConsonant
      | _ => .plain
  | .mark =>
      match tail with
      | .pictograph => .pictograph
      | .consonant => .consonant
      | .linkedConsonant => .linkedConsonant
      | _ => .plain
  | .linker =>
      match tail with
      | .pictograph => .pictograph
      | .consonant => .linkedConsonant
      | .linkedConsonant => .linkedConsonant
      | _ => .plain
  | .nonJoiner => if tail = .pictograph then .pictograph else .plain
  | _ => .plain

/-- Whether a character belongs to the cluster before it, which ends with a character of the class
`last` and offers `tail`. -/
def joinsCluster (last : ClusterClass) (tail : ClusterTail) (next : ClusterClass) : Bool :=
  if last = .carriageReturn ∧ next = .lineFeed then true
  else if last.isSeparate ∨ next.isSeparate then false
  else if next.isAttached ∨ last = .prepended then true
  else
    match next with
    | .consonant => tail = .linkedConsonant
    | .pictograph => tail = .joinedPictograph
    | .regional => tail = .halfFlag
    | next => last.joinsHangul next

/-! ### Clusters -/

/-- The clusters of a text behind an open cluster, which is given back to front. -/
def clustersFrom (last : ClusterClass) (tail : ClusterTail) (cluster : List Char) :
    List Char → List (List Char)
  | [] => [cluster.reverse]
  | c :: cs =>
      let next := clusterClass c
      if joinsCluster last tail next then clustersFrom next (tail.next next) (c :: cluster) cs
      else cluster.reverse :: clustersFrom next (ClusterTail.plain.next next) [c] cs

/-- The clusters of a text, in order. -/
def clusters : List Char → List (List Char)
  | [] => []
  | c :: cs => clustersFrom (clusterClass c) (ClusterTail.plain.next (clusterClass c)) [c] cs

theorem flatten_clustersFrom (last : ClusterClass) (tail : ClusterTail) (cluster cs : List Char) :
    (clustersFrom last tail cluster cs).flatten = cluster.reverse ++ cs := by
  induction cs generalizing last tail cluster with
  | nil => simp [clustersFrom]
  | cons c cs ih =>
      simp only [clustersFrom]
      split
      · simp [ih]
      · simp [ih]

/-- The clusters make up the text. -/
@[simp] theorem flatten_clusters (cs : List Char) : (clusters cs).flatten = cs := by
  cases cs with
  | nil => rfl
  | cons c cs => simp [clusters, flatten_clustersFrom]

theorem ne_nil_of_mem_clustersFrom {last : ClusterClass} {tail : ClusterTail}
    {cluster cs g : List Char} (hne : cluster ≠ [])
    (h : g ∈ clustersFrom last tail cluster cs) : g ≠ [] := by
  induction cs generalizing last tail cluster with
  | nil =>
      obtain rfl := List.mem_singleton.1 h
      simpa using hne
  | cons c cs ih =>
      simp only [clustersFrom] at h
      split at h
      · exact ih (by simp) h
      · rcases List.mem_cons.1 h with rfl | h
        · simpa using hne
        · exact ih (by simp) h

/-- No cluster is empty. -/
theorem ne_nil_of_mem_clusters {cs g : List Char} (h : g ∈ clusters cs) : g ≠ [] := by
  cases cs with
  | nil => simp [clusters] at h
  | cons c cs => exact ne_nil_of_mem_clustersFrom (by simp) h

end Text

end FilterQuery
