import CipherCalc.Readers.Grapheme.Ranges

/-!
# Grapheme clusters

A grapheme cluster is what a reader takes for one character: a letter with its
marks, a Korean syllable, a conjunct of consonants, a flag, a pictograph made of
several.  `clusters` cuts a text between any two characters that do not belong
together, by the rules for extended grapheme clusters of the Unicode standard.

Most rules look at the two characters around a boundary.  Three look further
back: what a joiner joins, what a linker links, and how many regional indicators
there are.  `Run` remembers as much of the text before.

Cutting loses nothing: the clusters of a text concatenate to it
(`flatten_clusters`).
-/

namespace CipherCalc.Text.Grapheme

/-! ## Kinds of characters -/

/-- What a character does in a cluster. -/
inductive Kind where
  | carriageReturn
  | lineFeed
  | control
  /-- Belongs to the character before it. -/
  | extender
  /-- The zero width non-joiner, which extends a cluster but ends a conjunct. -/
  | nonJoiner
  /-- Extends a cluster, and links consonants to a conjunct. -/
  | linker
  /-- The zero width joiner. -/
  | joiner
  | spacingMark
  | prependedMark
  /-- A leading consonant of a Korean syllable. -/
  | leading
  /-- A vowel of a Korean syllable, or a sign that combines like one. -/
  | vowel
  /-- A trailing consonant of a Korean syllable. -/
  | trailing
  /-- A Korean syllable without a trailing consonant. -/
  | openSyllable
  /-- A Korean syllable with a trailing consonant. -/
  | closedSyllable
  | regionalIndicator
  | pictograph
  | consonant
  | other
  deriving DecidableEq

/-- Whether a code point is a Korean syllable in one character. -/
def isSyllable (code : Nat) : Bool :=
  0xAC00 ≤ code && code ≤ 0xD7A3

/-- The kind of a character.  Of the 28 syllables with the same beginning, the
first has no trailing consonant. -/
def Kind.of (char : Char) : Kind :=
  let code := char.toNat
  if 0x20 ≤ code ∧ code < 0x7F then .other
  else if code = 0x0D then .carriageReturn
  else if code = 0x0A then .lineFeed
  else if inRanges code controls then .control
  else if code = 0x200C then .nonJoiner
  else if code = 0x200D then .joiner
  else if inRanges code linkers then .linker
  else if inRanges code extenders then .extender
  else if inRanges code spacingMarks then .spacingMark
  else if inRanges code prependedMarks then .prependedMark
  else if inRanges code leadingJamo then .leading
  else if inRanges code vowelJamo then .vowel
  else if inRanges code trailingJamo then .trailing
  else if isSyllable code then
    if (code - 0xAC00) % 28 = 0 then .openSyllable else .closedSyllable
  else if 0x1F1E6 ≤ code ∧ code ≤ 0x1F1FF then .regionalIndicator
  else if inRanges code pictographs then .pictograph
  else if inRanges code consonants then .consonant
  else .other

/-! ## Boundaries -/

/-- What the text before a boundary ends with, as far as it matters. -/
inductive Run where
  | nothing
  /-- A pictograph and what extends it. -/
  | pictograph
  /-- A pictograph, what extends it, and a joiner. -/
  | joinedPictograph
  /-- A consonant and what extends it, with or without a linker. -/
  | conjunct (linked : Bool)
  /-- An odd number of regional indicators. -/
  | regionalIndicator
  deriving DecidableEq

/-- What a run is after one more character. -/
def Run.next (run : Run) (kind : Kind) : Run :=
  match kind, run with
  | .pictograph, _ => .pictograph
  | .consonant, _ => .conjunct false
  | .regionalIndicator, .regionalIndicator => .nothing
  | .regionalIndicator, _ => .regionalIndicator
  | .extender, .pictograph | .nonJoiner, .pictograph | .linker, .pictograph => .pictograph
  | .joiner, .pictograph => .joinedPictograph
  | .extender, .conjunct linked | .joiner, .conjunct linked => .conjunct linked
  | .linker, .conjunct _ => .conjunct true
  | _, _ => .nothing

/-- Whether two neighbours are in one cluster, after the run that ends with the
first. -/
def Run.joins (run : Run) (before after : Kind) : Bool :=
  match before, after with
  | .carriageReturn, .lineFeed => true
  | .carriageReturn, _ | .lineFeed, _ | .control, _ => false
  | _, .carriageReturn | _, .lineFeed | _, .control => false
  | .leading, .leading | .leading, .vowel => true
  | .leading, .openSyllable | .leading, .closedSyllable => true
  | .openSyllable, .vowel | .openSyllable, .trailing => true
  | .vowel, .vowel | .vowel, .trailing => true
  | .closedSyllable, .trailing | .trailing, .trailing => true
  | _, .extender | _, .nonJoiner | _, .linker | _, .joiner | _, .spacingMark => true
  | .prependedMark, _ => true
  | _, .consonant => run = .conjunct true
  | _, .pictograph => run = .joinedPictograph
  | _, .regionalIndicator => run = .regionalIndicator
  | _, _ => false

/-! ## Clusters -/

/-- The clusters of a text whose first characters were read: `cluster` holds
those of the cluster that is not complete, the last one first, and `last` is the
kind of the last one. -/
def clustersFrom (run : Run) (last : Kind) (cluster : List Char) : List Char → List (List Char)
  | [] => [cluster.reverse]
  | char :: rest =>
      let kind := Kind.of char
      if run.joins last kind then clustersFrom (run.next kind) kind (char :: cluster) rest
      else cluster.reverse :: clustersFrom (run.next kind) kind [char] rest

/-- The grapheme clusters of a text. -/
def clusters : List Char → List (List Char)
  | [] => []
  | char :: rest => clustersFrom (Run.nothing.next (Kind.of char)) (Kind.of char) [char] rest

theorem flatten_clustersFrom (run : Run) (last : Kind) (cluster chars : List Char) :
    (clustersFrom run last cluster chars).flatten = cluster.reverse ++ chars := by
  induction chars generalizing run last cluster with
  | nil => simp [clustersFrom]
  | cons char rest ih =>
      by_cases h : run.joins last (Kind.of char) <;> simp [clustersFrom, h, ih]

/-- The clusters of a text concatenate to it. -/
@[simp] theorem flatten_clusters (chars : List Char) : (clusters chars).flatten = chars := by
  cases chars with
  | nil => rfl
  | cons char rest => simp [clusters, flatten_clustersFrom]

end CipherCalc.Text.Grapheme
