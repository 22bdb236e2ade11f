import RowPlan.Text.Cluster.Table

/-!
# Clusters

A cluster is what a reader takes for one character: a character together with
the marks attached to it, a syllable written in several letters, or pictographs
linked to one. A text is divided wherever nothing joins two characters.
-/

namespace RowPlan

/-! ## Roles -/

/-- How a character takes part in clusters. -/
inductive ClusterRole where
  /-- Stands alone. -/
  | control
  /-- Attaches to the character after. -/
  | leading
  /-- Attaches to the character before, and takes no room. -/
  | extending
  /-- Attaches to the character before, and links pictographs. -/
  | joiner
  /-- Attaches to the character before, and takes room. -/
  | spacing
  /-- The beginning of a syllable. -/
  | initialJamo
  /-- The vowel of a syllable. -/
  | vowelJamo
  /-- The end of a syllable. -/
  | finalJamo
  /-- A syllable that may be given an end. -/
  | openSyllable
  /-- A syllable with an end. -/
  | closedSyllable
  /-- One half of the sign of a region. -/
  | regional
  | pictograph
  | other
  deriving DecidableEq, Repr

/-- A letter that begins a syllable. -/
def isInitialJamo (code : Nat) : Bool :=
  (0x1100 ≤ code && code ≤ 0x115f) || (0xa960 ≤ code && code ≤ 0xa97c)

/-- A letter that ends a syllable. -/
def isFinalJamo (code : Nat) : Bool :=
  (0x11a8 ≤ code && code ≤ 0x11ff) || (0xd7cb ≤ code && code ≤ 0xd7fb)

/-- A syllable that is one character. -/
def isSyllable (code : Nat) : Bool :=
  0xac00 ≤ code && code ≤ 0xd7a3

/-- One half of the sign of a region. -/
def isRegional (c : Char) : Bool :=
  0x1f1e6 ≤ c.toNat && c.toNat ≤ 0x1f1ff

/-- How a character takes part in clusters. Of 28 syllables in a row the first has no end. -/
def clusterRole (c : Char) : ClusterRole :=
  let code := c.toNat
  if c = '\u200d' then .joiner
  else if controlTable.contains c then .control
  else if extendingTable.contains c then .extending
  else if spacingTable.contains c then .spacing
  else if leadingTable.contains c then .leading
  else if isInitialJamo code then .initialJamo
  else if vowelJamoTable.contains c then .vowelJamo
  else if isFinalJamo code then .finalJamo
  else if isSyllable code then
    if (code - 0xac00) % 28 = 0 then .openSyllable else .closedSyllable
  else if isRegional c then .regional
  else if pictographTable.contains c then .pictograph
  else .other

/-! ## What joins two characters -/

/-- Whether two letters or syllables belong to one syllable. -/
def joinsSyllable : ClusterRole → ClusterRole → Bool
  | .initialJamo, next =>
      [ClusterRole.initialJamo, .vowelJamo, .openSyllable, .closedSyllable].contains next
  | .openSyllable, next | .vowelJamo, next => next = .vowelJamo || next = .finalJamo
  | .closedSyllable, next | .finalJamo, next => next = .finalJamo
  | _, _ => false

/-- A mark that may stand between two consonants of a conjunct. -/
def isConjunctMark (c : Char) : Bool :=
  c != '\u200c' && (clusterRole c = .extending || clusterRole c = .joiner)

/-- Whether a consonant forms a conjunct with the text before it, which is read backwards:
marks of which one links, and a consonant before them. -/
def joinsConjunct (before : List Char) (next : Char) : Bool :=
  let marks := before.takeWhile isConjunctMark
  conjunctConsonantTable.contains next && marks.any conjunctLinkerTable.contains
    && ((before.drop marks.length).head?.map conjunctConsonantTable.contains).getD false

/-- Whether a pictograph is linked to the text before it, which is read backwards: a joiner,
extending marks, and a pictograph before them. -/
def joinsPictograph (before : List Char) (next : Char) : Bool :=
  match before with
  | '\u200d' :: earlier =>
      pictographTable.contains next
        && ((earlier.dropWhile fun c => clusterRole c = .extending).head?.map
          pictographTable.contains).getD false
  | _ => false

/-- Whether a half of the sign of a region completes one in the text before it, which is
read backwards. -/
def joinsRegion (before : List Char) (next : Char) : Bool :=
  isRegional next && (before.takeWhile isRegional).length % 2 = 1

/-- Whether `next` belongs to the same cluster as the text that ends, read
backwards, with `before`. -/
def joinsCluster (before : List Char) (next : Char) : Bool :=
  match before with
  | [] => false
  | last :: _ =>
      if last = '\r' && next = '\n' then true
      else match clusterRole last, clusterRole next with
        | .control, _ => false
        | _, .control => false
        | _, .extending | _, .joiner | _, .spacing => true
        | .leading, _ => true
        | lastRole, nextRole =>
            joinsSyllable lastRole nextRole || joinsConjunct before next
              || joinsPictograph before next || joinsRegion before next

/-! ## Division of a text -/

/-- Divides `text` into clusters; `opened` is the reversed cluster being read. -/
def clustersAfter (opened : List Char) : List Char → List (List Char)
  | [] => if opened.isEmpty then [] else [opened.reverse]
  | c :: rest =>
      if opened.isEmpty || joinsCluster opened c then clustersAfter (c :: opened) rest
      else opened.reverse :: clustersAfter [c] rest

/-- The clusters of a text, in order. -/
def clusters (text : List Char) : List (List Char) :=
  clustersAfter [] text

end RowPlan
