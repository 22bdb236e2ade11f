import RowPlan.Text.Cluster
import RowPlan.Text.LetterCase

/-!
# Snake case

A name is divided into words, each word is lower-cased, and the words are
joined by underscores. Words end at a delimiter, which is dropped, and between
characters where the kind of character changes.
-/

namespace RowPlan

/-- A character that separates words and belongs to none. -/
def isDelimiter (cluster : List Char) : Bool :=
  cluster == ['_'] || cluster == ['-'] || cluster == [' ']

/-- The cluster has two cases and is in upper case. -/
def isUpperCluster (cluster : List Char) : Bool :=
  upperText cluster != lowerText cluster && cluster == upperText cluster

/-- The cluster has two cases and is in lower case. -/
def isLowerCluster (cluster : List Char) : Bool :=
  upperText cluster != lowerText cluster && cluster == lowerText cluster

/-- The cluster is made of decimal digits. -/
def isDigitCluster (cluster : List Char) : Bool :=
  cluster.all Char.isDigit

/-- A word ends between `left` and `right`, which `following` comes after: from
lower to upper case, into or out of a number, and before the last capital of an
acronym that a lower-case letter follows. -/
def isWordBoundary (left right : List Char) (following : Option (List Char)) : Bool :=
  isLowerCluster left && isUpperCluster right
    || (isLowerCluster left || isUpperCluster left) && isDigitCluster right
    || isDigitCluster left && (isLowerCluster right || isUpperCluster right)
    || isUpperCluster left && isUpperCluster right && (following.map isLowerCluster).getD false

/-- The words of a text; `word` holds the clusters of the word being read. -/
def wordsAfter (word : List Char) : List (List Char) → List (List Char)
  | [] => [word]
  | [cluster] => if isDelimiter cluster then [word, []] else [word ++ cluster]
  | cluster :: next :: rest =>
      if isDelimiter cluster then word :: wordsAfter [] (next :: rest)
      else if isWordBoundary cluster next rest.head? then
        (word ++ cluster) :: wordsAfter [] (next :: rest)
      else wordsAfter (word ++ cluster) (next :: rest)

/-- The snake-case form of a name. -/
def snakeCase (name : String) : String :=
  String.ofList (List.intercalate ['_'] ((wordsAfter [] (clusters name.toList)).map lowerText))

end RowPlan
