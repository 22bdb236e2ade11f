/-!
# Similarity of names

The Jaro–Winkler measure: the share of characters that two texts have in common
at nearby places, discounted when these come in another order, and raised when
the texts start alike.
-/

namespace RowPlan

/-- The place of the first character of `candidates`, from place `first` on, that
equals `c` and is not taken. -/
def matchPlace (c : Char) (first last : Nat) (taken : List Nat) (candidates : List Char) :
    Option Nat :=
  (List.range candidates.length).find? fun place =>
    first ≤ place && place < last && !taken.contains place && candidates[place]? == some c

/-- Pairs each character of `left` with the nearest free equal character of
`right`; gives the places paired on either side. -/
def matchedPlaces (left right : List Char) (reach : Nat) : List Nat × List Nat :=
  left.zipIdx.foldl
    (fun (leftPlaces, rightPlaces) (c, place) =>
      let last := min right.length (place + reach + 1)
      match matchPlace c (place - reach) last rightPlaces right with
      | some found => (leftPlaces ++ [place], rightPlaces ++ [found])
      | none => (leftPlaces, rightPlaces))
    ([], [])

/-- The characters of a text at the given places, in the order of the text. -/
def charactersAt (places : List Nat) (text : List Char) : List Char :=
  text.zipIdx.filterMap fun (c, place) => if places.contains place then some c else none

/-- The Jaro similarity of two texts, between 0 and 1. -/
def jaroSimilarity (left right : List Char) : Float :=
  if left.isEmpty && right.isEmpty then 1
  else
    let reach := max left.length right.length / 2 - 1
    let (leftPlaces, rightPlaces) := matchedPlaces left right reach
    let common := leftPlaces.length
    if common = 0 then 0
    else
      let displaced :=
        ((charactersAt leftPlaces left).zip (charactersAt rightPlaces right)).countP
          fun (a, b) => a != b
      (common.toFloat / left.length.toFloat + common.toFloat / right.length.toFloat
        + (common - displaced / 2).toFloat / common.toFloat) / 3

/-- The Jaro–Winkler similarity of two texts, between 0 and 1. -/
def nameSimilarity (left right : String) : Float :=
  let base := jaroSimilarity left.toList right.toList
  if base > 0.7 then
    let shared := (((left.toList.take 4).zip right.toList).takeWhile fun (a, b) => a == b).length
    base + 0.1 * shared.toFloat * (1 - base)
  else base

/-- The candidate most similar to `name`, if one is similar enough to be meant. -/
def closestName (name : String) (candidates : List String) : Option String :=
  (candidates.foldl
    (fun best candidate =>
      let similarity := nameSimilarity name candidate
      match best with
      | some (_, highest) => if similarity > highest then some (candidate, similarity) else best
      | none => if similarity > 0.8 then some (candidate, similarity) else none)
    (none : Option (String × Float))).map (·.1)

end RowPlan
