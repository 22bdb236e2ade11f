import RowPlan.Execution.Failure

/-!
# Sort orders chosen at run time

A method with an order parameter has a marker in its text. When it runs, the
marker is replaced by the clause of the order that the caller chose, or removed
together with the space before it if the order has no keys.
-/

namespace RowPlan

/-- Stands in SQL text where a sort clause goes. -/
def orderMarker : String := "%orderBy"

/-- Which way a key sorts. -/
inductive Direction where
  | ascending
  | descending
  deriving DecidableEq, Repr

/-- The keyword of a direction. -/
def Direction.sql : Direction → String
  | ascending => "ASC"
  | descending => "DESC"

/-- Where a key puts absent values. -/
inductive NullPlacement where
  /-- Where the database puts them. -/
  | unspecified
  | first
  | last
  deriving DecidableEq, Repr

/-- The keywords of a placement, with the space before them. -/
def NullPlacement.sql : NullPlacement → String
  | unspecified => ""
  | first => " NULLS FIRST"
  | last => " NULLS LAST"

/-- One key to sort by. -/
structure SortKey where
  /-- Dotted path of a field. -/
  field : String
  direction : Direction
  nulls : NullPlacement := .unspecified
  deriving DecidableEq, Repr

/-- The keys to sort by, the most significant first. -/
structure Order where
  keys : List SortKey := []
  deriving DecidableEq, Repr

/-- The first place where a text begins with a marker: what comes before, and after. -/
def splitAtMarker (marker : List Char) : List Char → Option (List Char × List Char)
  | [] => if marker.isEmpty then some ([], []) else none
  | c :: rest =>
      if marker.isPrefixOf (c :: rest) then some ([], (c :: rest).drop marker.length)
      else (splitAtMarker marker rest).map fun (before, after) => (c :: before, after)

/-- Replaces the first occurrence of a marker, if there is one. -/
def replaceMarker? (marker replacement text : String) : Option String :=
  (splitAtMarker marker.toList text.toList).map fun (before, after) =>
    String.ofList (before ++ replacement.toList ++ after)

namespace Order

/-- No keys. -/
def unsorted : Order := {}

/-- Adds a key after the others. -/
def andThen (order : Order) (field : String) (direction : Direction) : Order where
  keys := order.keys ++ [{ field, direction }]

/-- Sorts by one field, the least value first. -/
def ascending (field : String) : Order :=
  unsorted.andThen field .ascending

/-- Sorts by one field, the greatest value first. -/
def descending (field : String) : Order :=
  unsorted.andThen field .descending

/-- Says where the last key puts absent values. -/
def withNulls (order : Order) (nulls : NullPlacement) : Order where
  keys := match order.keys.getLast? with
    | some last => order.keys.dropLast ++ [{ last with nulls }]
    | none => []

/-- A key in SQL, by the columns that store the fields. -/
def keyText (columns : List (String × String)) (key : SortKey) : Except Failure String :=
  match columns.lookup key.field with
  | some column => .ok (column ++ " " ++ key.direction.sql ++ key.nulls.sql)
  | none => .error (.unknownSortField key.field)

/-- The sort clause, empty for an order without keys. -/
def render (order : Order) (columns : List (String × String)) : Except Failure String :=
  if order.keys.isEmpty then .ok ""
  else do return "ORDER BY " ++ ", ".intercalate (← order.keys.mapM (keyText columns))

/-- Puts the sort clause in place of the marker in SQL text. -/
def substitute (order : Order) (sql : String) (columns : List (String × String)) :
    Except Failure String := do
  let clause ← order.render columns
  if clause == "" then
    return ((replaceMarker? (" " ++ orderMarker) "" sql).or
      (replaceMarker? orderMarker "" sql)).getD sql
  else return (replaceMarker? orderMarker clause sql).getD sql

end Order

end RowPlan
