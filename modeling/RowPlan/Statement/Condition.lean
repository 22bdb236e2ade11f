import RowPlan.Column
import RowPlan.Options
import RowPlan.Sql

/-!
# Conditions

A condition says which rows a statement is about. It is a given text, or a
number of comparisons that all have to hold.
-/

namespace RowPlan

/-- How a column is compared with a value. -/
inductive Comparator where
  | equal
  /-- Equal, or both absent. -/
  | same
  /-- Equal to a member of a list. -/
  | member
  deriving DecidableEq, Repr

/-- A comparison of a column with a value. -/
structure Comparison where
  column : Column
  comparator : Comparator
  slot : BindSlot

namespace Comparison

/-- The column, its comparator and the slot; a list stands in the parentheses of `ANY`. -/
def text (options : Options) (comparison : Comparison) : SqlText :=
  let quoted := options.quote comparison.column.name
  match comparison.comparator with
  | .equal => [.text (quoted ++ " = "), .slot none comparison.slot]
  | .same => [.text (quoted ++ " IS NOT DISTINCT FROM "), .slot none comparison.slot]
  | .member => [.text (quoted ++ " = ANY("), .slot none comparison.slot, .text ")"]

end Comparison

/-- Which rows a statement is about. -/
inductive Condition where
  /-- A text with slots in place of its placeholders. -/
  | given (text : SqlText)
  /-- All of some comparisons hold. -/
  | all (comparisons : List Comparison)

namespace Condition

/-- The given text, or all comparisons joined by `AND`. -/
def text (options : Options) : Condition → SqlText
  | given text => text
  | all comparisons => SqlText.join " AND " (comparisons.map (Comparison.text options))

/-- The clause for a condition; without one a statement is about all rows. -/
def clause (options : Options) : Option Condition → SqlText
  | some condition => .text " WHERE " :: condition.text options
  | none => []

end Condition

end RowPlan
