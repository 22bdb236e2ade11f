import RowPlan.Column
import RowPlan.Options
import RowPlan.Sql

/-!
# Inserts

An insert stores a row. Where a row with the same key is stored already, it may
update that row instead; a version column is stored one higher than the value
that is bound, and a row with another version than that value is left alone.
-/

namespace RowPlan

/-- What is done where a row with the same key is stored. -/
structure Conflict where
  keys : List Column
  /-- Columns that are taken from the row that was to be inserted. -/
  updates : List Column
  /-- Column by which a row of another version is told. -/
  version : Option Column

/-- A row to store. -/
structure Insert where
  /-- Columns with the values that are bound for them. -/
  values : List (Column × BindSlot)
  /-- An update in case of a conflict; without one it is an error. -/
  conflict : Option Conflict

namespace Conflict

/-- Takes a column from the row that was to be inserted. -/
def updateColumn (options : Options) (column : Column) : String :=
  let quoted := options.quote column.name
  quoted ++ " = EXCLUDED." ++ quoted

/-- Leaves rows of another version alone. -/
def versionGuard (options : Options) (tableRef : String) : Option Column → String
  | some column =>
      let quoted := options.quote column.name
      " WHERE " ++ tableRef ++ "." ++ quoted ++ " = EXCLUDED." ++ quoted ++ " - 1"
  | none => ""

/-- The clause for a conflict; with nothing to update the stored row is kept. -/
def text (options : Options) (tableRef : String) (conflict : Conflict) : String :=
  let keys := conflict.keys.map fun column => options.quote column.name
  " ON CONFLICT (" ++ ", ".intercalate keys ++ ")"
    ++ if conflict.updates.isEmpty then " DO NOTHING"
      else " DO UPDATE SET " ++ ", ".intercalate (conflict.updates.map (updateColumn options))
        ++ versionGuard options tableRef conflict.version

end Conflict

namespace Insert

/-- What is stored in a column. -/
def storedValue : Column × BindSlot → SqlText
  | (column, slot) => .slot none slot :: (if column.isVersion then [.text " + 1"] else [])

/-- The statement with a value for every column. -/
def text (options : Options) (tableRef : String) (insert : Insert) : SqlText :=
  let names := insert.values.map fun (column, _) => options.quote column.name
  .text ("INSERT INTO " ++ tableRef ++ " (" ++ ", ".intercalate names ++ ") VALUES (")
    :: SqlText.join ", " (insert.values.map storedValue)
    ++ .text ")"
    :: match insert.conflict with
      | some conflict => [.text (conflict.text options tableRef)]
      | none => []

end Insert

end RowPlan
