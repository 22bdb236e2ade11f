import RowPlan.ColumnType

/-!
# Column descriptions

A column as a mapping expects it, or as it is found in a database.
-/

namespace RowPlan

/-- A column of a table. -/
structure ColumnSpec where
  name : String
  type : ColumnType
  nullable : Bool
  /-- Member of the primary key. -/
  isKey : Bool
  deriving DecidableEq, Repr

namespace ColumnSpec

/-- The column as it stands in messages. -/
def text (column : ColumnSpec) : String :=
  column.name ++ " " ++ column.type.sql ++ if column.nullable then "" else " not null"

/-- The word in the information schema for a column that accepts absent values. -/
def nullableWord : String := "YES"

/-- Reads a column from a row of the information schema. Letter case of the word for
nullability does not matter, within ASCII. -/
def ofInformationSchema (name nullability typeName : String) (isKey : Bool) : ColumnSpec where
  name := name
  type := ColumnType.ofName typeName
  nullable := nullability.toList.map Char.toUpper == nullableWord.toList
  isKey := isKey

end ColumnSpec

end RowPlan
