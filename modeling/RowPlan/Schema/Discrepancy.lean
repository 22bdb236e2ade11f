import RowPlan.Schema.ColumnSpec

/-!
# Discrepancies between a mapping and a table

Columns are matched by name. Each kind of mismatch is reported at most once,
with all the columns it concerns, in a fixed order of the kinds.
-/

namespace RowPlan

/-- The kinds of mismatch, in the order of their reports. -/
inductive Mismatch where
  /-- There is no table. -/
  | missingTable
  /-- Expected columns that the table does not have. -/
  | missingColumns
  /-- Columns of the table that are not expected. -/
  | extraColumns
  /-- Expected columns that accept absent values where they should not, or the reverse. -/
  | invalidNullability
  /-- Expected columns of another type. -/
  | invalidType
  /-- Key columns of the table that are no expected keys. -/
  | extraKeys
  /-- Expected keys that are no key columns of the table. -/
  | missingKeys
  deriving DecidableEq, Repr

/-- The words that name a kind of mismatch. -/
def Mismatch.label : Mismatch → String
  | missingTable => "Missing table"
  | missingColumns => "Missing columns"
  | extraColumns => "Extra columns"
  | invalidNullability => "Invalid nullability"
  | invalidType => "Invalid type"
  | extraKeys => "Extra keys"
  | missingKeys => "Missing keys"

/-- All mismatches of one kind. -/
structure Discrepancy where
  kind : Mismatch
  /-- The table as it stands in messages. -/
  table : String
  /-- The columns concerned; none for a missing table. -/
  columns : List ColumnSpec
  deriving DecidableEq, Repr

/-- The message of a discrepancy. -/
def Discrepancy.message (discrepancy : Discrepancy) : String :=
  let opening := discrepancy.kind.label ++ ": table " ++ discrepancy.table
  match discrepancy.columns with
  | [] => opening
  | columns => opening ++ " (" ++ ", ".intercalate (columns.map ColumnSpec.text) ++ ")"

namespace Schema

/-- The first column of a name. -/
def find? (columns : List ColumnSpec) (name : String) : Option ColumnSpec :=
  columns.find? fun column => column.name == name

/-- The columns whose name no column of `others` has. -/
def absentFrom (others columns : List ColumnSpec) : List ColumnSpec :=
  columns.filter fun column => (find? others column.name).isNone

/-- The columns that differ from the column of the same name in `others`. -/
def differingFrom (others : List ColumnSpec) (differ : ColumnSpec → ColumnSpec → Bool)
    (columns : List ColumnSpec) : List ColumnSpec :=
  columns.filter fun column => (find? others column.name).any (differ column)

/-- The key columns that `others` does not have as key columns. -/
def keysNotIn (others columns : List ColumnSpec) : List ColumnSpec :=
  columns.filter fun column =>
    column.isKey && !(find? others column.name).any ColumnSpec.isKey

/-- The columns of a kind of mismatch. -/
def mismatched (expected live : List ColumnSpec) : Mismatch → List ColumnSpec
  | .missingTable => []
  | .missingColumns => absentFrom live expected
  | .extraColumns => absentFrom expected live
  | .invalidNullability =>
      differingFrom live (fun column other => column.nullable != other.nullable) expected
  | .invalidType => differingFrom live (fun column other => column.type != other.type) expected
  | .extraKeys => keysNotIn expected live
  | .missingKeys => keysNotIn live expected

/-- The kinds of mismatch that concern columns. -/
def columnMismatches : List Mismatch :=
  [.missingColumns, .extraColumns, .invalidNullability, .invalidType, .extraKeys, .missingKeys]

/-- Compares the expected columns of a table with the ones it has. A table without
columns does not exist. -/
def compare (table : String) (expected live : List ColumnSpec) : List Discrepancy :=
  if live.isEmpty then [{ kind := .missingTable, table, columns := [] }]
  else columnMismatches.filterMap fun kind =>
    match mismatched expected live kind with
    | [] => none
    | columns => some { kind, table, columns }

/-- The messages of a comparison. -/
def messages (table : String) (expected live : List ColumnSpec) : List String :=
  (compare table expected live).map Discrepancy.message

/-- All messages in one line. -/
def joinMessages (messages : List String) : String :=
  "; ".intercalate messages

end Schema

end RowPlan
