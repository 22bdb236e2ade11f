import RowPlan.Schema.Discrepancy
import RowPlan.Sql
import RowPlan.Table

/-!
# Checking a table

A check holds the columns that a mapping expects and a query that returns the
columns that the database has: name, nullability, type, and membership in the
primary key, one row a column.
-/

namespace RowPlan

/-- How to check the table of an entity. -/
structure SchemaCheck where
  table : String
  /-- Schema of the table; none for the current one. -/
  schema : Option String
  /-- The table as it stands in messages. -/
  displayName : String
  expected : List ColumnSpec
  /-- Query for the columns in the database. -/
  query : String
  /-- Bind slots of the query. -/
  slots : List BindSlot

namespace SchemaCheck

/-- What a mapping expects of a column. -/
def expectedColumn (column : Column) : ColumnSpec where
  name := column.name
  type := column.columnType
  nullable := column.nullable
  isKey := column.isId

/-- The slot for a text that the check itself supplies. -/
def textSlot (name : String) (nullable : Bool) : Fragment :=
  .slot (some name) {
    path := [name]
    type := { TypeUse.named "String" with nullable }
    columnType := some .text }

/-- The query for the columns that a table has in the database. -/
def queryText : SqlText := [
  .text ("SELECT c.column_name, c.is_nullable, c.data_type, EXISTS ("
    ++ "SELECT 1 FROM information_schema.table_constraints tc "
    ++ "JOIN information_schema.key_column_usage k "
    ++ "ON k.constraint_name = tc.constraint_name AND k.table_schema = tc.table_schema "
    ++ "AND k.table_name = tc.table_name "
    ++ "WHERE tc.constraint_type = 'PRIMARY KEY' AND tc.table_schema = c.table_schema "
    ++ "AND tc.table_name = c.table_name AND k.column_name = c.column_name) AS is_key "
    ++ "FROM information_schema.columns c "
    ++ "WHERE c.table_name = "),
  textSlot "table" false,
  .text " AND c.table_schema = COALESCE(",
  textSlot "schema" true,
  .text ", current_schema()) ORDER BY c.ordinal_position"]

/-- The check of a table. -/
def of (options : Options) (table : Table) : SchemaCheck :=
  let (query, slots) := queryText.layout options.markers
  { table := table.name
    schema := table.schema
    displayName := table.displayName
    expected := table.columns.map expectedColumn
    query, slots }

/-- The messages about the columns that were found; none if the table is as expected. -/
def evaluate (check : SchemaCheck) (live : List ColumnSpec) : List String :=
  Schema.messages check.displayName check.expected live

end SchemaCheck

end RowPlan
