import RowPlan.Text.Blank
import RowPlan.Text.LetterCase

/-!
# Column types

The types of table columns, with the spellings that name them. Spellings are
compared without regard to letter case and surrounding blanks.
-/

namespace RowPlan

/-- The type of a column; types without a spelling of their own keep their name. -/
inductive ColumnType where
  | boolean
  | smallInt
  | integer
  | bigInt
  | real
  | doublePrecision
  | numeric
  | text
  | bytea
  | date
  | time
  | timestamp
  | timestampTz
  | uuid
  | jsonb
  | other (name : String)
  deriving DecidableEq, Repr

namespace ColumnType

/-- The name of the type in SQL. -/
def sql : ColumnType → String
  | boolean => "BOOLEAN"
  | smallInt => "SMALLINT"
  | integer => "INTEGER"
  | bigInt => "BIGINT"
  | real => "REAL"
  | doublePrecision => "DOUBLE PRECISION"
  | numeric => "NUMERIC"
  | text => "TEXT"
  | bytea => "BYTEA"
  | date => "DATE"
  | time => "TIME"
  | timestamp => "TIMESTAMP"
  | timestampTz => "TIMESTAMPTZ"
  | uuid => "UUID"
  | jsonb => "JSONB"
  | other name => name

/-- The lower-case spellings of each type. -/
def spellings : List (String × ColumnType) := [
  ("boolean", boolean), ("bool", boolean),
  ("smallint", smallInt), ("int2", smallInt),
  ("integer", integer), ("int", integer), ("int4", integer),
  ("bigint", bigInt), ("int8", bigInt),
  ("real", real), ("float4", real),
  ("double precision", doublePrecision), ("float8", doublePrecision),
  ("numeric", numeric), ("decimal", numeric),
  ("text", text), ("varchar", text), ("character varying", text), ("character", text),
  ("char", text),
  ("bytea", bytea),
  ("date", date),
  ("time", time), ("time without time zone", time),
  ("timestamp", timestamp), ("timestamp without time zone", timestamp),
  ("timestamptz", timestampTz), ("timestamp with time zone", timestampTz),
  ("uuid", uuid),
  ("jsonb", jsonb)]

/-- Reads the name of a type. -/
def ofName (name : String) : ColumnType :=
  let spelling := lowerText (trim name.toList)
  match spellings.lookup (String.ofList spelling) with
  | some type => type
  | none => other (String.ofList (upperText spelling))

/-- Values of this type pass through a JSON codec. -/
def isJson (type : ColumnType) : Bool :=
  type == jsonb

/-- The accessor that reads a column of this type. -/
def accessor : ColumnType → String
  | boolean => "bool"
  | smallInt => "i16"
  | integer => "i32"
  | bigInt => "i64"
  | real => "f32"
  | doublePrecision => "f64"
  | numeric => "decimal"
  | text | other _ => "string"
  | bytea => "bytes"
  | date => "date"
  | time => "time"
  | timestamp => "timestamp"
  | timestampTz => "timestamptz"
  | uuid => "uuid"
  | jsonb => "json"

end ColumnType

end RowPlan
