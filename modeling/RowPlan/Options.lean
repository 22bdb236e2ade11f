/-!
# Options

What a caller chooses about the generated SQL, and how identifiers are written
under these choices.
-/

namespace RowPlan

/-- How bind slots are marked in SQL text. -/
inductive MarkerStyle where
  /-- Every slot is a question mark. -/
  | question
  /-- Slots are numbered, and a named value that occurs again keeps its number. -/
  | numbered
  deriving DecidableEq, Repr

/-- The choices of a compilation. -/
structure Options where
  /-- Marks of bind slots. -/
  markers : MarkerStyle := .question
  /-- Schema of the entities that declare none. -/
  defaultSchema : Option String := none
  /-- Whether identifiers are quoted. -/
  quoteIdentifiers : Bool := true
  /-- Limit on the rows of a query that expects one. -/
  singleResultCap : UInt32 := 2
  /-- Database of the repositories that name none. -/
  defaultDatabase : String := "main"
  deriving DecidableEq, Repr

namespace Options

/-- Writes each quotation mark twice. -/
def doubleQuotes : List Char → List Char
  | [] => []
  | c :: rest => if c = '"' then '"' :: '"' :: doubleQuotes rest else c :: doubleQuotes rest

/-- An identifier as it stands in SQL text. -/
def quote (options : Options) (identifier : String) : String :=
  if options.quoteIdentifiers then
    String.ofList ('"' :: (doubleQuotes identifier.toList ++ ['"']))
  else identifier

/-- A table, qualified by its schema if it has one. -/
def tableRef (options : Options) (schema : Option String) (table : String) : String :=
  match schema with
  | some schema => options.quote schema ++ "." ++ options.quote table
  | none => options.quote table

end Options

end RowPlan
