import RowPlan.Statement.Condition
import RowPlan.Statement.Insert
import RowPlan.Statement.Suffix
import RowPlan.Table

/-!
# Statements

A statement says what is done with the rows of a table. Its SQL text is written
from it, with the bind slots in place.
-/

namespace RowPlan

/-- What is done with the rows of a table. -/
inductive Statement where
  | insert (row : Insert)
  | delete (condition : Option Condition)
  /-- Returns some columns of rows. -/
  | select (columns : List String) (condition : Option Condition) (suffix : Suffix)
  /-- Returns the number of rows. -/
  | count (condition : Option Condition)
  /-- Returns whether there are rows. -/
  | existence (condition : Option Condition)
  /-- A text with slots in place of its placeholders. -/
  | given (text : SqlText) (suffix : Suffix)

namespace Statement

/-- The SQL text of a statement on a table. -/
def text (options : Options) (table : Table) : Statement → SqlText
  | insert row => row.text options (table.ref options)
  | delete condition =>
      .text ("DELETE FROM " ++ table.ref options) :: Condition.clause options condition
  | select columns condition suffix =>
      let list := ", ".intercalate (columns.map options.quote)
      .text ("SELECT " ++ list ++ " FROM " ++ table.ref options)
        :: Condition.clause options condition ++ suffix.text
  | count condition =>
      .text ("SELECT count(*) FROM " ++ table.ref options) :: Condition.clause options condition
  | existence condition =>
      .text ("SELECT EXISTS (SELECT * FROM " ++ table.ref options)
        :: Condition.clause options condition ++ [.text ")"]
  | given text suffix => text ++ suffix.text

end Statement

end RowPlan
