import RowPlan.Source.Parser
import RowPlan.Source.Tree

/-!
# Rules of the grammar

The rules of the grammar refer to each other. Each is written against a record
of all of them, so that a rule can be stated by itself; the record is closed
where all rules are known.
-/

namespace RowPlan

/-- What is kept of a pattern. -/
inductive PatternTree where
  /-- A name that the value is bound to. -/
  | name (name : String)
  /-- The rest of a sequence. -/
  | rest
  /-- A range without one of its ends. -/
  | openRange
  | other

/-- The rules that others refer to. -/
structure Rules where
  /-- A type; `allowPlus` if bounds may be joined to it. -/
  type : (allowPlus : Bool) → Parser TypeTree
  /-- A bound on a type, where captured lifetimes and constant traits may be allowed. -/
  bound : (allowCapture allowConst : Bool) → Parser BoundTree
  /-- An expression; `allowStruct` if it may be a path with braces after it. -/
  expression : (allowStruct : Bool) → Parser ExpressionTree
  /-- An expression without binary operators. -/
  operand : (allowStruct : Bool) → Parser ExpressionTree
  /-- An expression that is matched against a pattern in a condition; operators that bind
  looser than comparisons end it. -/
  scrutinee : (allowStruct : Bool) → Parser ExpressionTree
  /-- An expression that ends with the block it begins with, if it does. -/
  statement : Parser ExpressionTree
  /-- A pattern without alternatives. -/
  pattern : Parser PatternTree
  /-- The statements that fill a group. -/
  statements : Parser Unit
  item : Parser ItemTree

/-- The rules that nothing satisfies. -/
def Rules.none : Rules where
  type _ := Parser.giveUp
  bound _ _ := Parser.giveUp
  expression _ := Parser.giveUp
  operand _ := Parser.giveUp
  scrutinee _ := Parser.giveUp
  statement := Parser.giveUp
  pattern := Parser.giveUp
  statements := Parser.giveUp
  item := Parser.giveUp

end RowPlan
