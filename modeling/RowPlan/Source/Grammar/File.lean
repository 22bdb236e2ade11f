import RowPlan.Source.Lexer
import RowPlan.Source.Grammar.Statements

/-!
# Files

The rules of the grammar refer to each other, and a rule that does not take a
token before it refers to another one is never referred to from there. So rules
that are nested a few times deeper than there are tokens are all that can be
needed. A file is a sequence of items.
-/

namespace RowPlan

/-- The rules of the grammar, nested at most `depth` deep. -/
def Rules.nested : (depth : Nat) → Rules
  | 0 => Rules.none
  | depth + 1 =>
      let inner := nested depth
      { type := Grammar.type inner
        bound := Grammar.bound inner
        expression := Grammar.expression inner
        operand := fun allowStruct => do Grammar.operand inner allowStruct (← Grammar.stepLimit)
        scrutinee := Grammar.expressionAbove inner .comparison
        statement := Grammar.statementExpression inner
        pattern := Grammar.pattern inner
        statements := Grammar.statements inner
        item := Grammar.item inner }

namespace Grammar

open RowPlan.Parser

/-- A parser with rules that are nested as deep as its tokens can need. -/
def withRules {α : Type} (parser : Rules → Parser α) : Parser α := do
  parser (Rules.nested (4 * Token.countAll (← get) + 8))

/-- The items of a file, after the attributes of the file. -/
def file : Parser (List ItemTree) :=
  withRules fun rules => do
    let _ ← innerAttributes rules
    toEnd (item rules)

end Grammar

/-! ## Text of a file -/

/-- Drops the mark of the byte order from the beginning of a text. -/
def dropByteOrderMark : List Char → List Char
  | '\ufeff' :: rest => rest
  | text => text

/-- Drops a first line that says which program runs the file, unless it is the beginning of
an attribute. -/
def dropInterpreter (text : List Char) : List Char :=
  match text with
  | '#' :: '!' :: rest =>
      if (Piece.skipGaps rest.length rest).head? == some '[' then text
      else text.dropWhile fun c => c != '\n'
  | _ => text

/-- The items of a file. A byte order mark may stand before the file and before its items. -/
def ItemTree.ofText? (text : List Char) : Option (List ItemTree) := do
  let content := dropByteOrderMark (dropInterpreter (dropByteOrderMark text))
  (Parser.run Grammar.file (← Token.ofText? content)).toOption

end RowPlan
