import RowPlan.Reading.Fault
import RowPlan.Source.Tree

/-!
# Values of attributes

Texts and counts as attributes hold them, and the words that name the other kinds
of values.
-/

namespace RowPlan

/-- The word for a kind of literal. -/
def Literal.kind : Literal → String
  | string _ => "string"
  | byteString => "byte string"
  | zeroString => "unknown"
  | byte => "byte"
  | character => "char"
  | integer _ _ _ => "int"
  | float _ _ => "float"
  | boolean => "bool"
  | unreadable => "verbatim"

/-- The word for a form of expression. -/
def ExpressionForm.kind : ExpressionForm → String
  | array => "array"
  | assignment => "assign"
  | asyncBlock => "async"
  | awaiting => "await"
  | binary => "binary"
  | block => "block"
  | breaking => "break"
  | call => "call"
  | cast => "cast"
  | closure => "closure"
  | conditional => "if"
  | constBlock => "const"
  | continuing => "continue"
  | field => "field"
  | forLoop => "for_loop"
  | index => "index"
  | inferred => "infer"
  | letCondition => "let"
  | literal => "lit"
  | loop => "loop"
  | macroCall => "macro"
  | matching => "match"
  | methodCall => "method_call"
  | parenthesized => "paren"
  | path => "path"
  | propagation => "try"
  | range => "range"
  | rawAddress => "unknown"
  | reference => "reference"
  | repeated => "repeat"
  | returning => "return"
  | struct => "struct"
  | tryBlock => "try_block"
  | tuple => "tuple"
  | unary => "unary"
  | uncheckedBlock => "unsafe"
  | verbatim => "verbatim"
  | whileLoop => "while"
  | yielding => "yield"

namespace ExpressionTree

/-- The word for the kind of a value. -/
def kind (value : ExpressionTree) : String :=
  match value.literal with
  | some literal => literal.kind
  | none => value.form.kind

/-- The text that a value is. -/
def text (value : ExpressionTree) : Except FaultCause String :=
  match value.literal with
  | some (.string text) => .ok text
  | _ => .error (.unexpectedType value.kind)

end ExpressionTree

/-- A whole number that is no less than zero and fits into 64 bits. -/
def checkedCount (isNegative : Bool) (value : Nat) : Except FaultCause Nat :=
  if isNegative then .error (.numeral .invalidDigit)
  else if value < UInt64.size then .ok value
  else .error (.numeral .tooLarge)

/-- The count that a value is, as a number or as a text. -/
def ExpressionTree.count (value : ExpressionTree) : Except FaultCause Nat :=
  match value.literal with
  | some (.string text) =>
      match readNumeral text.toList with
      | .ok count => .ok count
      | .error _ => .error (.unknownValue text)
  | some (.integer isNegative number _) => checkedCount isNegative number
  | _ => .error (.unexpectedType value.kind)

end RowPlan
