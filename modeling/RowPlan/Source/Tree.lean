import RowPlan.Source.Token

/-!
# Source trees

What source text says, as far as class models depend on it: items, their
attributes, fields, functions and types. Expressions, patterns and bodies leave
no more than their kind behind.
-/

namespace RowPlan

/-! ## Types -/

/-- How a path begins. -/
inductive PathStart where
  /-- With its first name. -/
  | plain
  /-- With colons. -/
  | rooted
  /-- With a type in angle brackets. -/
  | qualified
  deriving DecidableEq, Repr

mutual

/-- A type as it is written. -/
inductive TypeTree where
  | path (start : PathStart) (segments : List PathSegment)
  /-- A type in parentheses, or a reference to it. -/
  | enclosed (type : TypeTree)
  /-- A slice or an array. -/
  | list (element : TypeTree)
  /-- The empty tuple. -/
  | unit
  /-- One bound that stands as a type without a word before it. -/
  | bound
  /-- Any other type. -/
  | other

/-- A name in a path, with the arguments in angle brackets if there are any. -/
inductive PathSegment where
  | segment (name : String) (arguments : Option (List PathArgument))

/-- An argument of a name in a path. -/
inductive PathArgument where
  | type (type : TypeTree)
  /-- A lifetime, a constant, or a condition on a member. -/
  | other

end

namespace PathSegment

/-- The name of a segment. -/
def name : PathSegment → String
  | segment name _ => name

/-- The arguments in angle brackets, if there are any brackets. -/
def arguments : PathSegment → Option (List PathArgument)
  | segment _ arguments => arguments

end PathSegment

/-! ## Expressions -/

/-- The forms of expressions. -/
inductive ExpressionForm where
  | array
  | assignment
  | asyncBlock
  | awaiting
  | binary
  | block
  | breaking
  | call
  | cast
  | closure
  | conditional
  | constBlock
  | continuing
  | field
  | forLoop
  | index
  | inferred
  | letCondition
  | literal
  | loop
  | macroCall
  | matching
  | methodCall
  | parenthesized
  | path
  | propagation
  | range
  | rawAddress
  | reference
  | repeated
  | returning
  | struct
  | tryBlock
  | tuple
  | unary
  | uncheckedBlock
  | verbatim
  | whileLoop
  | yielding
  deriving DecidableEq, Repr

/-- What is kept of an expression. -/
structure ExpressionTree where
  form : ExpressionForm
  /-- The value of a literal. -/
  literal : Option Literal := none
  /-- The expression compares two others. -/
  isComparison : Bool := false
  /-- The expression is a call of a macro with braces. -/
  isBraced : Bool := false

/-! ## Attributes -/

/-- What stands after the path of an attribute. -/
inductive AttributeForm where
  | bare
  | list (delimiter : Delimiter) (tokens : List Token)
  | value (value : ExpressionTree)

/-- An attribute: its path, whether the path begins with colons, and what follows it. An
inner attribute is about what encloses it. -/
structure AttributeTree where
  isInner : Bool
  isRooted : Bool
  path : List String
  form : AttributeForm

namespace AttributeTree

/-- The name of an attribute whose path is a single name. -/
def name? (attr : AttributeTree) : Option String :=
  match attr.isRooted, attr.path with
  | false, [name] => some name
  | _, _ => none

end AttributeTree

/-! ## Items -/

/-- A field of a struct. -/
structure FieldTree where
  attributes : List AttributeTree
  name : String
  type : TypeTree

/-- The fields of a struct. -/
inductive FieldsTree where
  | named (fields : List FieldTree)
  | unnamed
  | none

/-- A struct. -/
structure StructTree where
  attributes : List AttributeTree
  name : String
  fields : FieldsTree

/-- An enum. -/
structure EnumTree where
  name : String
  /-- No variant has fields. -/
  isPlain : Bool

/-- A parameter other than the receiver; only one that is a plain name has a name. -/
structure ParameterTree where
  attributes : List AttributeTree
  name : Option String
  type : TypeTree

/-- A function of a trait. -/
structure FunctionTree where
  attributes : List AttributeTree
  name : String
  parameters : List ParameterTree
  /-- Type of the result, if it is written. -/
  returnType : Option TypeTree
  hasBody : Bool

/-- What a type has to satisfy. -/
inductive BoundTree where
  /-- A trait, by its path. -/
  | trait (path : List PathSegment)
  /-- A trait that is required to be constant. -/
  | constTrait
  /-- A lifetime, or the lifetimes that are captured. -/
  | other

/-- A trait with its functions. -/
structure TraitTree where
  attributes : List AttributeTree
  name : String
  bounds : List BoundTree
  functions : List FunctionTree

/-- An item of a file or module. -/
inductive ItemTree where
  | struct (item : StructTree)
  | enum (item : EnumTree)
  | trait (item : TraitTree)
  | module (items : List ItemTree)
  | other

end RowPlan
