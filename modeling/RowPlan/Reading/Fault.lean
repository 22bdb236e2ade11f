import RowPlan.Source.SyntaxFault
import RowPlan.Text.Similarity

/-!
# Faults of source text

What can be wrong with declarations that are well formed as text but cannot be
read as class models. All faults of a declaration are reported together, as a
tree that follows the nesting of the declarations.
-/

namespace RowPlan

/-- One thing that is wrong. -/
inductive FaultCause where
  /-- A struct whose fields have no names. -/
  | tupleStruct
  /-- A type that no column or class stands for. -/
  | unsupportedType
  /-- A parameter that is a pattern. -/
  | patternParameter
  /-- A key that the attribute does not have. -/
  | unknownField (key : String) (available : List String)
  /-- A key given again. -/
  | duplicateField (key : String)
  /-- A value of another kind than the one wanted. -/
  | unexpectedType (kind : String)
  /-- A key or value written in another form than the one wanted. -/
  | unexpectedFormat (form : String)
  /-- A text that is no value of the wanted kind. -/
  | unknownValue (value : String)
  /-- A number that does not fit. -/
  | numeral (fault : NumeralFault)
  /-- Arguments where none are taken. -/
  | unexpectedArguments
  /-- An attribute without its arguments. -/
  | missingArguments (style path : String)
  /-- Tokens in an attribute that cannot be taken. -/
  | malformed (fault : SyntaxFault)

namespace FaultCause

/-- What is reported of a cause. -/
def message : FaultCause → String
  | tupleStruct => "tuple structs cannot be mapped"
  | unsupportedType => "unsupported type"
  | patternParameter => "parameters must be plain identifiers"
  | unknownField key available =>
      match closestName key available with
      | some suggestion => s!"Unknown field: `{key}`. Did you mean `{suggestion}`?"
      | none =>
          s!"Unknown field: `{key}`. Available values: "
            ++ ", ".intercalate (available.map fun name => s!"`{name}`")
  | duplicateField key => s!"Duplicate field `{key}`"
  | unexpectedType kind => s!"Unexpected type `{kind}`"
  | unexpectedFormat form => s!"Unexpected meta-item format `{form}`"
  | unknownValue value => s!"Unknown value: `{value}`"
  | numeral fault => fault.message
  | unexpectedArguments => "unexpected token in attribute"
  | missingArguments style path =>
      s!"expected attribute arguments in parentheses: {style}[{path}(...)]"
  | malformed fault => fault.message

end FaultCause

/-- One fault, with the key it was found at, or several together. -/
inductive Fault where
  /-- One cause. -/
  | single (cause : FaultCause) (location : Option String)
  /-- Several faults together. -/
  | group (faults : List Fault) (location : Option String)

namespace Fault

/-- A fault without location. -/
def of (cause : FaultCause) : Fault :=
  single cause none

/-- Several faults as one; a group of one fault is that fault. -/
def together : List Fault → Fault
  | [fault] => fault
  | faults => group faults none

/-- Says at which key a fault was found. -/
def located (key : String) : Fault → Fault
  | single cause _ => single cause (some key)
  | group faults _ => group faults (some key)

/-- The words that name the place of a fault. -/
def place : Option String → String
  | none => ""
  | some key => " at " ++ key

mutual

/-- What is reported of a fault: its cause or, for several, each in turn, and then its place. -/
def message : Fault → String
  | single cause location => cause.message ++ place location
  | group faults location =>
      "Multiple errors: (" ++ ", ".intercalate (messages faults) ++ ")" ++ place location

/-- What is reported of each fault. -/
def messages : List Fault → List String
  | [] => []
  | fault :: rest => fault.message :: messages rest

end

mutual

/-- The number of single faults. -/
def count : Fault → Nat
  | single _ _ => 1
  | group faults _ => counts faults

/-- The number of single faults in several faults. -/
def counts : List Fault → Nat
  | [] => 0
  | fault :: rest => fault.count + counts rest

end

end Fault

end RowPlan
