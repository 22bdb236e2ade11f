import RowPlan.Source.Token
import RowPlan.Text.Numeral

/-!
# Faults of syntax

Why tokens cannot be taken for what a rule of the grammar wants. A fault says
too whether nothing was left to take, since that is reported with it.
-/

namespace RowPlan

/-! ## What rules want -/

/-- What a rule wants to see next. -/
inductive Wanted where
  /-- A mark or word that is written in one way only. -/
  | exactly (text : String)
  /-- Anything of a kind. -/
  | kind (name : String)
  deriving DecidableEq, Repr

/-- A text among the things that are wanted stands for itself. -/
instance : Coe String Wanted := ⟨.exactly⟩

namespace Wanted

/-- What is reported as wanted; what is written in one way only is quoted. -/
def text : Wanted → String
  | exactly text => s!"`{text}`"
  | kind name => name

/-- A word that is no keyword. -/
def identifier : Wanted := kind "identifier"

/-- The word that stands for no name. -/
def underscore : Wanted := kind "underscore"

/-- A lifetime. -/
def lifetime : Wanted := kind "lifetime"

/-- A literal of any kind. -/
def literal : Wanted := kind "literal"

/-- A literal that is a text. -/
def stringLiteral : Wanted := kind "string literal"

/-- A literal that is a whole number. -/
def integerLiteral : Wanted := kind "integer literal"

/-- A whole number, as the place of a member. -/
def integer : Wanted := kind "integer"

/-- A group in parentheses. -/
def parentheses : Wanted := kind "parentheses"

/-- A group in braces. -/
def curlyBraces : Wanted := kind "curly braces"

/-- A group in square brackets. -/
def squareBrackets : Wanted := kind "square brackets"

/-- A group in any brackets. -/
def delimiter : Wanted := kind "delimiter"

/-- An expression. -/
def expression : Wanted := kind "an expression"

/-- A loop after a label. -/
def loop : Wanted := kind "loop"

/-- A block after a label. -/
def blockExpression : Wanted := kind "block expression"

/-- A whole number without suffix. -/
def plainInteger : Wanted := kind "unsuffixed integer"

/-- The end of a range that has to have one. -/
def rangeEnd : Wanted := kind "range upper bound"

/-- A name in a path after the colons that stand before it. -/
def pathName : Wanted := kind "path segment after `::`"

/-- A group in given brackets. -/
def group : Delimiter → Wanted
  | .parenthesis => parentheses
  | .bracket => squareBrackets
  | .brace => curlyBraces

/-- What is reported where one of several things is wanted. -/
def oneOf : List Wanted → String
  | [] => "unexpected token"
  | [only] => s!"expected {only.text}"
  | [first, second] => s!"expected {first.text} or {second.text}"
  | wanted => "expected one of: " ++ ", ".intercalate (wanted.map text)

end Wanted

/-! ## Faults -/

/-- What is written after the type of a cast and may not stand there. -/
inductive CastSuffix where
  | awaiting
  | methodCall
  | field
  | propagation
  | index
  | call
  deriving DecidableEq, Repr

/-- What is reported of what is written after a cast. -/
def CastSuffix.text : CastSuffix → String
  | awaiting => "`.await`"
  | methodCall => "a method call"
  | field => "a field access"
  | propagation => "`?`"
  | index => "indexing"
  | call => "a function call"

/-- Why tokens cannot be taken. -/
inductive SyntaxCause where
  /-- None of what is wanted comes next. -/
  | expected (wanted : List Wanted)
  /-- A keyword where an identifier is wanted. -/
  | keyword (name : String)
  /-- Tokens that are left over in a group, or after everything else. -/
  | leftOver (group : Option Delimiter)
  /-- A statement after one that has to end with a semicolon. -/
  | missingSemicolon
  /-- A comparison of a comparison. -/
  | chainedComparison
  /-- A cast with something after its type. -/
  | afterCast (suffix : CastSuffix)
  /-- A range without one of its ends within a slice pattern. -/
  | openRangeInSlice
  /-- A labelled loop or block, as the value with which another one is left. -/
  | labelledValue
  /-- Attributes before a range that begins with its dots. -/
  | attributesOnRange
  /-- An attribute as the value of an attribute. -/
  | attributeInside
  /-- Two receivers among the parameters of a function. -/
  | secondReceiver
  /-- A receiver after other parameters. -/
  | lateReceiver
  /-- An opaque type without a trait. -/
  | opaqueWithoutTrait
  /-- The type of an object without a trait. -/
  | objectWithoutTrait
  /-- Captured parameters where no opaque type is described. -/
  | captureNotAllowed
  /-- A constant trait, in brackets or not, where traits may not be constant. -/
  | constNotAllowed (inBrackets : Bool)
  /-- A trait that may be missing, with parameters bound before it. -/
  | parametersOfOptional
  /-- Parameters after the word that begins the conditions of an item. -/
  | parametersOfConditions
  /-- An implementation of the lack of no trait. -/
  | negativeInherent
  /-- A place that is not a number, or one too large. -/
  | numeral (fault : NumeralFault)
  /-- A place that is written as no token is. -/
  | unreadable
  /-- The steps that a rule may take are used up, which no tokens bring about. -/
  | outOfSteps
  deriving DecidableEq

/-- What is reported of a cause. -/
def SyntaxCause.message : SyntaxCause → String
  | expected wanted => Wanted.oneOf wanted
  | keyword name => s!"expected identifier, found keyword `{name}`"
  | leftOver (some .parenthesis) => "unexpected token, expected `)`"
  | leftOver (some .bracket) => "unexpected token, expected `]`"
  | leftOver (some .brace) => "unexpected token, expected `\x7d`"
  | leftOver none => "unexpected token"
  | missingSemicolon => "unexpected token, expected `;`"
  | chainedComparison => "comparison operators cannot be chained"
  | afterCast suffix => s!"casts cannot be followed by {suffix.text}"
  | openRangeInSlice => "range pattern is not allowed unparenthesized inside slice pattern"
  | labelledValue => "parentheses required"
  | attributesOnRange => "attributes are not allowed on range expressions starting with `..`"
  | attributeInside => "unexpected attribute inside of attribute"
  | secondReceiver => "unexpected second method receiver"
  | lateReceiver => "unexpected method receiver"
  | opaqueWithoutTrait => "at least one trait must be specified"
  | objectWithoutTrait => "at least one trait is required for an object type"
  | captureNotAllowed => "`use<...>` precise capturing syntax is not allowed here"
  | constNotAllowed true => "`[const]` is not allowed here"
  | constNotAllowed false => "`const` is not allowed here"
  | parametersOfOptional => "`for<...>` binder not allowed with `?` trait polarity modifier"
  | parametersOfConditions =>
      "generic parameters on `where` clauses are reserved for future use"
  | negativeInherent => "inherent impls cannot be negative"
  | numeral fault => fault.message
  | unreadable => "cannot parse string into token stream"
  | outOfSteps => "out of steps"

/-- Why tokens cannot be taken, and whether nothing was left to take. -/
structure SyntaxFault where
  cause : SyntaxCause
  atEnd : Bool := false
  deriving DecidableEq

/-- What is reported of a fault; at the end of the tokens that is said first. -/
def SyntaxFault.message : SyntaxFault → String
  | { cause, atEnd := false } => cause.message
  | { cause := .expected [], atEnd := true } => "unexpected end of input"
  | { cause, atEnd := true } => "unexpected end of input, " ++ cause.message

end RowPlan
