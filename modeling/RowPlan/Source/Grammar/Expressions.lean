import RowPlan.Source.Literal
import RowPlan.Source.Grammar.Atoms

/-!
# Expressions

Operands are atoms with calls, fields and indices after them and operators
before them; binary operators join operands by their precedence. Of operators
with the same precedence the first binds tighter, except for assignments.
-/

namespace RowPlan

namespace Grammar

open RowPlan.Parser

/-! ## Operators -/

/-- Precedences of binary operators, from the loosest to the tightest. -/
inductive Precedence where
  | lowest
  | assignment
  | range
  | disjunction
  | conjunction
  | letCondition
  | comparison
  | bitOr
  | bitXor
  | bitAnd
  | shift
  | sum
  | product
  | cast
  deriving DecidableEq, Repr

/-- The place of a precedence in their order. -/
def Precedence.rank (precedence : Precedence) : Nat :=
  precedence.ctorIdx

/-- Binary operators; an operator stands before those that begin it. -/
def binaryOperators : List (String × Precedence) := [
  ("<<=", .assignment), (">>=", .assignment),
  ("+=", .assignment), ("-=", .assignment), ("*=", .assignment), ("/=", .assignment),
  ("%=", .assignment), ("^=", .assignment), ("&=", .assignment), ("|=", .assignment),
  ("&&", .conjunction), ("||", .disjunction), ("<<", .shift), (">>", .shift),
  ("==", .comparison), ("<=", .comparison), ("!=", .comparison), (">=", .comparison),
  ("+", .sum), ("-", .sum), ("*", .product), ("/", .product), ("%", .product),
  ("^", .bitXor), ("&", .bitAnd), ("|", .bitOr), ("<", .comparison), (">", .comparison)]

/-- The binary operator that lies ahead. -/
def operatorAhead (tokens : List Token) : Option (String × Precedence) :=
  binaryOperators.find? fun (text, _) => Ahead.mark text tokens

/-- An equals sign that assigns. -/
def assignmentAhead : Ahead :=
  Ahead.both (Ahead.mark "=") (Ahead.neither (Ahead.mark "=>"))

/-- The precedence of what lies ahead. -/
def precedenceAhead (tokens : List Token) : Precedence :=
  match operatorAhead tokens with
  | some (_, precedence) => precedence
  | none =>
      if assignmentAhead tokens then .assignment
      else if Ahead.mark ".." tokens then .range
      else if Ahead.word "as" tokens then .cast
      else .lowest

/-! ## Members -/

/-- A place that is written as a part of a number with a point. -/
def placeOfText (text : List Char) : Parser Unit := do
  let (isSigned, digits) := match text with
    | '-' :: digits => (true, digits)
    | digits => (false, digits)
  match Literal.scan digits with
  | some (.integer _ value hasSuffix, []) => place isSigned value hasSuffix
  | some (_, []) => refuseHere (.expected [.integerLiteral])
  | _ => refuseHere .unreadable

/-- Two places that look like a number with a point, or one before a point: whether the
point is at the end. -/
def places (number : String) : Parser Bool := do
  let first := number.toList.takeWhile fun c => c != '.'
  let second := (number.toList.dropWhile fun c => c != '.').drop 1
  placeOfText first
  if !second.isEmpty then placeOfText second
  return second.isEmpty

/-- Places that look like a number with a point, if they lie ahead: whether there are some and
no other member is to follow. -/
def placesAhead : Parser Bool := do
  match Literal.next? (← get) with
  | some (.float digits suffix, rest) =>
      set rest
      return !(← places (digits ++ suffix))
  | _ => return false

/-- What is taken from a value after a dot: the awaited value, a field, or the result of a
method. -/
def memberAccess (rules : Rules) : Parser ExpressionTree := do
  if ← placesAhead then return formed .field
  if ← word? "await" then return formed .awaiting
  let isNamed ← member
  if isNamed && (← sees (Ahead.mark "::")) then
    mark "::"
    let _ ← pathArguments rules
    arguments rules
    return formed .methodCall
  if isNamed && (← sees (Ahead.group .parenthesis)) then
    arguments rules
    return formed .methodCall
  return formed .field

/-- What is called, indexed or taken from a value, at most `fuel` times. -/
def suffixes (rules : Rules) (value : ExpressionTree) : Nat → Parser ExpressionTree
  | 0 => return value
  | fuel + 1 => do
      if ← sees (Ahead.group .parenthesis) then
        arguments rules
        suffixes rules (formed .call) fuel
      else if ← sees (Ahead.group .bracket) then
        let _ ← inside .bracket (rules.expression true)
        suffixes rules (formed .index) fuel
      else if value.form = .range then return value
      else if ← mark? "?" then suffixes rules (formed .propagation) fuel
      else if ← sees Ahead.singleDot then
        mark "."
        suffixes rules (← memberAccess rules) fuel
      else return value

/-- A value with what is called, indexed or taken from it. -/
def withSuffixes (rules : Rules) (value : ExpressionTree) : Parser ExpressionTree := do
  suffixes rules value ((← get).length + 1)

/-! ## Operands and operators -/

/-- What shows that a range has no end. -/
def rangeStop (allowStruct : Bool) : Ahead :=
  let marks := [",", ";", "?", "=", "+", "/", "%", "^", ">", "<=", "!=", "-=", "*=", "&=", "|=",
    "<<="]
  Ahead.any ([Ahead.atEnd, Ahead.singleDot, Ahead.word "as"] ++ marks.map Ahead.mark
    ++ if allowStruct then [] else [Ahead.group .brace])

/-- The end of a range, if it has one. -/
def rangeEnd (allowStruct needsEnd : Bool) (value : Parser ExpressionTree) : Parser Unit := do
  if !needsEnd && (← sees (rangeStop allowStruct)) then return ()
  let _ ← value

/-- What is called, indexed or taken from the type of a cast. -/
def castSuffixAhead (tokens : List Token) : Option CastSuffix :=
  if Ahead.singleDot tokens then
    let isCall := Ahead.both Ahead.identifier
      (Ahead.second (Ahead.either (Ahead.group .parenthesis) (Ahead.mark "::")))
    if Ahead.second (Ahead.word "await") tokens then some .awaiting
    else if Ahead.second isCall tokens then some .methodCall
    else some .field
  else if Ahead.mark "?" tokens then some .propagation
  else if Ahead.group .bracket tokens then some .index
  else if Ahead.group .parenthesis tokens then some .call
  else none

/-- Fails if the type of a cast is called, indexed, or something is taken from it. -/
def checkCastEnd : Parser Unit := do
  match castSuffixAhead (← get) with
  | some suffix => refuse (.afterCast suffix)
  | none => return ()

/-- A reference, or the address of a place. -/
def referenceTo (rules : Rules) (allowStruct : Bool) : Parser ExpressionTree := do
  mark "&"
  let isRaw ← do
    if ← sees (Ahead.second (Ahead.words ["mut", "const"])) then word? "raw" else pure false
  let isMutable ← word? "mut"
  if isRaw && !isMutable then word "const"
  let _ ← rules.operand allowStruct
  return formed (if isRaw then .rawAddress else .reference)

/-- Whether an operator before an operand lies ahead. -/
def unaryAhead : Ahead :=
  Ahead.any [Ahead.mark "*", Ahead.mark "!", Ahead.mark "-"]

mutual

/-- An operand, with the operators before it. -/
def operand (rules : Rules) (allowStruct : Bool) : Nat → Parser ExpressionTree
  | 0 => giveUp
  | fuel + 1 => do
      let attributes ← outerAttributes rules
      if ← sees (Ahead.mark "&") then referenceTo rules allowStruct
      else if ← sees unaryAhead then
        skip 1
        let _ ← rules.operand allowStruct
        return formed .unary
      else if ← sees (Ahead.mark "..") then
        let needsEnd ← rangeMarks false
        rangeEnd allowStruct needsEnd (rightOperand rules allowStruct .range fuel)
        let value ← withSuffixes rules (formed .range)
        if value.form = .range && !attributes.isEmpty then refuseHere .attributesOnRange
        return value
      else withSuffixes rules (← atom rules allowStruct)

/-- The right operand of an operator: an operand with the operators after it that bind
tighter, or assign after an assignment. -/
def rightOperand (rules : Rules) (allowStruct : Bool) (precedence : Precedence) :
    Nat → Parser ExpressionTree
  | 0 => giveUp
  | fuel + 1 => do
      settle rules allowStruct precedence (← operand rules allowStruct fuel) fuel

/-- Gives operators to a right operand as long as they belong to it. -/
def settle (rules : Rules) (allowStruct : Bool) (precedence : Precedence)
    (value : ExpressionTree) : Nat → Parser ExpressionTree
  | 0 => giveUp
  | fuel + 1 => do
      let before ← get
      let next := precedenceAhead before
      if precedence.rank < next.rank || next = precedence && precedence = .assignment then
        let wider ← climb rules allowStruct next value fuel
        if (← get).length = before.length then return wider
        settle rules allowStruct precedence wider fuel
      else return value

/-- Joins operators to a left operand, as long as they bind at least as tight as `base`. -/
def climb (rules : Rules) (allowStruct : Bool) (base : Precedence) (left : ExpressionTree) :
    Nat → Parser ExpressionTree
  | 0 => giveUp
  | fuel + 1 => do
      if left.form = .range then return left
      match operatorAhead (← get) with
      | some (operator, precedence) =>
          if precedence.rank < base.rank then return left
          let isComparison := precedence = .comparison
          if isComparison && left.isComparison then refuse .chainedComparison
          mark operator
          let _ ← rightOperand rules allowStruct precedence fuel
          climb rules allowStruct base { form := .binary, isComparison } fuel
      | none =>
          if base.rank ≤ Precedence.assignment.rank && (← sees assignmentAhead) then
            mark "="
            let _ ← rightOperand rules allowStruct .assignment fuel
            climb rules allowStruct base (formed .assignment) fuel
          else if base.rank ≤ Precedence.range.rank && (← sees (Ahead.mark "..")) then
            let needsEnd ← rangeMarks false
            rangeEnd allowStruct needsEnd (rightOperand rules allowStruct .range fuel)
            climb rules allowStruct base (formed .range) fuel
          else if ← wordIf? (base.rank ≤ Precedence.cast.rank) "as" then
            let _ ← rules.type false
            checkCastEnd
            climb rules allowStruct base (formed .cast) fuel
          else return left

end

/-! ## Expressions -/

/-- What bounds the steps of an expression: four for each token. -/
def stepLimit : Parser Nat := do
  return 4 * (← get).length + 4

/-- An expression with operators that bind at least as tight as `base`. -/
def expressionAbove (rules : Rules) (base : Precedence) (allowStruct : Bool) :
    Parser ExpressionTree := do
  let steps ← stepLimit
  climb rules allowStruct base (← operand rules allowStruct steps) steps

/-- An expression. -/
def expression (rules : Rules) (allowStruct : Bool) : Parser ExpressionTree :=
  expressionAbove rules .lowest allowStruct

/-- Goes on after the left operand of an expression. -/
def expressionAfter (rules : Rules) (left : ExpressionTree) : Parser ExpressionTree := do
  climb rules true .lowest left (← stepLimit)

/-- Whether an expression begins here that ends by itself. -/
def selfEndingAhead : Ahead :=
  Ahead.any [Ahead.words ["if", "while", "loop", "match", "unsafe"],
    Ahead.both (Ahead.word "for") (Ahead.neither (Ahead.second genericsAhead)),
    tryBlockAhead, Ahead.both (Ahead.word "const") (Ahead.second (Ahead.group .brace)),
    Ahead.group .brace, Ahead.lifetime]

/-- An expression that stands as a statement or as the body of a match arm: if it begins
with a block, it ends with it, unless something is taken from its value. -/
def statementExpression (rules : Rules) : Parser ExpressionTree := do
  let _ ← outerAttributes rules
  if ← sees selfEndingAhead then
    let value ← atom rules true
    if ← sees (Ahead.either Ahead.singleDot (Ahead.mark "?")) then
      expressionAfter rules (← withSuffixes rules value)
    else return value
  else expression rules true

end Grammar

end RowPlan
