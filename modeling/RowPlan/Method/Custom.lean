import RowPlan.Method.Condition
import RowPlan.Method.Suffix

/-!
# Given text

A function may give the text of its query or statement. The text is kept, with
slots in place of placeholders and the suffix after it; no cap is added.
-/

namespace RowPlan

namespace Scope

/-- How to read the rows of a given text. -/
def customPlan (scope : Scope) (function : FunctionDecl) (shape : ReturnShape) :
    Except CompileError (Option ReadPlan) :=
  if shape.isUnit then .ok none
  else if shape.isScalar then (scope.catalog.scalarPlan shape.row).map some
  else if shape.row.name = scope.entity.name then .ok scope.table.plan
  else if shape.row.target.isComposite then do
    let (plan, _) ←
      scope.catalog.projectionPlan function.name shape.row.target scope.table.columns
    return some plan
  else .error (.unmappableType shape.row.text)

/-- The tag that gives the text, and whether it is a statement. -/
def givenText (function : FunctionDecl) : Option (Tag × Bool) :=
  match function.tag? TagName.statement with
  | some statement => some (statement, true)
  | none => (function.tag? TagName.query).map fun query => (query, false)

/-- Compiles a method with given text. -/
def custom (scope : Scope) (function : FunctionDecl) : Except CompileError Draft := do
  let missing (tag : String) := CompileError.invalidTag function.name tag ""
  let (tag, isStatement) ←
    match givenText function with
    | some given => pure given
    | none => throw (missing TagName.query)
  let text ←
    match tag.value? with
    | some text => pure text
    | none => throw (missing tag.name)
  let shape := ReturnShape.of scope.catalog function.returnType
  let suffix ← scope.suffix function shape false
  let bound ← scope.bindText function text
  let plan ← scope.customPlan function shape
  return { MethodFacts.declared function .custom with
    rowType := shape.row
    returnsCollection := shape.isMany
    returnsScalar := shape.isScalar
    plan := plan
    pageable := suffix.pageable
    orderParameter := suffix.orderParameter
    isStatement := isStatement
    statement := .given bound suffix }

end Scope

end RowPlan
