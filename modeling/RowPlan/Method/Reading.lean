import RowPlan.Method.Condition
import RowPlan.Method.Suffix

/-!
# Finding, counting and testing

Queries for rows select the columns that the plan of the result reads. Queries
for a number or a truth value ask for that alone and take no modifiers.
-/

namespace RowPlan

namespace Scope

/-- The columns to select and how to read them, for rows of a type. -/
def rows (scope : Scope) (function : FunctionDecl) (row : TypeUse) :
    Except CompileError (List String × ReadPlan) :=
  let unsupported := .unsupportedReturnType function.name function.returnType.text
  if row.name = scope.entity.name then
    match scope.table.plan with
    | some plan => .ok (scope.table.columns.map Column.name, plan)
    | none => .error unsupported
  else if row.target.isComposite then do
    let (plan, used) ←
      scope.catalog.projectionPlan function.name row.target scope.table.columns
    return (used.map Column.name, plan)
  else .error unsupported

/-- Compiles a query for rows. -/
def find (scope : Scope) (function : FunctionDecl) : Except CompileError Draft := do
  let shape := ReturnShape.of scope.catalog function.returnType
  let (columns, plan) ← scope.rows function shape.row
  let suffix ← scope.suffix function shape true
  let condition ← scope.condition function
  return { MethodFacts.declared function .finder with
    rowType := shape.row
    returnsCollection := shape.isMany
    returnsScalar := shape.isScalar
    plan := some plan
    pageable := suffix.pageable
    orderParameter := suffix.orderParameter
    statement := .select columns condition suffix }

/-- Compiles a query for one value about the rows that satisfy a condition. -/
def findValue (scope : Scope) (function : FunctionDecl) (archetype : Archetype)
    (statement : Option Condition → Statement) : Except CompileError Draft := do
  let shape := ReturnShape.of scope.catalog function.returnType
  function.checkValuesOnly
  let plan ← scope.catalog.scalarPlan shape.row
  let condition ← scope.condition function
  return { MethodFacts.declared function archetype with
    rowType := shape.row
    returnsCollection := shape.isMany
    returnsScalar := shape.isScalar
    plan := some plan
    statement := statement condition }

/-- Compiles a query for the number of rows. -/
def count (scope : Scope) (function : FunctionDecl) : Except CompileError Draft :=
  scope.findValue function .count .count

/-- Compiles a query for whether there are rows. -/
def testExistence (scope : Scope) (function : FunctionDecl) : Except CompileError Draft :=
  scope.findValue function .existence .existence

end Scope

end RowPlan
