import RowPlan.Method.Condition
import RowPlan.Method.Saving

/-!
# Deleting

A delete takes an entity, values of its columns, or a condition. An entity is
recognised by its key and version, or by all of its columns where the table has
no key.
-/

namespace RowPlan

/-- The columns by which a stored entity is recognised. -/
def Table.guardColumns (table : Table) : List Column :=
  if table.hasIds then table.columns.filter fun column => column.isId || column.isVersion
  else table.columns

/-- The comparison of a column with the entity. -/
def guardComparison : Column × BindSlot → Comparison
  | (column, slot) =>
      { column, comparator := if column.nullable then .same else .equal, slot }

namespace Scope

/-- The condition that a row stores the entity. -/
def entityGuard (scope : Scope) (execution : Execution) (parameter : ParameterDecl) : Condition :=
  .all ((columnSlots execution parameter scope.table.guardColumns).map guardComparison)

/-- Compiles a delete of an entity or a list of them. -/
def deleteEntity (scope : Scope) (function : FunctionDecl) (parameter : ParameterDecl) : Draft :=
  let execution := (scope.execution? parameter.type).getD .single
  { MethodFacts.declared function .deleteByEntity with
    execution := execution
    optimisticLock := scope.table.hasIds && scope.table.version?.isSome
    statement := .delete (some (scope.entityGuard execution parameter)) }

/-- Compiles a delete of the rows that satisfy a condition. -/
def deleteRows (scope : Scope) (function : FunctionDecl) (archetype : Archetype) :
    Except CompileError Draft := do
  let condition ← scope.condition function
  return { MethodFacts.declared function archetype with statement := .delete condition }

/-- Compiles a delete. -/
def delete (scope : Scope) (function : FunctionDecl) (archetype : Archetype) :
    Except CompileError Draft := do
  function.checkValuesOnly
  match archetype, function.values with
  | .deleteByEntity, parameter :: _ => return scope.deleteEntity function parameter
  | _, _ => scope.deleteRows function archetype

end Scope

end RowPlan
