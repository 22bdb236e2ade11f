import RowPlan.Method.Custom
import RowPlan.Method.Deleting
import RowPlan.Method.Reading

/-!
# Compiling a function

The kind of a function decides which statement it is; the options decide how the
statement is written as text.
-/

namespace RowPlan

namespace Scope

/-- The method of a function before its statement is written as text. -/
def draft (scope : Scope) (function : FunctionDecl) : Except CompileError Draft :=
  match scope.archetype function with
  | .save => scope.save function
  | .deleteByEntity => scope.delete function .deleteByEntity
  | .deleteByFields => scope.delete function .deleteByFields
  | .deleteWhere => scope.delete function .deleteWhere
  | .finder => scope.find function
  | .count => scope.count function
  | .existence => scope.testExistence function
  | .custom => scope.custom function

/-- Compiles a function of a repository. -/
def compile (scope : Scope) (function : FunctionDecl) : Except CompileError Method :=
  (scope.draft function).map (Draft.finish scope.options scope.table)

end Scope

end RowPlan
