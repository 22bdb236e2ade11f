import RowPlan.Method.Signature

/-!
# Saving

A save inserts a row. Where the table has a key, the row with the same key is
updated instead, unless the function asks to fail then. A version column is
stored one higher, and an update takes place only on the version that was read.
-/

namespace RowPlan

/-- The slot for a column of an entity, which is a parameter or in a batch an element
of one. -/
def columnSlot (execution : Execution) (parameter : ParameterDecl) (column : Column) :
    BindSlot where
  path := match execution with
    | .single => parameter.name :: column.path
    | .batch => column.path
  type := column.type
  columnType := some column.columnType

/-- The columns of a table with the slots for them. -/
def columnSlots (execution : Execution) (parameter : ParameterDecl) (columns : List Column) :
    List (Column × BindSlot) :=
  columns.map fun column => (column, columnSlot execution parameter column)

/-- Updates the stored row with the same key. -/
def Table.conflict (table : Table) : Conflict where
  keys := table.ids
  updates := table.columns.filter fun column => !column.isId
  version := table.version?

/-- Compiles a save. -/
def Scope.save (scope : Scope) (function : FunctionDecl) : Except CompileError Draft :=
  match function.parameters with
  | [parameter] =>
      match scope.execution? parameter.type with
      | none => .error (.invalidSaveParameter function.name)
      | some execution =>
          let table := scope.table
          let updates := table.hasIds && !function.has TagName.onConflictFail
          .ok { MethodFacts.declared function .save with
            execution := execution
            optimisticLock := updates && table.version?.isSome
            statement := .insert {
              values := columnSlots execution parameter table.columns
              conflict := if updates then some table.conflict else none } }
  | _ => .error (.invalidSaveParameter function.name)

end RowPlan
