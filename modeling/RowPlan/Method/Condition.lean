import RowPlan.Method.Signature
import RowPlan.Placeholder

/-!
# Conditions

The condition of a query or delete is either given as text with placeholders or
derived from the value parameters, one comparison for each.
-/

namespace RowPlan

/-! ## Given text -/

/-- The slot that a placeholder stands for, if a value parameter has its name. -/
def Scope.placeholderSlot (scope : Scope) (function : FunctionDecl) (name : String)
    (isList : Bool) : Option BindSlot :=
  (function.values.find? fun parameter => parameter.name == name).map fun parameter =>
    let compared := if isList then parameter.type.element?.getD parameter.type else parameter.type
    { path := [parameter.name]
      type := parameter.type
      columnType := (scope.catalog.resolve compared).map KnownType.columnType
      isArray := isList }

/-- Puts slots in place of placeholders. -/
def Scope.bindPlaceholders (scope : Scope) (function : FunctionDecl) :
    List Segment → Except CompileError SqlText
  | [] => .ok []
  | .text text :: rest => do return .text text :: (← scope.bindPlaceholders function rest)
  | .value name isList :: rest =>
      match scope.placeholderSlot function name isList with
      | none => .error (.unknownParameter function.name name)
      | some slot => do
          let bound : SqlText :=
            if isList then [.text "= ANY(", .slot (some name) slot, .text ")"]
            else [.slot (some name) slot]
          return bound ++ (← scope.bindPlaceholders function rest)

/-- Binds the placeholders of a text, which have to use every value parameter. -/
def Scope.bindText (scope : Scope) (function : FunctionDecl) (text : String) :
    Except CompileError SqlText := do
  let pieces := segments text
  let bound ← scope.bindPlaceholders function pieces
  function.checkUsed (placeholderNames pieces)
  return bound

/-! ## Derived comparisons -/

/-- The columns that a parameter may mean: those whose path joined by underscores is
its name, else those of its name, else those whose leaf field has its name. -/
def columnsNamed (columns : List Column) (name : String) : List Column :=
  match columns.filter fun column => "_".intercalate column.path == name with
  | [] =>
      match columns.filter fun column => column.name == name with
      | [] => columns.filter fun column => column.leaf == name
      | named => named
  | joined => joined

/-- The comparison of a column with a parameter: membership for a list, equality
otherwise, where two absent values are equal if both sides may be absent. -/
def Scope.comparison (scope : Scope) (column : Column) (parameter : ParameterDecl) : Comparison :=
  let slot : BindSlot :=
    { path := [parameter.name], type := parameter.type, columnType := some column.columnType }
  if scope.catalog.isCollection parameter.type && !column.columnType.isJson then
    { column, comparator := .member, slot := { slot with isArray := true } }
  else if column.nullable && parameter.type.nullable then { column, comparator := .same, slot }
  else { column, comparator := .equal, slot }

/-- The comparison that a value parameter asks for. -/
def Scope.parameterComparison (scope : Scope) (function : FunctionDecl)
    (parameter : ParameterDecl) : Except CompileError Comparison :=
  match columnsNamed scope.table.columns parameter.name with
  | [column] => .ok (scope.comparison column parameter)
  | [] => .error (.unknownFinderParameter function.name parameter.name)
  | several =>
      .error (.ambiguousColumn function.name parameter.name (several.map Column.name))

/-- The condition derived from the value parameters, if there are any. -/
def Scope.derivedCondition (scope : Scope) (function : FunctionDecl) :
    Except CompileError (Option Condition) := do
  match ← function.values.mapM (scope.parameterComparison function) with
  | [] => return none
  | comparisons => return some (.all comparisons)

/-- The condition of a function, given or derived. -/
def Scope.condition (scope : Scope) (function : FunctionDecl) :
    Except CompileError (Option Condition) :=
  match (function.tag? TagName.condition).bind Tag.value? with
  | some text => do return some (.given (← scope.bindText function text))
  | none => scope.derivedCondition function

end RowPlan
