import RowPlan.Method.Signature
import RowPlan.Text.Blank
import RowPlan.Text.Numeral

/-!
# Sorting, limits and pages

What a function says about the rows after its condition. At most one limit is
taken: a limit comes from a tag, a parameter, the wish for the first row, or a
request for a page; where there is none, a query for a single row is capped so
that a second row can be noticed.
-/

namespace RowPlan

/-- The number in a limit tag, if the function has one. -/
def FunctionDecl.literalLimit (function : FunctionDecl) : Except CompileError (Option Nat) :=
  match function.tag? TagName.limit with
  | none => .ok none
  | some tag =>
      let value := tag.value?.getD ""
      match readNumeral (trim value.toList) with
      | .ok rows => .ok (some rows)
      | .error _ => .error (.invalidTag function.name TagName.limit value)

/-- The names of the limit sources that are present. -/
def limitSources (literal parameter first pageable : Bool) : List String :=
  [(literal, "Limit annotation"), (parameter, "Limit parameter"), (first, "First"),
    (pageable, "Pageable")].filterMap fun (present, source) => if present then some source else none

namespace Scope

/-- The slot for a limit that is a parameter. -/
def limitSlot (scope : Scope) (parameter : ParameterDecl) : BindSlot :=
  { path := [parameter.name]
    type := parameter.type
    columnType := (scope.catalog.resolve parameter.type).map KnownType.columnType }

/-- Reads and checks the suffix of a function. `capped` asks for a limit on queries for a
single row that have none. -/
def suffix (scope : Scope) (function : FunctionDecl) (shape : ReturnShape) (capped : Bool) :
    Except CompileError Suffix := do
  let pageable := (function.parametersOf .pageable).head?.map ParameterDecl.name
  if pageable.isSome != shape.isPage then
    throw (.paginationMismatch function.name)
  let first := function.has TagName.first
  if first && shape.isMany then
    throw (.firstOnCollection function.name)
  let literal ← function.literalLimit
  let parameter := (function.parametersOf .limit).head?
  let sources := limitSources literal.isSome parameter.isSome first pageable.isSome
  if sources.length > 1 then
    throw (.ambiguousLimit function.name sources)
  let limit :=
    match literal, parameter with
    | some rows, _ => some (RowLimit.literal rows)
    | none, some parameter => some (.bound (scope.limitSlot parameter))
    | none, none =>
        if first then some .first
        else if capped && !shape.isMany && pageable.isNone then
          some (.cap scope.options.singleResultCap.toNat)
        else none
  let orderParameter := (function.parametersOf .order).head?.map ParameterDecl.name
  let orderBy :=
    if orderParameter.isSome then none
    else (function.tag? TagName.orderBy).bind Tag.value?
  return { orderBy, orderParameter, limit, pageable }

end Scope

end RowPlan
