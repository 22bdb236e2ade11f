import RowPlan.Proofs.Drafts
import RowPlan.Proofs.PlannedFields
import RowPlan.Proofs.Signature

/-!
# Queries and their suffixes

The text of a query for rows is a head and a suffix. The head says which rows are asked for:
a selection with its condition, or a given text. The suffix says how they are sorted and how
many of them are returned.
-/

namespace RowPlan

/-- The sort clause binds nothing. -/
theorem Suffix.written_orderClause (suffix : Suffix) (style : MarkerStyle) (binding : Binding) :
    SqlText.written style binding suffix.orderClause =
        (if suffix.orderParameter.isSome then " " ++ orderMarker
          else (suffix.orderBy.map fun keys => " ORDER BY " ++ keys).getD "") ∧
      SqlText.bindAll style binding suffix.orderClause = binding := by
  unfold orderClause
  split
  · exact ⟨SqlText.written_single style binding _, rfl⟩
  · split
    case h_1 keys found =>
      rw [found]
      exact ⟨SqlText.written_single style binding _, rfl⟩
    case h_2 found =>
      rw [found]
      exact ⟨rfl, rfl⟩

namespace Scope

/-- The text of a query without its suffix, with the plan for its rows. -/
inductive QueryHead (scope : Scope) (function : FunctionDecl) :
    SqlText → Option ReadPlan → Prop where
  | selection {columns : List String} {plan : ReadPlan} {condition : Option Condition} :
      scope.archetype function = .finder →
      scope.rows function (ReturnShape.of scope.catalog function.returnType).row =
        .ok (columns, plan) →
      scope.condition function = .ok condition →
      QueryHead scope function
        (.text ("SELECT " ++ ", ".intercalate (columns.map scope.options.quote) ++ " FROM "
            ++ scope.table.ref scope.options) :: Condition.clause scope.options condition)
        (some plan)
  | given {tag : Tag} {isStatement : Bool} {text : String} {bound : SqlText}
      {plan : Option ReadPlan} :
      scope.archetype function = .custom →
      givenText function = some (tag, isStatement) →
      tag.value? = some text →
      scope.bindText function text = .ok bound →
      scope.customPlan function (ReturnShape.of scope.catalog function.returnType) = .ok plan →
      QueryHead scope function bound plan

/-- A draft asks for rows with a head and a suffix. A query for a single row is capped unless
its text is given. -/
structure Queries (scope : Scope) (function : FunctionDecl) (draft : Draft) (head : SqlText)
    (suffix : Suffix) : Prop where
  asks : scope.QueryHead function head draft.plan
  ends : scope.suffix function (ReturnShape.of scope.catalog function.returnType)
    (scope.archetype function == .finder) = .ok suffix
  text : draft.statement.text scope.options scope.table = head ++ suffix.text
  orderParameter : draft.orderParameter = suffix.orderParameter
  execution : draft.execution = .single

/-- The kinds of methods that ask for rows. -/
def queryKinds : List Archetype :=
  [.finder, .custom]

variable {scope : Scope} {function : FunctionDecl} {draft : Draft}

theorem Drafted.queries (drafted : scope.Drafted function draft)
    (kind : scope.archetype function ∈ queryKinds) :
    ∃ head suffix, scope.Queries function draft head suffix := by
  cases drafted with
  | save other => simp [other, queryKinds] at kind
  | deleteEntity other => simp [other, queryKinds] at kind
  | deleteRows other deletes =>
      rcases deletes with rfl | rfl
      · simp [other, queryKinds] at kind
      · simp [other, queryKinds] at kind
  | value other asks =>
      rcases asks with ⟨rfl, _⟩ | ⟨rfl, _⟩
      · simp [other, queryKinds] at kind
      · simp [other, queryKinds] at kind
  | find finder rows suffixSuccess conditionSuccess =>
      refine ⟨_, _, .selection finder rows conditionSuccess, ?_, rfl, rfl, rfl⟩
      rw [finder]
      exact suffixSuccess
  | custom custom given content suffixSuccess boundSuccess planSuccess =>
      refine ⟨_, _, .given custom given content boundSuccess planSuccess, ?_, rfl, rfl, rfl⟩
      rw [custom]
      exact suffixSuccess

/-! ## Selected columns -/

/-- Rows of the entity are read from all columns, rows of another class from those that its
projection reads. -/
theorem rows_eq_ok {row : TypeUse} {columns : List String} {plan : ReadPlan}
    (success : scope.rows function row = .ok (columns, plan)) :
    (scope.table.plan = some plan ∧ columns = scope.table.columns.map Column.name) ∨
      (row.target.isComposite = true ∧ ∃ used,
        scope.catalog.projectionPlan function.name row.target scope.table.columns =
          .ok (plan, used) ∧
        columns = used.map Column.name) := by
  unfold rows at success
  dsimp only at success
  split at success
  case isTrue =>
    split at success
    case h_1 own planned =>
      cases success
      exact .inl ⟨planned, rfl⟩
    case h_2 => cases success
  case isFalse =>
    split at success
    case isTrue composite =>
      obtain ⟨⟨projection, used⟩, planned, equality⟩ := bind_eq_ok_iff.mp success
      cases equality
      exact .inr ⟨composite, used, planned, rfl⟩
    case isFalse => cases success

theorem mem_columns_of_rows {row : TypeUse} {columns : List String} {plan : ReadPlan}
    (success : scope.rows function row = .ok (columns, plan)) :
    ∀ name, name ∈ columns → ∃ column, column ∈ scope.table.columns ∧ column.name = name := by
  intro name member
  rcases rows_eq_ok success with ⟨_, rfl⟩ | ⟨_, used, planned, rfl⟩
  · exact List.mem_map.mp member
  · rw [Catalog.map_name_used planned] at member
    exact Catalog.mem_columns_of_projectionPlan planned name member

end Scope

end RowPlan
