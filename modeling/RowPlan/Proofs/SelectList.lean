import RowPlan.Proofs.IdentityProjection
import RowPlan.Proofs.QueryText

/-!
# Select lists

A query for rows selects what its plan reads. For the entity the names come from the table,
for a projection they are looked up again by the plan, and in both ways the list between
`SELECT` and `FROM` is the columns of the plan in reading order.
-/

namespace RowPlan

/-- A method selects the columns that its plan reads, one by one and in reading order. -/
structure Method.SelectsPlan (options : Options) (table : Table) (method : Method)
    (plan : ReadPlan) : Prop where
  planned : method.plan = some plan
  list : ∃ rest, method.sql =
    "SELECT " ++ ", ".intercalate (plan.columns.map options.quote) ++ " FROM "
      ++ table.ref options ++ rest
  some : plan.columns ≠ []
  known : ∀ name, name ∈ plan.columns → name ∈ table.columns.map Column.name

section

variable {options : Options} {catalog : Catalog} {entity : ClassDecl}
  {overrides : Option ClassDecl} {table : Table} {plan : ReadPlan}

/-- The plan of an entity reads every column of its table once, in the order of the table. -/
theorem Table.columns_of_plan (built : build options catalog entity overrides = .ok table)
    (distinct : entity.DistinctFields) (planned : table.plan = some plan) :
    plan.columns = table.columns.map Column.name := by
  have proper := proper_of_plan built planned
  obtain ⟨flattens, _, own, ownFound, ownPlanned⟩ := build_parts built proper
  obtain rfl := Option.some.inj (ownFound.symm.trans planned)
  obtain ⟨parts, entityPlanned, mirrors⟩ := flattens.entityPlan_mirrors distinct
  obtain rfl := Except.ok.inj (entityPlanned.symm.trans ownPlanned)
  rw [ReadPlan.columns, mirrors.columnsOfParts flattens]

theorem Table.columns_ne_nil_of_plan
    (built : build options catalog entity overrides = .ok table)
    (composite : entity.isComposite = true) (planned : table.plan = some plan) :
    table.columns ≠ [] := by
  apply (build_parts built (proper_of_plan built planned)).1.columns_ne_nil
  exact ClassDecl.fields_ne_nil composite

end

namespace Scope

variable {scope : Scope} {function : FunctionDecl} {overrides : Option ClassDecl}

/-- What is selected for rows of a type is what the plan for them reads. -/
theorem columns_of_rows {row : TypeUse} {columns : List String} {plan : ReadPlan}
    (built : Table.build scope.options scope.catalog scope.entity overrides = .ok scope.table)
    (distinct : scope.entity.DistinctFields) (composite : scope.entity.isComposite = true)
    (success : scope.rows function row = .ok (columns, plan)) :
    columns = plan.columns ∧ plan.columns ≠ [] ∧
      ∀ name, name ∈ plan.columns → name ∈ scope.table.columns.map Column.name := by
  rcases rows_eq_ok success with ⟨planned, rfl⟩ | ⟨rowComposite, used, planned, rfl⟩
  · have some := Table.columns_ne_nil_of_plan built composite planned
    rw [Table.columns_of_plan built distinct planned]
    exact ⟨rfl, by simpa using some, fun name member => member⟩
  · refine ⟨Catalog.map_name_used planned,
      Catalog.columns_of_projectionPlan_ne_nil planned rowComposite, ?_⟩
    intro name member
    exact List.mem_map.mpr (Catalog.mem_columns_of_projectionPlan planned name member)

end Scope

theorem compile_selects_plan_columns {scope : Scope} {function : FunctionDecl}
    {overrides : Option ClassDecl} {method : Method}
    (built : Table.build scope.options scope.catalog scope.entity overrides = .ok scope.table)
    (distinct : scope.entity.DistinctFields) (composite : scope.entity.isComposite = true)
    (compiled : scope.compile function = .ok method) (finder : method.archetype = .finder) :
    ∃ plan, method.SelectsPlan scope.options scope.table plan := by
  obtain ⟨draft, success, rfl⟩ := Scope.compile_eq_ok_iff.mp compiled
  have drafted := Scope.drafted_of_draft success
  have kind : scope.archetype function = .finder := drafted.archetype_eq.symm.trans finder
  have query : scope.archetype function ∈ Scope.queryKinds := by
    simp [kind, Scope.queryKinds]
  obtain ⟨head, suffix, queries⟩ := drafted.queries query
  obtain ⟨asks, _, text, _⟩ := queries
  -- The head is a selection, and its columns come from the same plan as the method's.
  generalize planned : draft.plan = found at asks
  cases asks with
  | given custom => cases custom.symm.trans kind
  | @selection columns plan condition _ rows _ =>
      obtain ⟨rfl, some, known⟩ := Scope.columns_of_rows built distinct composite rows
      refine ⟨plan, planned, ?_, some, known⟩
      rw [Draft.finish_sql, text, List.cons_append, SqlText.written_text]
      exact ⟨_, rfl⟩

/-! ### A car -/

namespace Car

/-- The power of a car, twice. -/
def powerView : ClassDecl where
  name := .bare "PowerView"
  fields := [
    ⟨"engine", { target := engine }, []⟩,
    ⟨"power", .named "i32", []⟩]

def findPowers : FunctionDecl where
  name := "find_powers"
  parameters := [⟨"page", .named "Pageable", []⟩]
  returnType := .named "Page" [{ target := powerView }]

end Car

/-- A nested projection that reads one column twice selects it twice. -/
theorem compile_selects_plan_columns_car :
    ∃ method plan, Car.scope.compile Car.findPowers = .ok method ∧
      method.SelectsPlan {} Car.table plan ∧
      plan.columns = ["power", "power"] ∧
      method.sql = "SELECT \"power\", \"power\" FROM \"car\" LIMIT ? OFFSET ?" := by
  obtain ⟨method, compiled, finder, planned, sql⟩ : ∃ method,
      Car.scope.compile Car.findPowers = .ok method ∧ method.archetype = .finder ∧
      method.plan.map ReadPlan.columns = some ["power", "power"] ∧
      method.sql = "SELECT \"power\", \"power\" FROM \"car\" LIMIT ? OFFSET ?" :=
    ⟨_, rfl, rfl, rfl, rfl⟩
  obtain ⟨plan, selects⟩ := compile_selects_plan_columns Car.table_built
    Car.entity_distinctFields rfl compiled finder
  refine ⟨method, plan, compiled, selects, ?_, sql⟩
  simpa [selects.planned] using planned

end RowPlan
