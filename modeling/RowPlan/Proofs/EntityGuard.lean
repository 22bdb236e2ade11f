import RowPlan.Proofs.DerivedCondition
import RowPlan.Proofs.GuardedDelete
import RowPlan.Proofs.OptimisticLock

/-!
# The guard of an entity

A delete of an entity is about the rows that store it. In a table with a key these are the
rows with its ids and versions, else those with all its values. Where a column may be absent
two absent values are equal, so that the row of an entity is always among them.
-/

namespace RowPlan

section

variable {A : Type}

/-- The path of a field of an entity as slots have it: from the parameter that is the
entity, or in a batch from the entity itself. -/
def Execution.pathTo (parameter : String) (below : List String) : Execution → List String
  | .single => parameter :: below
  | .batch => below

/-- The arguments are the values of an entity. -/
def Execution.Passes (execution : Execution) (parameter : String) (entity : Fields A)
    (arguments : List String → Argument A) : Prop :=
  ∀ below, (arguments (execution.pathTo parameter below)).cell = entity below

namespace Table

/-- A row has a value in every column that may not be absent. -/
def Admits (table : Table) (row : Row A) : Prop :=
  ∀ column, column ∈ table.columns → column.nullable = false → row column.name ≠ .null

/-- A column tells the rows of an entity from others: an id or a version, and any column
where there is no id. -/
def Identifies (table : Table) (column : Column) : Prop :=
  column.isId = true ∨ column.isVersion = true ∨
    ∀ other, other ∈ table.columns → other.isId = false

/-- A row has the values of an entity in the columns that identify it. -/
def Stores (table : Table) (row : Row A) (entity : Fields A) : Prop :=
  ∀ column, column ∈ table.columns → table.Identifies column →
    row column.name = entity column.path

/-- A row has all the values of an entity. -/
def Holds (table : Table) (row : Row A) (entity : Fields A) : Prop :=
  ∀ column, column ∈ table.columns → row column.name = entity column.path

end Table

end

/-- A method deletes the rows that store an entity. Its clause has one test for each of its
slots, and with the values of an entity they are true together of the rows that store it,
the row with all of its values among them. -/
structure Scope.DeletesStored (scope : Scope) (method : Method) (parameter : ParameterDecl)
    (tests : List (ColumnTest × BindSlot)) : Prop where
  sql : method.sql = "DELETE FROM " ++ scope.table.ref scope.options ++
    ColumnTest.clauseText scope.options (tests.map Prod.fst)
  slots : method.slots = tests.map Prod.snd
  truth (A : Type) [DecidableEq A] (row : Row A) (entity : Fields A)
    (arguments : List String → Argument A) :
    scope.table.Admits row → method.execution.Passes parameter.name entity arguments →
    (conditionTruth row tests arguments = some true ↔ scope.table.Stores row entity) ∧
      (scope.table.Holds row entity → conditionTruth row tests arguments = some true)

/-! ## Guarded columns -/

theorem Table.mem_guardColumns_iff {table : Table} {column : Column} :
    column ∈ table.guardColumns ↔ column ∈ table.columns ∧ table.Identifies column := by
  unfold guardColumns Identifies
  cases keyed : table.hasIds with
  | true =>
      obtain ⟨id, member, isId⟩ := List.any_eq_true.mp keyed
      have someId : ¬ ∀ other, other ∈ table.columns → other.isId = false := by
        intro noId
        simp [noId id member] at isId
      simp [someId]
  | false =>
      have noId : ∀ other, other ∈ table.columns → other.isId = false := by
        simpa [hasIds] using keyed
      have everyColumn : (column.isId = true ∨ column.isVersion = true ∨
          ∀ other, other ∈ table.columns → other.isId = false) :=
        .inr (.inr noId)
      simp [everyColumn]

/-! ## Truth of a guard -/

section

variable {A : Type} [DecidableEq A]

/-- A guard is true of equal values, and of an absent one only where it may be absent. -/
theorem guardComparison_truth {row : Row A} {column : Column} {slot : BindSlot}
    (single : slot.isArray = false) (argument : Argument A) :
    (guardComparison (column, slot)).test.truth row (slot.bound argument) = some true ↔
      (column.nullable = false → row column.name ≠ .null) ∧
        row column.name = argument.cell := by
  have bound : slot.bound argument = .value argument.cell := by
    simp [BindSlot.bound, single]
  rw [bound]
  cases nullable : column.nullable with
  | true => simp [guardComparison, nullable, Comparison.test, ColumnTest.truth]
  | false =>
      simp [guardComparison, nullable, Comparison.test, ColumnTest.truth,
        Cell.equal?_eq_true_iff]

theorem columnSlot_path (execution : Execution) (parameter : ParameterDecl)
    (column : Column) :
    (columnSlot execution parameter column).path =
      execution.pathTo parameter.name column.path := by
  cases execution with
  | single => rfl
  | batch => rfl

/-- The tests of an entity with the slots for its values. -/
def Scope.entityTests (scope : Scope) (execution : Execution) (parameter : ParameterDecl) :
    List (ColumnTest × BindSlot) :=
  scope.table.guardColumns.map fun column =>
    ((guardComparison (column, columnSlot execution parameter column)).test,
      columnSlot execution parameter column)

theorem Scope.entityTests_truth {scope : Scope} {execution : Execution}
    {parameter : ParameterDecl} {row : Row A} {entity : Fields A}
    {arguments : List String → Argument A} (admits : scope.table.Admits row)
    (passes : execution.Passes parameter.name entity arguments) :
    conditionTruth row (scope.entityTests execution parameter) arguments = some true ↔
      scope.table.Stores row entity := by
  rw [conditionTruth, Truth.all_eq_true_iff, entityTests, List.map_map, List.forall_mem_map]
  have each : ∀ column, column ∈ scope.table.columns →
      ((guardComparison (column, columnSlot execution parameter column)).test.truth row
          ((columnSlot execution parameter column).bound
            (arguments (columnSlot execution parameter column).path)) = some true ↔
        row column.name = entity column.path) := by
    intro column member
    rw [guardComparison_truth rfl, columnSlot_path, passes]
    exact and_iff_right (admits column member)
  constructor
  · intro holds column member identifies
    exact (each column member).mp (holds column (Table.mem_guardColumns_iff.mpr
      ⟨member, identifies⟩))
  · intro stores column guarded
    obtain ⟨member, identifies⟩ := Table.mem_guardColumns_iff.mp guarded
    exact (each column member).mpr (stores column member identifies)

end

/-! ## Compiled deletes of an entity -/

namespace Scope

variable {scope : Scope} {function : FunctionDecl} {method : Method}

/-- The clause of a guard is that of the tests of the entity. -/
theorem entityGuard_written (present : scope.table.columns ≠ []) (execution : Execution)
    (parameter : ParameterDecl) :
    SqlText.written scope.options.markers {}
        (.text " WHERE " :: (scope.entityGuard execution parameter).text scope.options) =
      ColumnTest.clauseText scope.options
        ((scope.entityTests execution parameter).map Prod.fst) := by
  have tests : ((columnSlots execution parameter scope.table.guardColumns).map
      guardComparison).map Comparison.test =
        (scope.entityTests execution parameter).map Prod.fst := by
    simp [columnSlots, entityTests]
  have written := (Condition.written_clause scope.options
    ((columnSlots execution parameter scope.table.guardColumns).map guardComparison)).1
  rw [tests] at written
  -- Without columns the condition would be empty, and its clause a bare `WHERE`.
  have some : ((scope.entityTests execution parameter).map Prod.fst).isEmpty = false := by
    simpa [entityTests] using Table.guardColumns_ne_nil present
  rw [ColumnTest.clauseText, some, if_neg Bool.false_ne_true]
  exact written

theorem slots_entityTests (scope : Scope) (execution : Execution) (parameter : ParameterDecl) :
    (scope.entityTests execution parameter).map Prod.snd =
      scope.table.guardColumns.map (columnSlot execution parameter) := by
  rw [entityTests, List.map_map]
  rfl

/-- A compiled delete of an entity takes it from its only parameter. -/
theorem compiled_deleteEntity (compiled : scope.compile function = .ok method)
    (kind : method.archetype = .deleteByEntity) :
    ∃ parameter, function.parameters = [parameter] ∧
      scope.execution? parameter.type = some method.execution ∧
      method.DeletesWhere scope.options scope.table
        ((scope.entityGuard method.execution parameter).text scope.options) := by
  obtain ⟨draft, success, rfl⟩ := compile_eq_ok_iff.mp compiled
  cases drafted_of_draft success with
  | @deleteEntity parameter _ _ valuesOnly values found =>
      refine ⟨parameter, ?_, found, deletesWhere_finish rfl⟩
      rw [← values_of_checkValuesOnly valuesOnly, values]
  | save => cases kind
  | deleteRows _ rows =>
      rcases rows with rfl | rfl
      · cases kind
      · cases kind
  | find => cases kind
  | value _ asks =>
      rcases asks with ⟨rfl, _⟩ | ⟨rfl, _⟩
      · cases kind
      · cases kind
  | custom => cases kind

end Scope

/-- A compiled delete of an entity or of a list of entities is about the rows that store the
entity: those with its ids and versions, and where no column is an id those with all its
values. Absent values are equal there, so that the row of the entity is deleted. -/
theorem compile_deletes_stored_entity {scope : Scope} {function : FunctionDecl}
    {method : Method} (compiled : scope.compile function = .ok method)
    (kind : method.archetype = .deleteByEntity) (present : scope.table.columns ≠ []) :
    ∃ parameter tests, function.parameters = [parameter] ∧
      scope.execution? parameter.type = some method.execution ∧
      scope.DeletesStored method parameter tests := by
  obtain ⟨parameter, parameters, found, deletes⟩ := Scope.compiled_deleteEntity compiled kind
  refine ⟨parameter, scope.entityTests method.execution parameter, parameters, found,
    ?_, ?_, ?_⟩
  · rw [deletes.sql, ← Scope.entityGuard_written present, SqlText.written_text,
      String.append_assoc]
  · rw [deletes.slots, Scope.slots_entityTests]
    exact congrArg Binding.slots (scope.bindAll_entityGuard method.execution parameter)
  · intro A _ row entity arguments admits passes
    have exactly := Scope.entityTests_truth admits passes
    exact ⟨exactly, fun holds => exactly.mpr fun column member _ => holds column member⟩

namespace Reading

/-- What a sensor has measured, if anything, without a key. -/
def entity : ClassDecl where
  name := .bare "Reading"
  fields := [
    ⟨"sensor", .named "String", []⟩,
    ⟨"amount", { target := { name := .bare "i32" }, nullable := true }, []⟩]

def columns : List Column :=
  [⟨["sensor"], .named "String", "sensor", .text, false, false⟩,
    ⟨["amount"], { target := { name := .bare "i32" }, nullable := true }, "amount", .integer,
      false, false⟩]

def scope : Scope where
  options := {}
  catalog := .builtin
  table := { entity := .bare "Reading", name := "reading", schema := none, columns, plan := none }
  entity := entity

/-- Deletes some readings. -/
def deleteAll : FunctionDecl where
  name := "delete_all"
  parameters := [⟨"readings", .named "Vec" [{ target := entity }], []⟩]
  returnType := .unit

/-- A sensor that has measured nothing. -/
def silent : Fields String
  | ["sensor"] => .other "door"
  | _ => .null

def silentRow : Row String
  | "sensor" => .other "door"
  | _ => .null

end Reading

/-- The reading without an amount is deleted. -/
theorem compile_deletes_stored_entity_reading :
    ∃ method parameter tests, Reading.scope.compile Reading.deleteAll = .ok method ∧
      method.sql = "DELETE FROM \"reading\" WHERE \"sensor\" = ?" ++
        " AND \"amount\" IS NOT DISTINCT FROM ?" ∧
      Reading.scope.DeletesStored method parameter tests ∧
      conditionTruth Reading.silentRow tests (fun path => ⟨Reading.silent path, none⟩) =
        some true := by
  obtain ⟨method, compiled, kind, batch, sql⟩ :
      ∃ method, Reading.scope.compile Reading.deleteAll = .ok method ∧
        method.archetype = .deleteByEntity ∧ method.execution = .batch ∧
        method.sql = "DELETE FROM \"reading\" WHERE \"sensor\" = ?" ++
          " AND \"amount\" IS NOT DISTINCT FROM ?" :=
    ⟨_, rfl, rfl, rfl, rfl⟩
  obtain ⟨parameter, tests, _, _, deletes⟩ :=
    compile_deletes_stored_entity compiled kind (List.cons_ne_nil _ _)
  refine ⟨method, parameter, tests, compiled, sql, deletes, ?_⟩
  have admits : Reading.scope.table.Admits Reading.silentRow := by
    simp [Table.Admits, Reading.scope, Reading.columns, Column.nullable, TypeUse.named,
      Reading.silentRow]
  have passes : method.execution.Passes parameter.name Reading.silent
      fun path => ⟨Reading.silent path, none⟩ := by
    rw [batch]
    exact fun _ => rfl
  apply (deletes.truth String Reading.silentRow Reading.silent _ admits passes).2
  simp [Table.Holds, Reading.scope, Reading.columns, Reading.silentRow, Reading.silent]

end RowPlan
