import RowPlan.Proofs.BuiltTable
import RowPlan.Proofs.Saving
import RowPlan.Proofs.ValueSlots
import RowPlan.Repository

/-!
# Guarded deletes

A delete whose function has parameters does not delete all rows: parameters that are not
values are refused, and each value is bound in the condition. The condition of a deleted
entity is not empty, since an entity has a column.
-/

namespace RowPlan

/-! ## Slots of a text -/

namespace SqlText

variable {left right text : SqlText} {style : MarkerStyle}

theorem bindAll_of_slots_eq_nil (none : text.slots = []) (binding : Binding) :
    bindAll style binding text = binding := by
  induction text with
  | nil => rfl
  | cons fragment rest induction =>
      cases fragment with
      | text part => exact induction none
      | slot key slot => cases none

/-- A text with slots has a first one. -/
theorem exists_first_slot (bound : text.slots ≠ []) :
    ∃ (left : SqlText) (key : Option String) (slot : BindSlot) (right : SqlText),
      text = left ++ .slot key slot :: right ∧ left.slots = [] := by
  induction text with
  | nil => exact (bound rfl).elim
  | cons fragment rest induction =>
      cases fragment with
      | slot key slot => exact ⟨[], key, slot, rest, rfl, rfl⟩
      | text part =>
          obtain ⟨left, key, slot, right, rfl, plain⟩ := induction bound
          exact ⟨.text part :: left, key, slot, right, rfl, plain⟩

/-- The first slot of a text has the first marker, and is bound first. -/
theorem first_slot_marked (plain : left.slots = []) (style : MarkerStyle)
    (key : Option String) (slot : BindSlot) (right : SqlText) :
    (∃ more, written style {} (left ++ .slot key slot :: right) =
        written style {} left ++ style.marker 1 ++ more) ∧
      ∃ others, (bindAll style {} (left ++ .slot key slot :: right)).slots = slot :: others := by
  rw [written_append, bindAll_append, bindAll_of_slots_eq_nil plain, written_slot, bindAll]
  have first : (({} : Binding).bind style key slot).2.slots = [slot] := by
    cases style with
    | question => rfl
    | numbered => cases key <;> rfl
  constructor
  · have number : ({} : Binding).numberFor style key = 1 := by
      cases style with
      | question => rfl
      | numbered => cases key <;> rfl
    rw [number, ← String.append_assoc]
    exact ⟨_, rfl⟩
  · cases style with
    | question =>
        rw [bindAll_question, first]
        exact ⟨_, rfl⟩
    | numbered =>
        obtain ⟨others, kept⟩ :=
          bindAll_keeps_slots (({} : Binding).bind .numbered key slot).2 right
        rw [first] at kept
        exact ⟨others, kept.symm⟩

end SqlText

/-! ## Conditions with slots -/

theorem Table.guardColumns_ne_nil {table : Table} (present : table.columns ≠ []) :
    table.guardColumns ≠ [] := by
  unfold guardColumns
  split
  case isTrue key =>
    obtain ⟨column, member, isId⟩ := List.any_eq_true.mp key
    refine List.ne_nil_of_mem (List.mem_filter.mpr ⟨member, ?_⟩)
    rw [isId, Bool.true_or]
  case isFalse => exact present

namespace Scope

variable {scope : Scope} {function : FunctionDecl}

theorem slots_entityGuard (present : scope.table.columns ≠ []) (execution : Execution)
    (parameter : ParameterDecl) :
    ((scope.entityGuard execution parameter).text scope.options).slots ≠ [] := by
  rw [entityGuard, Condition.slots_all]
  simpa [columnSlots] using Table.guardColumns_ne_nil present

/-- A guard binds one slot for each of its columns. -/
theorem bindAll_entityGuard (scope : Scope) (execution : Execution)
    (parameter : ParameterDecl) :
    SqlText.bindAll scope.options.markers {}
        (.text " WHERE " :: (scope.entityGuard execution parameter).text scope.options) =
      { slots := scope.table.guardColumns.map (columnSlot execution parameter) } := by
  refine (Condition.written_clause scope.options _).2.trans ?_
  simp [columnSlots, guardComparison]

/-- A condition has a slot where there are values, and where there are no values it may be
missing. -/
theorem slots_of_condition {condition : Option Condition}
    (success : scope.condition function = .ok condition) (values : function.values ≠ []) :
    ∃ chosen, condition = some chosen ∧ (chosen.text scope.options).slots ≠ [] := by
  obtain ⟨value, member⟩ := List.exists_mem_of_ne_nil _ values
  have path : [value.name] ∈
      (Condition.clause scope.options condition).slots.map BindSlot.path :=
    ((bindsValues_of_condition success).paths [value.name]).mpr (List.mem_map_of_mem member)
  cases condition with
  | none => cases path
  | some chosen =>
      refine ⟨chosen, rfl, ?_⟩
      obtain ⟨slot, bound, _⟩ := List.mem_map.mp path
      exact List.ne_nil_of_mem bound

end Scope

/-! ## Compiled deletes -/

/-- The kinds of methods that delete rows, other than given text. -/
def deletingKinds : List Archetype :=
  [.deleteByEntity, .deleteByFields, .deleteWhere]

namespace Method

/-- The method deletes all rows. -/
structure DeletesAll (options : Options) (table : Table) (method : Method) : Prop where
  sql : method.sql = "DELETE FROM " ++ table.ref options
  slots : method.slots = []

/-- The method deletes the rows that satisfy a condition. -/
structure DeletesWhere (options : Options) (table : Table) (method : Method)
    (condition : SqlText) : Prop where
  sql : method.sql = "DELETE FROM " ++ table.ref options ++ " WHERE " ++
    condition.written options.markers {}
  slots : method.slots = (condition.bindAll options.markers {}).slots

/-- The method deletes the rows that satisfy a condition with a slot: the text up to the
first slot, the first marker and some more. That slot is the first to be bound. -/
def Guarded (options : Options) (table : Table) (method : Method) : Prop :=
  ∃ (left : SqlText) (key : Option String) (slot : BindSlot) (right : SqlText),
    left.slots = [] ∧
    method.DeletesWhere options table (left ++ .slot key slot :: right) ∧
    (∃ more, method.sql = "DELETE FROM " ++ table.ref options ++ " WHERE " ++
      left.written options.markers {} ++ options.markers.marker 1 ++ more) ∧
    ∃ others, method.slots = slot :: others

variable {options : Options} {table : Table} {method : Method} {condition : SqlText}

theorem DeletesWhere.guarded (deletes : method.DeletesWhere options table condition)
    (bound : condition.slots ≠ []) : method.Guarded options table := by
  obtain ⟨left, key, slot, right, rfl, plain⟩ := SqlText.exists_first_slot bound
  obtain ⟨⟨more, written⟩, others, slots⟩ :=
    SqlText.first_slot_marked plain options.markers key slot right
  refine ⟨left, key, slot, right, plain, deletes, ⟨more, ?_⟩, others,
    deletes.slots.trans slots⟩
  rw [deletes.sql, written]
  simp only [String.append_assoc]

end Method

namespace Scope

variable {scope : Scope} {function : FunctionDecl} {method : Method}

theorem deletesAll_finish {draft : Draft} (all : draft.statement = .delete none) :
    (draft.finish scope.options scope.table).DeletesAll scope.options scope.table := by
  constructor
  · rw [Draft.finish_sql, all]
    exact SqlText.written_single _ _ _
  · rw [Draft.finish_slots, all]
    rfl

theorem deletesWhere_finish {draft : Draft} {condition : Condition}
    (some : draft.statement = .delete (some condition)) :
    (draft.finish scope.options scope.table).DeletesWhere scope.options scope.table
      (condition.text scope.options) := by
  constructor
  · rw [Draft.finish_sql, some]
    simp only [Statement.text, Condition.clause, SqlText.written_text, String.append_assoc]
  · rw [Draft.finish_slots, some]
    rfl

/-- A delete has a condition with a slot where the function has a parameter. -/
theorem Drafted.condition_of_delete {draft : Draft} (drafted : scope.Drafted function draft)
    (kind : draft.archetype ∈ deletingKinds) (present : scope.table.columns ≠ []) :
    ∃ condition, draft.statement = .delete condition ∧
      (function.parameters ≠ [] →
        ∃ chosen, condition = some chosen ∧ (chosen.text scope.options).slots ≠ []) := by
  cases drafted with
  | save => simp [deletingKinds, MethodFacts.declared] at kind
  | find => simp [deletingKinds, MethodFacts.declared] at kind
  | value _ asks =>
      rcases asks with ⟨rfl, _⟩ | ⟨rfl, _⟩
      · simp [deletingKinds, MethodFacts.declared] at kind
      · simp [deletingKinds, MethodFacts.declared] at kind
  | custom => simp [deletingKinds, MethodFacts.declared] at kind
  | @deleteEntity parameter execution =>
      exact ⟨_, rfl, fun _ => ⟨_, rfl, slots_entityGuard present execution parameter⟩⟩
  | @deleteRows _ condition _ _ valuesOnly success =>
      refine ⟨condition, rfl, ?_⟩
      intro parameters
      rw [← values_of_checkValuesOnly valuesOnly] at parameters
      exact slots_of_condition success parameters

theorem parameters_of_compile (compiled : scope.compile function = .ok method) :
    method.parameters =
      function.parameters.map fun parameter => (parameter.name, parameter.type) :=
  (declared_of_compile compiled).2

/-- A delete that compiles is guarded where the function has a parameter, and otherwise it
may be the delete of all rows. -/
theorem compiled_delete (compiled : scope.compile function = .ok method)
    (kind : method.archetype ∈ deletingKinds) (present : scope.table.columns ≠ []) :
    (function.parameters ≠ [] → method.Guarded scope.options scope.table) ∧
      (method.DeletesAll scope.options scope.table ∨
        ∃ condition, method.DeletesWhere scope.options scope.table condition) := by
  obtain ⟨draft, success, rfl⟩ := compile_eq_ok_iff.mp compiled
  obtain ⟨condition, statement, guard⟩ :=
    (drafted_of_draft success).condition_of_delete kind present
  constructor
  · intro parameters
    obtain ⟨chosen, rfl, bound⟩ := guard parameters
    exact (deletesWhere_finish statement).guarded bound
  · cases condition with
    | none => exact .inl (deletesAll_finish statement)
    | some chosen => exact .inr ⟨_, deletesWhere_finish statement⟩

end Scope

/-! ## Repositories -/

namespace Repository

variable {options : Options} {catalog : Catalog} {interface entity : ClassDecl}
  {repository : Repository}

/-- The scope in which the functions of a repository are compiled. -/
def scopeOf (options : Options) (catalog : Catalog) (repository : Repository)
    (entity : ClassDecl) : Scope :=
  ⟨options, catalog, repository.table, entity⟩

theorem compile_parts (compiled : compile options catalog interface = .ok repository) :
    ∃ entity, entityOf interface = .ok entity ∧
      Table.build options catalog entity (some interface) = .ok repository.table ∧
      ∀ method, method ∈ repository.methods →
        ∃ function, function ∈ functions interface entity ∧
          (scopeOf options catalog repository entity).compile function = .ok method := by
  simp only [compile, bind_eq_ok_iff] at compiled
  obtain ⟨entity, found, table, built, methods, success, equality⟩ := compiled
  cases equality
  exact ⟨entity, found, built, exists_of_mem_mapM success⟩

/-- An entity has fields, and is not the type of no value. -/
theorem proper_of_entityOf (found : entityOf interface = .ok entity) :
    entity.name.isUnit = false ∧ entity.fields ≠ [] := by
  unfold entityOf at found
  split at found
  case h_1 => cases found
  case h_2 type kept =>
    obtain ⟨_, proper⟩ := Option.filter_eq_some_iff.mp kept
    split at found
    case isTrue composite =>
      cases found
      constructor
      · simpa [TypeUse.name] using proper
      · exact ClassDecl.fields_ne_nil composite
    case isFalse => cases found

/-- The table of a repository has a column. -/
theorem columns_ne_nil (found : entityOf interface = .ok entity)
    (built : Table.build options catalog entity (some interface) = .ok repository.table) :
    repository.table.columns ≠ [] := by
  obtain ⟨proper, fields⟩ := proper_of_entityOf found
  exact (Table.build_parts built proper).1.columns_ne_nil fields

/-- No delete of a repository affects all rows by accident. One whose function has a
parameter is about the rows of a condition in which something is bound, so that a delete
without a condition comes from a function without parameters. -/
theorem compile_guards_deletes {options : Options} {catalog : Catalog}
    {interface : ClassDecl} {repository : Repository}
    (compiled : compile options catalog interface = .ok repository) {method : Method}
    (member : method ∈ repository.methods) (kind : method.archetype ∈ deletingKinds) :
    ∃ entity function, entityOf interface = .ok entity ∧
      function ∈ functions interface entity ∧
      (scopeOf options catalog repository entity).compile function = .ok method ∧
      (function.parameters ≠ [] → method.Guarded options repository.table) ∧
      ((∀ condition, ¬ method.DeletesWhere options repository.table condition) →
        function.parameters = [] ∧ method.DeletesAll options repository.table) := by
  obtain ⟨entity, found, built, methods⟩ := compile_parts compiled
  obtain ⟨function, declared, success⟩ := methods method member
  obtain ⟨guarded, cases⟩ :=
    Scope.compiled_delete success kind (columns_ne_nil found built)
  refine ⟨entity, function, found, declared, success, guarded, ?_⟩
  intro unconditional
  constructor
  · by_contra parameters
    obtain ⟨left, key, slot, right, _, deletes, _⟩ := guarded parameters
    exact unconditional _ deletes
  · rcases cases with all | ⟨condition, deletes⟩
    · exact all
    · exact (unconditional condition deletes).elim

end Repository

namespace Car

/-- Cars that can be deleted one by one. -/
def repository : ClassDecl where
  name := .bare "CarRepository"
  isInterface := true
  argument := some { target := entity }
  functions := [{
    name := "delete"
    parameters := [⟨"car", { target := entity }, []⟩]
    returnType := .unit }]

end Car

/-- A car is deleted on the revision that was read. -/
theorem Repository.compile_guards_deletes_car :
    ∃ repository method, Repository.compile {} .builtin Car.repository = .ok repository ∧
      method ∈ repository.methods ∧ method.archetype ∈ deletingKinds ∧
      method.sql = "DELETE FROM \"car\" WHERE \"id\" = ? AND \"revision\" = ?" ∧
      method.Guarded {} repository.table := by
  obtain ⟨repository, method, compiled, found, kind, sql, parameters⟩ :
      ∃ repository method, Repository.compile {} .builtin Car.repository = .ok repository ∧
        repository.method? "delete" = some method ∧
        method.archetype = .deleteByEntity ∧
        method.sql = "DELETE FROM \"car\" WHERE \"id\" = ? AND \"revision\" = ?" ∧
        method.parameters.length = 1 :=
    ⟨_, _, rfl, rfl, rfl, rfl, rfl⟩
  have member := List.mem_of_find?_eq_some found
  have deletes : method.archetype ∈ deletingKinds := by
    rw [kind]
    decide
  obtain ⟨entity, function, _, _, success, guarded, _⟩ :=
    Repository.compile_guards_deletes compiled member deletes
  refine ⟨repository, method, compiled, member, deletes, sql, guarded ?_⟩
  intro none
  rw [Scope.parameters_of_compile success, none] at parameters
  cases parameters

end RowPlan
