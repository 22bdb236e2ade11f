import RowPlan.Proofs.GuardedDelete
import RowPlan.Proofs.RowLimit

/-!
# Use of parameters

A method uses a parameter where a slot, the batch or the sort order is taken from it. Queries
use their value parameters and the first parameter of every other role. The later parameters of
these roles are overlooked, and so is an entity without columns.
-/

namespace RowPlan

/-- A method takes something from the parameter of a name. -/
inductive Method.Uses (method : Method) (name : String) : Prop where
  | slot {slot : BindSlot} :
      slot ∈ method.slots → slot.path.head? = some name → Uses method name
  | batch :
      method.execution = .batch → method.parameters.map Prod.fst = [name] → Uses method name
  | order : method.orderParameter = some name → Uses method name

/-- The parameter is a value or the first of its role. -/
def FunctionDecl.Reads (function : FunctionDecl) (parameter : ParameterDecl) : Prop :=
  parameter.role = .value ∨ (function.parametersOf parameter.role).head? = some parameter

/-- The kinds of methods that take an entity or a list of it. -/
def entityKinds : List Archetype :=
  [.save, .deleteByEntity]

/-- A method is compiled without anything from the parameters of a name. -/
inductive Scope.Overlooks (scope : Scope) (function : FunctionDecl) (method : Method)
    (name : String) : Prop where
  | later :
      scope.archetype function ∈ Scope.queryKinds →
      (∀ parameter, parameter ∈ function.parameters → parameter.name = name →
        ¬ function.Reads parameter) →
      Overlooks scope function method name
  | columnless :
      scope.archetype function ∈ entityKinds → method.execution = .single →
      scope.table.columns = [] →
      Overlooks scope function method name

/-! ## Entities -/

theorem Method.uses_entity_iff {method : Method} {parameter : ParameterDecl}
    {columns : List Column} (alone : method.parameters.map Prod.fst = [parameter.name])
    (slots : method.slots = columns.map (columnSlot method.execution parameter))
    (unordered : method.orderParameter = none) :
    method.Uses parameter.name ↔ method.execution = .batch ∨ columns ≠ [] := by
  constructor
  · intro uses
    cases uses with
    | slot member _ =>
        rw [slots] at member
        obtain ⟨column, inColumns, _⟩ := List.mem_map.mp member
        exact .inr (List.ne_nil_of_mem inColumns)
    | batch batch _ => exact .inl batch
    | order ordered => cases unordered.symm.trans ordered
  · intro taken
    cases execution : method.execution with
    | batch => exact .batch execution alone
    | single =>
        rw [execution] at taken slots
        have present : columns ≠ [] := taken.resolve_left nofun
        obtain ⟨column, member⟩ := List.exists_mem_of_ne_nil columns present
        have bound : columnSlot .single parameter column ∈ method.slots := by
          rw [slots]
          exact List.mem_map_of_mem member
        exact .slot bound rfl

theorem Table.guardColumns_eq_nil_iff {table : Table} :
    table.guardColumns = [] ↔ table.columns = [] := by
  constructor
  · exact not_imp_not.mp guardColumns_ne_nil
  · intro none
    unfold guardColumns
    split
    · rw [none]
      rfl
    · exact none

theorem slots_entityGuard_finish {scope : Scope} {draft : Draft} {execution : Execution}
    {parameter : ParameterDecl}
    (deletes : draft.statement = .delete (some (scope.entityGuard execution parameter))) :
    (draft.finish scope.options scope.table).slots =
      scope.table.guardColumns.map (columnSlot execution parameter) := by
  rw [Draft.finish_slots, deletes]
  exact congrArg Binding.slots (scope.bindAll_entityGuard execution parameter)

/-! ## Conditions -/

section

variable {scope : Scope} {function : FunctionDecl} {name : String}

theorem SqlText.BindsValues.closing {text : SqlText} (binds : text.BindsValues function)
    (part : String) : BindsValues function (text ++ [.text part]) := by
  refine ⟨fun path => ?_, fun name slot member => ?_⟩
  · rw [slots_append]
    simpa using binds.paths path
  · rw [keyed_append] at member
    exact binds.named name slot (by simpa [keyed] using member)

/-- The slots of a text for values are taken from value parameters. -/
theorem SqlText.BindsValues.root_iff {text : SqlText} (binds : text.BindsValues function)
    (style : MarkerStyle) (name : String) :
    (∃ slot, slot ∈ (SqlText.bindAll style {} text).slots ∧ slot.path.head? = some name) ↔
      ∃ parameter, parameter ∈ function.values ∧ parameter.name = name := by
  have paths := binds.bindAll style
  constructor
  · rintro ⟨slot, member, root⟩
    obtain ⟨parameter, value, path⟩ :=
      List.mem_map.mp ((paths slot.path).mp (List.mem_map_of_mem member))
    rw [← path] at root
    exact ⟨parameter, value, by simpa using root⟩
  · rintro ⟨parameter, value, rfl⟩
    obtain ⟨slot, member, path⟩ :=
      List.mem_map.mp ((paths [parameter.name]).mpr (List.mem_map_of_mem value))
    exact ⟨slot, member, by rw [path]; rfl⟩

theorem Draft.uses_values_iff {draft : Draft}
    (binds : (draft.statement.text scope.options scope.table).BindsValues function)
    (single : draft.execution = .single) (unordered : draft.orderParameter = none) :
    (draft.finish scope.options scope.table).Uses name ↔
      ∃ parameter, parameter ∈ function.values ∧ parameter.name = name := by
  rw [← binds.root_iff scope.options.markers name, ← Draft.finish_slots]
  constructor
  · intro uses
    cases uses with
    | slot member root => exact ⟨_, member, root⟩
    | batch batch _ => cases single.symm.trans batch
    | order ordered => cases unordered.symm.trans ordered
  · rintro ⟨slot, member, root⟩
    exact .slot member root

end

/-! ## Queries -/

section

variable {scope : Scope} {function : FunctionDecl} {name : String}

theorem FunctionDecl.role_of_head? {role : Role} {parameter : ParameterDecl}
    (first : (function.parametersOf role).head? = some parameter) :
    parameter ∈ function.parameters ∧ parameter.role = role := by
  have member := List.mem_of_head? first
  obtain ⟨declared, hasRole⟩ := List.mem_filter.mp member
  exact ⟨declared, beq_iff_eq.mp hasRole⟩

theorem FunctionDecl.reads_of_head? {role : Role} {parameter : ParameterDecl}
    (first : (function.parametersOf role).head? = some parameter) :
    function.Reads parameter := by
  obtain ⟨_, rfl⟩ := role_of_head? first
  exact .inr first

/-- The slots of a limit are taken from the first parameter of its role. -/
theorem Scope.LimitOf.root {source : LimitSource} {limit : LimitClause}
    (ofSource : scope.LimitOf function source limit) {slot : BindSlot}
    (member : slot ∈ limit.slots) :
    ∃ parameter, parameter ∈ function.parameters ∧ function.Reads parameter ∧
      slot.path.head? = some parameter.name := by
  cases ofSource with
  | tag => cases member
  | first => cases member
  | parameter first =>
      obtain ⟨declared, _⟩ := FunctionDecl.role_of_head? first
      obtain rfl := List.mem_singleton.mp member
      exact ⟨_, declared, FunctionDecl.reads_of_head? first, rfl⟩
  | page first =>
      obtain ⟨declared, _⟩ := FunctionDecl.role_of_head? first
      refine ⟨_, declared, FunctionDecl.reads_of_head? first, ?_⟩
      rcases List.mem_cons.mp member with rfl | offset
      · rfl
      · obtain rfl := List.mem_singleton.mp offset
        rfl

theorem Scope.Limited.root {shape : ReturnShape} {clause : Option LimitClause}
    (limited : scope.Limited function shape clause) {slot : BindSlot}
    (member : slot ∈ (clause.map LimitClause.slots).getD []) :
    ∃ parameter, parameter ∈ function.parameters ∧ function.Reads parameter ∧
      slot.path.head? = some parameter.name := by
  by_cases declared : ∃ source, function.Declares source
  · obtain ⟨source, declares⟩ := declared
    obtain ⟨limit, rfl, ofSource⟩ := limited.source source declares
    exact ofSource.root member
  · cases clause with
    | none => cases member
    | some limit =>
        -- Without a source the limit can only be the cap, which has no slot.
        obtain rfl := Option.some.inj (limited.cap (not_exists.mp declared) rfl)
        cases member

theorem Scope.Limited.slot_of_limit {shape : ReturnShape} {clause : Option LimitClause}
    (limited : scope.Limited function shape clause) {parameter : ParameterDecl}
    (first : (function.parametersOf .limit).head? = some parameter) :
    ∃ slot, slot ∈ (clause.map LimitClause.slots).getD [] ∧
      slot.path.head? = some parameter.name := by
  obtain ⟨limit, rfl, ofSource⟩ :=
    limited.source .parameter ⟨parameter, FunctionDecl.role_of_head? first⟩
  cases ofSource with
  | parameter same =>
      obtain rfl := Option.some.inj (first.symm.trans same)
      exact ⟨_, List.mem_singleton_self _, rfl⟩

theorem Scope.Limited.slot_of_pageable {shape : ReturnShape} {clause : Option LimitClause}
    (limited : scope.Limited function shape clause) {parameter : ParameterDecl}
    (first : (function.parametersOf .pageable).head? = some parameter) :
    ∃ slot, slot ∈ (clause.map LimitClause.slots).getD [] ∧
      slot.path.head? = some parameter.name := by
  obtain ⟨limit, rfl, ofSource⟩ :=
    limited.source .page ⟨parameter, FunctionDecl.role_of_head? first⟩
  cases ofSource with
  | page same =>
      obtain rfl := Option.some.inj (first.symm.trans same)
      exact ⟨_, List.mem_cons_self, rfl⟩

/-- A query uses its value parameters and the first parameter of every other role. -/
theorem Scope.Queries.uses_iff {draft : Draft} {head : SqlText} {suffix : Suffix}
    (queries : scope.Queries function draft head suffix) :
    (draft.finish scope.options scope.table).Uses name ↔
      ∃ parameter, parameter ∈ function.parameters ∧ parameter.name = name ∧
        function.Reads parameter := by
  have limits := queries.limitsRows
  have values := queries.asks.bindsValues.root_iff scope.options.markers
  have ordered : draft.orderParameter =
      (function.parametersOf .order).head?.map ParameterDecl.name := by
    obtain ⟨_, _, _, _, _, rfl⟩ := suffix_parts queries.ends
    exact queries.orderParameter
  constructor
  · -- A slot of the head is for a value, and one of the limit for the first of its role.
    intro uses
    cases uses with
    | @slot slot member root =>
        rw [limits.slots] at member
        rcases List.mem_append.mp member with inHead | inLimit
        · obtain ⟨parameter, value, named⟩ := (values name).mp ⟨slot, inHead, root⟩
          obtain ⟨declared, role⟩ := List.mem_filter.mp value
          exact ⟨parameter, declared, named, .inl (beq_iff_eq.mp role)⟩
        · obtain ⟨parameter, declared, reads, path⟩ := limits.limited.root inLimit
          exact ⟨parameter, declared, Option.some.inj (path.symm.trans root), reads⟩
    | batch batch _ => cases queries.execution.symm.trans batch
    | order order =>
        obtain ⟨parameter, first, named⟩ := Option.map_eq_some_iff.mp (ordered.symm.trans order)
        obtain ⟨declared, _⟩ := FunctionDecl.role_of_head? first
        exact ⟨parameter, declared, named, FunctionDecl.reads_of_head? first⟩
  · -- The first of a role is bound by the limit, or it is the order.
    rintro ⟨parameter, declared, rfl, reads⟩
    have uses : ∀ slot, slot ∈ (SqlText.bindAll scope.options.markers {} head).slots ++
        (suffix.limitClause?.map LimitClause.slots).getD [] →
        slot.path.head? = some parameter.name →
        (draft.finish scope.options scope.table).Uses parameter.name :=
      fun slot member root => .slot (limits.slots ▸ member) root
    have ofValue : parameter.role = .value →
        (draft.finish scope.options scope.table).Uses parameter.name := by
      intro role
      have value : parameter ∈ function.values :=
        List.mem_filter.mpr ⟨declared, beq_iff_eq.mpr role⟩
      obtain ⟨slot, inHead, root⟩ := (values parameter.name).mpr ⟨parameter, value, rfl⟩
      exact uses slot (List.mem_append_left _ inHead) root
    rcases reads with value | first
    · exact ofValue value
    · cases role : parameter.role with
      | value => exact ofValue role
      | order =>
          rw [role] at first
          rw [first] at ordered
          exact .order ordered
      | limit =>
          rw [role] at first
          obtain ⟨slot, inLimit, root⟩ := limits.limited.slot_of_limit first
          exact uses slot (List.mem_append_right _ inLimit) root
      | pageable =>
          rw [role] at first
          obtain ⟨slot, inLimit, root⟩ := limits.limited.slot_of_pageable first
          exact uses slot (List.mem_append_right _ inLimit) root

end

/-! ## Compiled methods -/

/-- The kinds of methods that are about the rows that satisfy a condition and return none. -/
def conditionKinds : List Archetype :=
  [.deleteByFields, .deleteWhere, .count, .existence]

theorem kind_cases (kind : Archetype) :
    kind ∈ entityKinds ∨ kind ∈ conditionKinds ∨ kind ∈ Scope.queryKinds := by
  cases kind <;> decide

theorem kinds_apart (kind : Archetype) :
    (kind ∈ entityKinds → kind ∉ Scope.queryKinds) ∧
      (kind ∈ conditionKinds → kind ∉ entityKinds ∧ kind ∉ Scope.queryKinds) := by
  cases kind <;> decide

namespace Scope

variable {scope : Scope} {function : FunctionDecl} {draft : Draft} {parameter : ParameterDecl}

theorem Drafted.uses_entity (drafted : scope.Drafted function draft)
    (kind : scope.archetype function ∈ entityKinds)
    (declared : parameter ∈ function.parameters) :
    (draft.finish scope.options scope.table).Uses parameter.name ↔
      draft.execution = .batch ∨ scope.table.columns ≠ [] := by
  cases drafted with
  | deleteRows other deletes =>
      rcases deletes with rfl | rfl
      · simp [other, entityKinds] at kind
      · simp [other, entityKinds] at kind
  | find other => simp [other, entityKinds] at kind
  | value other asks =>
      rcases asks with ⟨rfl, _⟩ | ⟨rfl, _⟩
      · simp [other, entityKinds] at kind
      · simp [other, entityKinds] at kind
  | custom other => simp [other, entityKinds] at kind
  | @save entity execution _ parameters found =>
      rw [parameters] at declared
      obtain rfl := List.mem_singleton.mp declared
      apply Method.uses_entity_iff
      · simp [Draft.finish, MethodFacts.declared, parameters]
      · exact (Draft.finish_slots _ _ _).trans
          (scope.insertion_slots function parameter execution)
      · rfl
  | @deleteEntity entity execution _ valuesOnly values found =>
      rw [values_of_checkValuesOnly valuesOnly] at values
      rw [values] at declared
      obtain rfl := List.mem_singleton.mp declared
      refine (Method.uses_entity_iff ?_ (slots_entityGuard_finish rfl) rfl).trans ?_
      · simp [Draft.finish, MethodFacts.declared, values]
      · rw [Ne, Table.guardColumns_eq_nil_iff]
        rfl

theorem Drafted.uses_values (drafted : scope.Drafted function draft)
    (kind : scope.archetype function ∈ conditionKinds)
    (declared : parameter ∈ function.parameters) :
    (draft.finish scope.options scope.table).Uses parameter.name := by
  cases drafted with
  | save other => simp [other, conditionKinds] at kind
  | deleteEntity other => simp [other, conditionKinds] at kind
  | find other => simp [other, conditionKinds] at kind
  | custom other => simp [other, conditionKinds] at kind
  | deleteRows _ _ valuesOnly conditionSuccess =>
      rw [← values_of_checkValuesOnly valuesOnly] at declared
      have binds := (bindsValues_of_condition conditionSuccess).part
        ("DELETE FROM " ++ scope.table.ref scope.options)
      exact (Draft.uses_values_iff binds rfl rfl).mpr ⟨parameter, declared, rfl⟩
  | value _ asks valuesOnly _ conditionSuccess =>
      rw [← values_of_checkValuesOnly valuesOnly] at declared
      have binds := bindsValues_of_condition conditionSuccess
      rcases asks with ⟨_, rfl⟩ | ⟨_, rfl⟩
      · exact (Draft.uses_values_iff (binds.part _) rfl rfl).mpr ⟨parameter, declared, rfl⟩
      · exact (Draft.uses_values_iff ((binds.part _).closing ")") rfl rfl).mpr
          ⟨parameter, declared, rfl⟩

end Scope

/-- A declared parameter is used where it is not overlooked: no query uses a parameter that is
neither a value nor the first of its role, and no method uses a single entity of a table without
columns. -/
theorem compile_uses_iff {scope : Scope} {function : FunctionDecl} {method : Method}
    {parameter : ParameterDecl} (compiled : scope.compile function = .ok method)
    (declared : parameter ∈ function.parameters) :
    method.Uses parameter.name ↔ ¬ scope.Overlooks function method parameter.name := by
  obtain ⟨draft, success, rfl⟩ := Scope.compile_eq_ok_iff.mp compiled
  have drafted := Scope.drafted_of_draft success
  obtain ⟨entityApart, conditionApart⟩ := kinds_apart (scope.archetype function)
  rcases kind_cases (scope.archetype function) with entity | condition | query
  · rw [drafted.uses_entity entity declared]
    constructor
    · intro taken overlooks
      cases overlooks with
      | later query _ => exact entityApart entity query
      | columnless _ single none =>
          rcases taken with batch | present
          · cases single.symm.trans batch
          · exact present none
    · intro noticed
      cases execution : draft.execution with
      | batch => exact .inl rfl
      | single => exact .inr fun none => noticed (.columnless entity execution none)
  · refine iff_of_true (drafted.uses_values condition declared) ?_
    intro overlooks
    cases overlooks with
    | later query _ => exact (conditionApart condition).2 query
    | columnless entity _ _ => exact (conditionApart condition).1 entity
  · obtain ⟨head, suffix, queries⟩ := drafted.queries query
    rw [queries.uses_iff]
    constructor
    · rintro ⟨reader, member, named, reads⟩ overlooks
      cases overlooks with
      | later _ unread => exact unread reader member named reads
      | columnless entity _ _ => exact entityApart entity query
    · intro noticed
      by_contra unread
      apply noticed
      refine .later query fun reader member named reads => unread ⟨reader, member, named, reads⟩

/-- The order of a page is used, though it is no value. -/
theorem compile_uses_iff_car :
    ∃ method parameter, Car.scope.compile Car.findPage = .ok method ∧
      parameter ∈ Car.findPage.parameters ∧ parameter.role = .order ∧
      method.Uses parameter.name := by
  let order : ParameterDecl := ⟨"order", .named "Order", []⟩
  obtain ⟨method, compiled⟩ : ∃ method, Car.scope.compile Car.findPage = .ok method := ⟨_, rfl⟩
  have declared : order ∈ Car.findPage.parameters := by simp [Car.findPage, order]
  refine ⟨method, order, compiled, declared, rfl, ?_⟩
  apply (compile_uses_iff compiled declared).mpr
  intro overlooks
  cases overlooks with
  | later _ unread => exact unread order declared rfl (.inr rfl)
  | columnless entity _ _ =>
      have finder : Car.scope.archetype Car.findPage = .finder := rfl
      simp [finder, entityKinds] at entity

namespace Car

/-- Finds all cars in one of two orders. -/
def findInOrders : FunctionDecl where
  name := "find_sorted"
  parameters := [⟨"order", .named "Order", []⟩, ⟨"other", .named "Order", []⟩]
  returnType := .named "Vec" [{ target := entity }]

end Car

/-- The second order is accepted and has no effect. -/
theorem findInOrders_overlooks_order :
    ∃ method parameter, Car.scope.compile Car.findInOrders = .ok method ∧
      parameter ∈ Car.findInOrders.parameters ∧ ¬ method.Uses parameter.name := by
  let other : ParameterDecl := ⟨"other", .named "Order", []⟩
  obtain ⟨method, compiled, slots, single, ordered⟩ : ∃ method,
      Car.scope.compile Car.findInOrders = .ok method ∧ method.slots = [] ∧
        method.execution = .single ∧ method.orderParameter = some "order" :=
    ⟨_, rfl, rfl, rfl, rfl⟩
  have declared : other ∈ Car.findInOrders.parameters := by simp [Car.findInOrders, other]
  refine ⟨method, other, compiled, declared, ?_⟩
  intro uses
  cases uses with
  | slot member _ =>
      rw [slots] at member
      cases member
  | batch batch _ => cases single.symm.trans batch
  | order found =>
      rw [ordered] at found
      simp [other] at found

end RowPlan
