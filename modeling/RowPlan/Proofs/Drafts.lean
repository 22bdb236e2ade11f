import RowPlan.Proofs.Layout
import RowPlan.Proofs.Success
import RowPlan.Method.Compilation

/-!
# Drafts of compiled functions

`Drafted` says which drafts a function has, one constructor for each way to
compile it, with everything that has to succeed on the way. What holds of all
compiled methods is shown by cases on it.
-/

namespace RowPlan

namespace Draft

theorem finish_sql (options : Options) (table : Table) (draft : Draft) :
    (draft.finish options table).sql =
      SqlText.written options.markers {} (draft.statement.text options table) :=
  rfl

theorem finish_slots (options : Options) (table : Table) (draft : Draft) :
    (draft.finish options table).slots =
      (SqlText.bindAll options.markers {} (draft.statement.text options table)).slots :=
  SqlText.layoutAfter_slots options.markers {} _

end Draft

namespace Scope

/-- The statement of a save: every column is bound, and the row with the same key is
updated where the table has a key and the function does not ask to fail. -/
def insertion (scope : Scope) (function : FunctionDecl) (parameter : ParameterDecl)
    (execution : Execution) : Insert where
  values := columnSlots execution parameter scope.table.columns
  conflict :=
    if scope.table.hasIds && !function.has TagName.onConflictFail then
      some scope.table.conflict
    else none

/-- The drafts of a function. -/
inductive Drafted (scope : Scope) (function : FunctionDecl) : Draft → Prop where
  | save {parameter : ParameterDecl} {execution : Execution} :
      scope.archetype function = .save →
      function.parameters = [parameter] →
      scope.execution? parameter.type = some execution →
      Drafted scope function
        { MethodFacts.declared function .save with
          execution := execution
          optimisticLock := scope.table.hasIds && !function.has TagName.onConflictFail
            && scope.table.version?.isSome
          statement := .insert (scope.insertion function parameter execution) }
  | deleteEntity {parameter : ParameterDecl} {execution : Execution} :
      scope.archetype function = .deleteByEntity →
      function.checkValuesOnly = .ok () →
      function.values = [parameter] →
      scope.execution? parameter.type = some execution →
      Drafted scope function
        { MethodFacts.declared function .deleteByEntity with
          execution := execution
          optimisticLock := scope.table.hasIds && scope.table.version?.isSome
          statement := .delete (some (scope.entityGuard execution parameter)) }
  | deleteRows {archetype : Archetype} {condition : Option Condition} :
      scope.archetype function = archetype →
      archetype = .deleteByFields ∨ archetype = .deleteWhere →
      function.checkValuesOnly = .ok () →
      scope.condition function = .ok condition →
      Drafted scope function
        { MethodFacts.declared function archetype with statement := .delete condition }
  | find {columns : List String} {plan : ReadPlan} {suffix : Suffix}
      {condition : Option Condition} :
      scope.archetype function = .finder →
      scope.rows function (ReturnShape.of scope.catalog function.returnType).row =
        .ok (columns, plan) →
      scope.suffix function (ReturnShape.of scope.catalog function.returnType) true =
        .ok suffix →
      scope.condition function = .ok condition →
      Drafted scope function
        { MethodFacts.declared function .finder with
          rowType := (ReturnShape.of scope.catalog function.returnType).row
          returnsCollection := (ReturnShape.of scope.catalog function.returnType).isMany
          returnsScalar := (ReturnShape.of scope.catalog function.returnType).isScalar
          plan := some plan
          pageable := suffix.pageable
          orderParameter := suffix.orderParameter
          statement := .select columns condition suffix }
  | value {archetype : Archetype} {statement : Option Condition → Statement}
      {plan : ReadPlan} {condition : Option Condition} :
      scope.archetype function = archetype →
      (archetype = .count ∧ statement = .count) ∨
        (archetype = .existence ∧ statement = .existence) →
      function.checkValuesOnly = .ok () →
      scope.catalog.scalarPlan (ReturnShape.of scope.catalog function.returnType).row =
        .ok plan →
      scope.condition function = .ok condition →
      Drafted scope function
        { MethodFacts.declared function archetype with
          rowType := (ReturnShape.of scope.catalog function.returnType).row
          returnsCollection := (ReturnShape.of scope.catalog function.returnType).isMany
          returnsScalar := (ReturnShape.of scope.catalog function.returnType).isScalar
          plan := some plan
          statement := statement condition }
  | custom {tag : Tag} {isStatement : Bool} {text : String} {suffix : Suffix}
      {bound : SqlText} {plan : Option ReadPlan} :
      scope.archetype function = .custom →
      givenText function = some (tag, isStatement) →
      tag.value? = some text →
      scope.suffix function (ReturnShape.of scope.catalog function.returnType) false =
        .ok suffix →
      scope.bindText function text = .ok bound →
      scope.customPlan function (ReturnShape.of scope.catalog function.returnType) =
        .ok plan →
      Drafted scope function
        { MethodFacts.declared function .custom with
          rowType := (ReturnShape.of scope.catalog function.returnType).row
          returnsCollection := (ReturnShape.of scope.catalog function.returnType).isMany
          returnsScalar := (ReturnShape.of scope.catalog function.returnType).isScalar
          plan := plan
          pageable := suffix.pageable
          orderParameter := suffix.orderParameter
          isStatement := isStatement
          statement := .given bound suffix }

variable {scope : Scope} {function : FunctionDecl} {draft : Draft}

theorem compile_eq_ok_iff {method : Method} :
    scope.compile function = .ok method ↔
      ∃ draft, scope.draft function = .ok draft ∧
        draft.finish scope.options scope.table = method :=
  map_eq_ok_iff

/-- The condition of a function is the text in its tag, or else it is derived. -/
theorem condition_cases {condition : Option Condition}
    (success : scope.condition function = .ok condition) :
    (∃ text bound, (function.tag? TagName.condition).bind Tag.value? = some text ∧
      scope.bindText function text = .ok bound ∧ condition = some (.given bound)) ∨
    (function.tag? TagName.condition).bind Tag.value? = none ∧
      scope.derivedCondition function = .ok condition := by
  unfold Scope.condition at success
  split at success
  case h_1 text given =>
    obtain ⟨bound, found, equality⟩ := bind_eq_ok_iff.mp success
    cases equality
    exact .inl ⟨text, bound, given, found, rfl⟩
  case h_2 absent => exact .inr ⟨absent, success⟩

/-- A delete of an entity has one value parameter, the entity or a list of it. -/
theorem values_of_deleteByEntity (kind : scope.archetype function = .deleteByEntity) :
    ∃ parameter execution, function.values = [parameter] ∧
      scope.execution? parameter.type = some execution := by
  have deleting : scope.deletingArchetype function = .deleteByEntity := by
    unfold archetype at kind
    split at kind
    · cases kind
    · split at kind
      · cases kind
      · split at kind
        · exact kind
        · unfold Catalog.readingArchetype at kind
          dsimp only at kind
          split at kind
          · cases kind
          · split at kind <;> cases kind
  unfold deletingArchetype at deleting
  split at deleting
  · cases deleting
  · split at deleting
    case h_1 parameter values =>
      split at deleting
      case isTrue entity =>
        obtain ⟨execution, found⟩ := Option.isSome_iff_exists.mp entity
        exact ⟨parameter, execution, values, found⟩
      case isFalse => cases deleting
    case h_2 => cases deleting

theorem drafted_of_save (kind : scope.archetype function = .save)
    (success : scope.save function = .ok draft) : Drafted scope function draft := by
  unfold save at success
  split at success
  case h_1 parameter parameters =>
    split at success
    case h_1 => cases success
    case h_2 execution found =>
      cases success
      exact .save kind parameters found
  case h_2 => cases success

theorem drafted_of_deleteRows {chosen : Archetype}
    (kind : scope.archetype function = chosen)
    (deletes : chosen = .deleteByFields ∨ chosen = .deleteWhere)
    (valuesOnly : function.checkValuesOnly = .ok ())
    (success : scope.deleteRows function chosen = .ok draft) :
    Drafted scope function draft := by
  simp only [deleteRows, bind_eq_ok_iff] at success
  obtain ⟨condition, conditionSuccess, equality⟩ := success
  cases equality
  exact .deleteRows kind deletes valuesOnly conditionSuccess

theorem drafted_of_delete {chosen : Archetype}
    (kind : scope.archetype function = chosen)
    (deletes : chosen = .deleteByEntity ∨ chosen = .deleteByFields ∨ chosen = .deleteWhere)
    (success : scope.delete function chosen = .ok draft) :
    Drafted scope function draft := by
  simp only [delete, bind_eq_ok_iff] at success
  obtain ⟨_, valuesOnly, success⟩ := success
  rcases deletes with rfl | rfl | rfl
  · obtain ⟨parameter, execution, values, found⟩ := values_of_deleteByEntity kind
    rw [values] at success
    cases success
    simp only [deleteEntity, found, Option.getD_some]
    exact .deleteEntity kind valuesOnly values found
  · exact drafted_of_deleteRows kind (.inl rfl) valuesOnly success
  · exact drafted_of_deleteRows kind (.inr rfl) valuesOnly success

theorem drafted_of_find (kind : scope.archetype function = .finder)
    (success : scope.find function = .ok draft) : Drafted scope function draft := by
  simp only [find, bind_eq_ok_iff] at success
  obtain ⟨⟨columns, plan⟩, rows, suffix, suffixSuccess, condition, conditionSuccess,
    equality⟩ := success
  cases equality
  exact .find kind rows suffixSuccess conditionSuccess

theorem drafted_of_findValue {chosen : Archetype}
    {statement : Option Condition → Statement}
    (kind : scope.archetype function = chosen)
    (asks : (chosen = .count ∧ statement = .count) ∨
      (chosen = .existence ∧ statement = .existence))
    (success : scope.findValue function chosen statement = .ok draft) :
    Drafted scope function draft := by
  simp only [findValue, bind_eq_ok_iff] at success
  obtain ⟨_, valuesOnly, plan, planSuccess, condition, conditionSuccess, equality⟩ := success
  cases equality
  exact .value kind asks valuesOnly planSuccess conditionSuccess

theorem drafted_of_custom (kind : scope.archetype function = .custom)
    (success : scope.custom function = .ok draft) : Drafted scope function draft := by
  unfold custom at success
  cases given : givenText function with
  | none =>
      rw [given] at success
      cases success
  | some pair =>
      obtain ⟨tag, isStatement⟩ := pair
      simp only [given, pure_bind] at success
      split at success
      case h_1 text content =>
        simp only [bind_eq_ok_iff] at success
        obtain ⟨suffix, suffixSuccess, bound, boundSuccess, plan, planSuccess,
          equality⟩ := success
        cases equality
        exact .custom kind given content suffixSuccess boundSuccess planSuccess
      case h_2 => cases success

theorem drafted_of_draft (success : scope.draft function = .ok draft) :
    Drafted scope function draft := by
  unfold Scope.draft at success
  split at success
  case h_1 kind => exact drafted_of_save kind success
  case h_2 kind => exact drafted_of_delete kind (.inl rfl) success
  case h_3 kind => exact drafted_of_delete kind (.inr (.inl rfl)) success
  case h_4 kind => exact drafted_of_delete kind (.inr (.inr rfl)) success
  case h_5 kind => exact drafted_of_find kind success
  case h_6 kind => exact drafted_of_findValue kind (.inl ⟨rfl, rfl⟩) success
  case h_7 kind => exact drafted_of_findValue kind (.inr ⟨rfl, rfl⟩) success
  case h_8 kind => exact drafted_of_custom kind success

/-- The drafts of a function are what it is compiled to. -/
theorem draft_of_drafted (drafted : Drafted scope function draft) :
    scope.draft function = .ok draft := by
  unfold Scope.draft
  cases drafted with
  | save kind parameters found =>
      rw [kind]
      simp only [save, parameters, found]
      rfl
  | deleteEntity kind valuesOnly values found =>
      rw [kind]
      simp only [delete, deleteEntity, valuesOnly, values, found, ok_bind]
      rfl
  | deleteRows kind deletes valuesOnly conditionSuccess =>
      rw [kind]
      rcases deletes with rfl | rfl
      · simp only [delete, deleteRows, valuesOnly, conditionSuccess, ok_bind]
        rfl
      · simp only [delete, deleteRows, valuesOnly, conditionSuccess, ok_bind]
        rfl
  | find kind rows suffixSuccess conditionSuccess =>
      rw [kind]
      simp only [find, rows, suffixSuccess, conditionSuccess, ok_bind]
      rfl
  | value kind asks valuesOnly planSuccess conditionSuccess =>
      rw [kind]
      rcases asks with ⟨rfl, rfl⟩ | ⟨rfl, rfl⟩
      · simp only [count, findValue, valuesOnly, planSuccess, conditionSuccess, ok_bind]
        rfl
      · simp only [testExistence, findValue, valuesOnly, planSuccess, conditionSuccess, ok_bind]
        rfl
  | custom kind given content suffixSuccess boundSuccess planSuccess =>
      rw [kind]
      simp only [custom, given, content, suffixSuccess, boundSuccess, planSuccess, ok_bind,
        pure_bind]
      rfl

theorem Drafted.archetype_eq (drafted : Drafted scope function draft) :
    draft.archetype = scope.archetype function := by
  cases drafted with
  | save kind => exact kind.symm
  | deleteEntity kind => exact kind.symm
  | deleteRows kind => exact kind.symm
  | find kind => exact kind.symm
  | value kind => exact kind.symm
  | custom kind => exact kind.symm

theorem compile_archetype {method : Method}
    (compiled : scope.compile function = .ok method) :
    method.archetype = scope.archetype function := by
  obtain ⟨draft, success, rfl⟩ := compile_eq_ok_iff.mp compiled
  exact (drafted_of_draft success).archetype_eq

/-- A method has the name and the parameters of its function. -/
theorem declared_of_compile {method : Method}
    (compiled : scope.compile function = .ok method) :
    method.name = function.name ∧ method.parameters =
      function.parameters.map fun parameter => (parameter.name, parameter.type) := by
  obtain ⟨draft, success, rfl⟩ := compile_eq_ok_iff.mp compiled
  cases drafted_of_draft success with
  | save => exact ⟨rfl, rfl⟩
  | deleteEntity => exact ⟨rfl, rfl⟩
  | deleteRows => exact ⟨rfl, rfl⟩
  | find => exact ⟨rfl, rfl⟩
  | value => exact ⟨rfl, rfl⟩
  | custom => exact ⟨rfl, rfl⟩

end Scope

end RowPlan
