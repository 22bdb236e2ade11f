import RowPlan.Proofs.GuardedDelete
import RowPlan.Proofs.TextParameters

/-!
# Deletes with a given condition

A delete that is tagged with a condition is about the rows of that condition where the tag has a
text. An empty text is taken for none: the condition is then derived from the parameters, and
without parameters all rows are deleted. A query or statement with an empty text is refused.
-/

namespace RowPlan

/-! ## Texts of tags -/

/-- The text of a tag, empty where it has none. -/
def Tag.text (tag : Tag) : String :=
  (tag.params.lookup Tag.valueKey).getD ""

/-- The text of the condition that a function is tagged with. -/
def FunctionDecl.conditionText (function : FunctionDecl) : String :=
  ((function.tag? TagName.condition).map Tag.text).getD ""

theorem Tag.value?_eq (tag : Tag) :
    tag.value? = if tag.text = "" then none else some tag.text := by
  unfold value? param? text
  cases tag.params.lookup valueKey with
  | none => rfl
  | some value =>
      by_cases empty : value = ""
      · simp [empty]
      · simp [Option.filter, empty]

namespace FunctionDecl

variable {function : FunctionDecl}

theorem condition_value?_of_empty (empty : function.conditionText = "") :
    (function.tag? TagName.condition).bind Tag.value? = none := by
  unfold conditionText at empty
  cases found : function.tag? TagName.condition with
  | none => rfl
  | some tag =>
      rw [found] at empty
      exact (Tag.value?_eq tag).trans (if_pos empty)

theorem condition_value?_of_nonempty (given : function.conditionText ≠ "") :
    (function.tag? TagName.condition).bind Tag.value? = some function.conditionText := by
  unfold conditionText at given ⊢
  cases found : function.tag? TagName.condition with
  | none => simp [found] at given
  | some tag =>
      rw [found] at given
      exact (Tag.value?_eq tag).trans (if_neg given)

end FunctionDecl

namespace Method

variable {options : Options} {table : Table} {method : Method} {condition : SqlText}

theorem DeletesWhere.not_deletesAll (deletes : method.DeletesWhere options table condition) :
    ¬ method.DeletesAll options table := by
  intro all
  have same := congrArg String.length (deletes.sql.symm.trans all.sql)
  have clause : " WHERE ".length = 7 := by decide
  simp only [String.length_append, clause] at same
  omega

end Method

namespace Scope

variable {scope : Scope} {function : FunctionDecl} {method : Method}

/-! ## Empty texts -/

/-- A condition is derived where there is no text. -/
theorem condition_of_empty (empty : function.conditionText = "") :
    scope.condition function = scope.derivedCondition function := by
  unfold condition
  rw [FunctionDecl.condition_value?_of_empty empty]

theorem condition_of_empty_of_no_values (empty : function.conditionText = "")
    (noValues : function.values = []) : scope.condition function = .ok none := by
  rw [condition_of_empty empty, derivedCondition, noValues]
  rfl

/-- An empty text can be bound only where there are no values. -/
theorem values_of_bindText_empty {bound : SqlText}
    (success : scope.bindText function "" = .ok bound) : function.values = [] := by
  by_contra someValue
  obtain ⟨value, member⟩ := List.exists_mem_of_ne_nil _ someValue
  have noName : ∀ name, ¬ Mentions "" name := by
    intro name mentioned
    rw [mentions_iff] at mentioned
    cases mentioned
  have unused : ∃ name, name ∈ function.valueNames ∧ ¬ Mentions "" name :=
    ⟨value.name, List.mem_map_of_mem member, noName value.name⟩
  rw [bindText_of_unused (fun name mentioned => (noName name mentioned).elim) unused] at success
  cases success

theorem exists_parameterComparison_iff {parameter : ParameterDecl} :
    (∃ comparison, scope.parameterComparison function parameter = .ok comparison) ↔
      ∃ column, Resolves scope.table.columns parameter.name column := by
  simp only [parameterComparison_eq_ok_iff]
  constructor
  · rintro ⟨_, column, resolves, _⟩
    exact ⟨column, resolves⟩
  · rintro ⟨column, resolves⟩
    exact ⟨_, column, resolves, rfl⟩

/-- A condition can be derived where every value means a column. -/
theorem exists_derivedCondition_iff :
    (∃ condition, scope.derivedCondition function = .ok condition) ↔
      ∀ parameter, parameter ∈ function.values →
        ∃ column, Resolves scope.table.columns parameter.name column := by
  simp only [← @exists_parameterComparison_iff scope function, ← exists_mapM_iff,
    derivedCondition, bind_eq_ok_iff]
  constructor
  · rintro ⟨_, comparisons, success, _⟩
    exact ⟨comparisons, success⟩
  · rintro ⟨comparisons, success⟩
    cases comparisons with
    | nil => exact ⟨_, _, success, rfl⟩
    | cons first rest => exact ⟨_, _, success, rfl⟩

theorem archetype_of_givenText {given : Tag × Bool} (found : givenText function = some given) :
    scope.archetype function = .custom := by
  have tagged : (function.has TagName.query || function.has TagName.statement) = true := by
    unfold givenText at found
    split at found
    case h_1 statement isStatement =>
      exact Bool.or_eq_true_iff.mpr (.inr (Option.isSome_of_eq_some isStatement))
    case h_2 =>
      obtain ⟨query, isQuery, _⟩ := Option.map_eq_some_iff.mp found
      exact Bool.or_eq_true_iff.mpr (.inl (Option.isSome_of_eq_some isQuery))
  rw [archetype, if_pos tagged]

/-- A query or statement is refused where its text is empty. -/
theorem compile_of_empty_given {tag : Tag} {isStatement : Bool}
    (found : givenText function = some (tag, isStatement)) (empty : tag.text = "") :
    scope.compile function = .error (.invalidTag function.name tag.name "") := by
  have noValue : tag.value? = none := (Tag.value?_eq tag).trans (if_pos empty)
  simp only [compile, draft, archetype_of_givenText found, custom, found, noValue, pure_bind]
  rfl

/-! ## Compiled deletes -/

theorem compile_deleteWhere_iff (kind : scope.archetype function = .deleteWhere) :
    scope.compile function = .ok method ↔
      function.checkValuesOnly = .ok () ∧
        ∃ condition, scope.condition function = .ok condition ∧
          Draft.finish scope.options scope.table
            { MethodFacts.declared function .deleteWhere with statement := .delete condition } =
              method := by
  simp only [compile_eq_ok_iff, draft, kind, delete, deleteRows, bind_eq_ok_iff]
  constructor
  · rintro ⟨_, ⟨_, valuesOnly, condition, success, equality⟩, finished⟩
    cases equality
    exact ⟨valuesOnly, condition, success, finished⟩
  · rintro ⟨valuesOnly, condition, success, finished⟩
    exact ⟨_, ⟨_, valuesOnly, condition, success, rfl⟩, finished⟩

theorem compiled_of_given (compiled : scope.compile function = .ok method)
    (kind : scope.archetype function = .deleteWhere) (given : function.conditionText ≠ "") :
    ∃ bound, scope.bindText function function.conditionText = .ok bound ∧
      method.DeletesWhere scope.options scope.table bound := by
  obtain ⟨_, condition, success, rfl⟩ := (compile_deleteWhere_iff kind).mp compiled
  rw [condition_of_text (FunctionDecl.condition_value?_of_nonempty given)] at success
  obtain ⟨bound, boundSuccess, rfl⟩ := map_eq_ok_iff.mp success
  exact ⟨bound, boundSuccess, @deletesWhere_finish scope _ (.given bound) rfl⟩

theorem compiled_of_empty (compiled : scope.compile function = .ok method)
    (kind : scope.archetype function = .deleteWhere) (empty : function.conditionText = "") :
    (function.parameters = [] ∧ method.DeletesAll scope.options scope.table) ∨
      function.values ≠ [] ∧ function.parameters ≠ [] ∧
        ∃ derived, scope.derivedCondition function = .ok (some derived) ∧
          method.DeletesWhere scope.options scope.table (derived.text scope.options) := by
  obtain ⟨valuesOnly, condition, success, rfl⟩ := (compile_deleteWhere_iff kind).mp compiled
  have values := values_of_checkValuesOnly valuesOnly
  by_cases noValues : function.values = []
  · rw [condition_of_empty_of_no_values empty noValues] at success
    cases success
    exact .inl ⟨values ▸ noValues, deletesAll_finish rfl⟩
  · obtain ⟨derived, rfl, _⟩ := slots_of_condition success noValues
    rw [condition_of_empty empty] at success
    exact .inr ⟨noValues, values ▸ noValues, derived, success, deletesWhere_finish rfl⟩

theorem exists_compile_of_empty_iff (kind : scope.archetype function = .deleteWhere)
    (empty : function.conditionText = "") :
    (∃ method, scope.compile function = .ok method) ↔
      ∀ parameter, parameter ∈ function.parameters → parameter.role = .value ∧
        ∃ column, Resolves scope.table.columns parameter.name column := by
  simp only [compile_deleteWhere_iff kind, condition_of_empty empty]
  constructor
  · rintro ⟨_, valuesOnly, condition, success, _⟩ parameter member
    have columns := exists_derivedCondition_iff.mp ⟨condition, success⟩
    rw [values_of_checkValuesOnly valuesOnly] at columns
    exact ⟨checkValuesOnly_eq_ok_iff.mp valuesOnly parameter member, columns parameter member⟩
  · intro each
    have valuesOnly : function.checkValuesOnly = .ok () :=
      checkValuesOnly_eq_ok_iff.mpr fun parameter member => (each parameter member).1
    obtain ⟨condition, success⟩ := exists_derivedCondition_iff.mpr
      fun parameter member => (each parameter (List.mem_of_mem_filter member)).2
    exact ⟨_, valuesOnly, condition, success, rfl⟩

end Scope

/-- A delete that is tagged with a condition has the clause of its text exactly where that text
is not empty. With an empty text it deletes all rows if there are no parameters, and otherwise
those of the condition derived from them. An empty text is no error by itself: a function with
one compiles where its parameters are values that each mean a column, whereas a query or
statement without a text is refused. -/
theorem compile_renders_condition_iff {scope : Scope} {function : FunctionDecl}
    (kind : scope.archetype function = .deleteWhere) :
    (∀ method, scope.compile function = .ok method →
      ((∃ bound, scope.bindText function function.conditionText = .ok bound ∧
          method.DeletesWhere scope.options scope.table bound) ↔
        function.conditionText ≠ "") ∧
      (method.DeletesAll scope.options scope.table ↔
        function.conditionText = "" ∧ function.parameters = []) ∧
      (function.conditionText = "" → function.parameters ≠ [] →
        ∃ derived, scope.derivedCondition function = .ok (some derived) ∧
          method.DeletesWhere scope.options scope.table (derived.text scope.options))) ∧
    (function.conditionText = "" →
      ((∃ method, scope.compile function = .ok method) ↔
        ∀ parameter, parameter ∈ function.parameters → parameter.role = .value ∧
          ∃ column, Resolves scope.table.columns parameter.name column)) ∧
    ∀ other tag isStatement, Scope.givenText other = some (tag, isStatement) → tag.text = "" →
      scope.compile other = .error (.invalidTag other.name tag.name "") := by
  refine ⟨?_, Scope.exists_compile_of_empty_iff kind, fun _ _ _ => Scope.compile_of_empty_given⟩
  intro method compiled
  by_cases empty : function.conditionText = ""
  · rcases Scope.compiled_of_empty compiled kind empty with
      ⟨none, all⟩ | ⟨someValue, some, derived, success, deletes⟩
    · refine ⟨iff_of_false ?_ (not_not_intro empty), iff_of_true all ⟨empty, none⟩,
        fun _ some => (some none).elim⟩
      rintro ⟨bound, _, renders⟩
      exact renders.not_deletesAll all
    · refine ⟨iff_of_false ?_ (not_not_intro empty),
        iff_of_false deletes.not_deletesAll fun both => some both.2,
        fun _ _ => ⟨derived, success, deletes⟩⟩
      rintro ⟨bound, success, _⟩
      rw [empty] at success
      exact someValue (Scope.values_of_bindText_empty success)
  · obtain ⟨bound, success, deletes⟩ := Scope.compiled_of_given compiled kind empty
    exact ⟨iff_of_true ⟨bound, success, deletes⟩ empty,
      iff_of_false deletes.not_deletesAll fun both => empty both.1,
      fun none => (empty none).elim⟩

namespace Car

/-- Deletes the cars below a power. -/
def deleteWeak : FunctionDecl where
  name := "delete_weak"
  parameters := [⟨"least", .named "i32", []⟩]
  returnType := .unit
  tags := [.valued TagName.condition "power < :least"]

/-- Deletes cars by a condition that has been left empty. -/
def deleteStale : FunctionDecl where
  name := "delete_stale"
  returnType := .unit
  tags := [.valued TagName.condition ""]

end Car

theorem compile_renders_condition_iff_car :
    Car.scope.archetype Car.deleteWeak = .deleteWhere ∧
      ∃ method bound, Car.scope.compile Car.deleteWeak = .ok method ∧
        Car.scope.bindText Car.deleteWeak "power < :least" = .ok bound ∧
        method.DeletesWhere {} Car.table bound ∧
        ¬ method.DeletesAll {} Car.table ∧
        method.sql = "DELETE FROM \"car\" WHERE power < ?" := by
  have kind : Car.scope.archetype Car.deleteWeak = .deleteWhere := rfl
  have text : Car.deleteWeak.conditionText = "power < :least" := rfl
  have nonempty : Car.deleteWeak.conditionText ≠ "" := by
    rw [text]
    decide
  obtain ⟨method, compiled, sql⟩ : ∃ method, Car.scope.compile Car.deleteWeak = .ok method ∧
      method.sql = "DELETE FROM \"car\" WHERE power < ?" :=
    ⟨_, rfl, rfl⟩
  obtain ⟨renders, all, _⟩ := (compile_renders_condition_iff kind).1 method compiled
  obtain ⟨bound, success, deletes⟩ := renders.mpr nonempty
  exact ⟨kind, method, bound, compiled, success, deletes, fun deletesAll =>
    nonempty (all.mp deletesAll).1, sql⟩

/-- With an empty condition all cars are deleted. -/
theorem deleteStale_deletes_all :
    Car.scope.archetype Car.deleteStale = .deleteWhere ∧
      ∃ method, Car.scope.compile Car.deleteStale = .ok method ∧
        method.sql = "DELETE FROM \"car\"" ∧ method.DeletesAll {} Car.table :=
  ⟨rfl, _, rfl, rfl, rfl, rfl⟩

end RowPlan
