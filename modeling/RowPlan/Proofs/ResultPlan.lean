import RowPlan.Proofs.Drafts
import RowPlan.Proofs.Saving

/-!
# Plans for results

A method that reads has a plan for its result. One that writes has none, whatever result its
function declares, since the kind of a method is chosen before its result is looked at.
-/

namespace RowPlan

/-- The kinds of methods that write rows, other than given text. -/
def writingKinds : List Archetype :=
  [.save, .deleteByEntity, .deleteByFields, .deleteWhere]

/-- A function is compiled to a method that yields nothing: it writes, or its given text returns
rows that are nothing, or those of an entity that has no plan. -/
inductive Scope.YieldsNothing (scope : Scope) (function : FunctionDecl) : Prop where
  | write : scope.archetype function ∈ writingKinds → YieldsNothing scope function
  | unit :
      scope.archetype function = .custom →
      (ReturnShape.of scope.catalog function.returnType).isUnit = true →
      YieldsNothing scope function
  | unplanned :
      scope.archetype function = .custom →
      (ReturnShape.of scope.catalog function.returnType).isScalar = false →
      (ReturnShape.of scope.catalog function.returnType).row.name = scope.entity.name →
      scope.table.plan = none →
      YieldsNothing scope function

namespace Scope

variable {scope : Scope} {function : FunctionDecl}

theorem customPlan_eq_none_iff {shape : ReturnShape} {plan : Option ReadPlan}
    (success : scope.customPlan function shape = .ok plan) :
    plan = none ↔ shape.isUnit = true ∨
      (shape.isScalar = false ∧ shape.row.name = scope.entity.name ∧
        scope.table.plan = none) := by
  unfold customPlan at success
  split at success
  case isTrue unit =>
    cases success
    exact iff_of_true rfl (.inl unit)
  case isFalse proper =>
    rw [or_iff_right proper]
    split at success
    case isTrue scalar =>
      obtain ⟨_, _, rfl⟩ := map_eq_ok_iff.mp success
      simp [scalar]
    case isFalse composite =>
      rw [Bool.not_eq_true] at composite
      split at success
      case isTrue own =>
        cases success
        simp [composite, own]
      case isFalse other =>
        split at success
        case isTrue =>
          obtain ⟨_, _, equality⟩ := bind_eq_ok_iff.mp success
          cases equality
          simp [other]
        case isFalse => cases success

theorem YieldsNothing.kind (nothing : scope.YieldsNothing function) :
    scope.archetype function ∈ writingKinds ∨ scope.archetype function = .custom := by
  cases nothing with
  | write writes => exact .inl writes
  | unit custom _ => exact .inr custom
  | unplanned custom _ _ _ => exact .inr custom

theorem yieldsNothing_iff_of_custom (kind : scope.archetype function = .custom) :
    scope.YieldsNothing function ↔
      (ReturnShape.of scope.catalog function.returnType).isUnit = true ∨
        ((ReturnShape.of scope.catalog function.returnType).isScalar = false ∧
          (ReturnShape.of scope.catalog function.returnType).row.name = scope.entity.name ∧
          scope.table.plan = none) := by
  constructor
  · intro nothing
    cases nothing with
    | write writes => simp [kind, writingKinds] at writes
    | unit _ isUnit => exact .inl isUnit
    | unplanned _ composite own planless => exact .inr ⟨composite, own, planless⟩
  · rintro (isUnit | ⟨composite, own, planless⟩)
    · exact .unit kind isUnit
    · exact .unplanned kind composite own planless

end Scope

/-- A compiled method has no plan exactly where it yields nothing. The result that its function
declares decides that only for given text. -/
theorem compile_plan_eq_none_iff {scope : Scope} {function : FunctionDecl} {method : Method}
    (compiled : scope.compile function = .ok method) :
    method.plan = none ↔ scope.YieldsNothing function := by
  obtain ⟨draft, success, rfl⟩ := Scope.compile_eq_ok_iff.mp compiled
  have drafted := Scope.drafted_of_draft success
  have reading : ∀ kind, scope.archetype function = kind → kind ∉ writingKinds →
      kind ≠ .custom → ¬ scope.YieldsNothing function := by
    rintro _ rfl reads given nothing
    exact nothing.kind.elim reads given
  cases drafted with
  | save kind => exact iff_of_true rfl (.write (by rw [kind]; decide))
  | deleteEntity kind => exact iff_of_true rfl (.write (by rw [kind]; decide))
  | deleteRows kind deletes =>
      rcases deletes with rfl | rfl
      · exact iff_of_true rfl (.write (by rw [kind]; decide))
      · exact iff_of_true rfl (.write (by rw [kind]; decide))
  | find kind => exact iff_of_false nofun (reading _ kind (by decide) nofun)
  | value kind asks =>
      rcases asks with ⟨rfl, _⟩ | ⟨rfl, _⟩
      · exact iff_of_false nofun (reading _ kind (by decide) nofun)
      · exact iff_of_false nofun (reading _ kind (by decide) nofun)
  | custom kind _ _ _ _ planSuccess =>
      rw [Scope.yieldsNothing_iff_of_custom kind]
      exact Scope.customPlan_eq_none_iff planSuccess

namespace Car

/-- Counts the cars with a given text. -/
def countCars : FunctionDecl where
  name := "deleted_count"
  returnType := .named "i64"
  tags := [⟨TagName.query, [("value", "SELECT count(*) FROM car")]⟩]

/-- Asks for the cars that have been deleted. -/
def deletedCars : FunctionDecl where
  name := "deleted_cars"
  parameters := [⟨"id", .named "i64", []⟩]
  returnType := .named "Vec" [{ target := entity }]

end Car

/-- Given text has a plan for its number, though its name is that of a delete. -/
theorem compile_plan_eq_none_iff_car :
    ∃ method, Car.scope.compile Car.countCars = .ok method ∧ method.plan ≠ none := by
  obtain ⟨method, compiled⟩ : ∃ method, Car.scope.compile Car.countCars = .ok method :=
    ⟨_, rfl⟩
  refine ⟨method, compiled, ?_⟩
  intro planless
  have custom : Car.scope.archetype Car.countCars = .custom := rfl
  rcases (Scope.yieldsNothing_iff_of_custom custom).mp
    ((compile_plan_eq_none_iff compiled).mp planless) with unit | ⟨composite, _⟩
  · cases unit
  · cases composite

/-- A list of cars is asked for, and the cars are deleted. -/
theorem deletedCars_yields_nothing :
    ∃ method, Car.scope.compile Car.deletedCars = .ok method ∧
      Car.deletedCars.returnType.name.isUnit = false ∧
      method.sql = "DELETE FROM \"car\" WHERE \"id\" = ?" ∧ method.plan = none :=
  ⟨_, rfl, rfl, rfl, rfl⟩

end RowPlan
