import RowPlan.Proofs.GivenCondition
import RowPlan.Proofs.KeySearch

/-!
# Parameters in any order

A function with a given text binds its values where the text names them. Where its parameters are
told apart by their names, and by their roles unless they are values, it compiles to the same
method in whatever order they are declared.
-/

namespace RowPlan

/-- The function with other parameters. -/
def FunctionDecl.declaring (function : FunctionDecl) (parameters : List ParameterDecl) :
    FunctionDecl :=
  { function with parameters }

/-- The draft of a function with other parameters. -/
def Draft.declaring (draft : Draft) (parameters : List ParameterDecl) : Draft :=
  { draft with parameters := parameters.map fun parameter => (parameter.name, parameter.type) }

/-- The method of a function with other parameters. -/
def Method.declaring (method : Method) (parameters : List ParameterDecl) : Method :=
  { method with parameters := parameters.map fun parameter => (parameter.name, parameter.type) }

/-- No two parameters have the same name, and no two the same role unless they are values. -/
structure FunctionDecl.Distinguishes (function : FunctionDecl) : Prop where
  names : (function.parameters.map ParameterDecl.name).Nodup
  roles : ∀ role, role ≠ .value → (function.parametersOf role).length ≤ 1

/-! ## Parameters by role and by name -/

theorem eq_of_perm_of_length_le_one {α : Type} {values others : List α}
    (same : values.Perm others) (few : values.length ≤ 1) : values = others := by
  cases values with
  | nil => exact same.nil_eq
  | cons value rest =>
      obtain rfl : rest = [] := by simpa using few
      exact List.singleton_perm.mp same

section

variable {scope : Scope} {function : FunctionDecl} {parameters : List ParameterDecl}
  (same : function.parameters.Perm parameters)

namespace FunctionDecl

include same

theorem parametersOf_perm (role : Role) :
    (function.parametersOf role).Perm ((function.declaring parameters).parametersOf role) :=
  same.filter _

theorem parametersOf_declaring (distinguishes : function.Distinguishes) {role : Role}
    (other : role ≠ .value) :
    (function.declaring parameters).parametersOf role = function.parametersOf role :=
  (eq_of_perm_of_length_le_one (parametersOf_perm same role)
    (distinguishes.roles role other)).symm

theorem find?_values_declaring (distinguishes : function.Distinguishes) (name : String) :
    ((function.declaring parameters).values.find? fun parameter => parameter.name == name) =
      function.values.find? fun parameter => parameter.name == name := by
  have names : (function.values.map ParameterDecl.name).Nodup :=
    distinguishes.names.sublist (List.filter_sublist.map _)
  exact (find?_key_eq_of_perm (parametersOf_perm same .value) names name).symm

theorem checkUsed_declaring {used : List String} (checked : function.checkUsed used = .ok ()) :
    (function.declaring parameters).checkUsed used = .ok () := by
  apply checkUsed_of_used
  intro name member
  obtain ⟨parameter, value, rfl⟩ := List.mem_map.mp member
  exact Scope.mem_of_checkUsed checked ((parametersOf_perm same .value).mem_iff.mpr value)

theorem checkValuesOnly_declaring (checked : function.checkValuesOnly = .ok ()) :
    (function.declaring parameters).checkValuesOnly = .ok () := by
  rw [Scope.checkValuesOnly_eq_ok_iff] at checked ⊢
  exact fun parameter member => checked parameter (same.mem_iff.mpr member)

end FunctionDecl

/-! ## Texts and suffixes -/

namespace Scope

/-- A text that is no query or statement is that of a condition. -/
theorem conditionText_of_givenText? {text : String} (given : scope.givenText? function = some text)
    (noQuery : scope.archetype function ≠ .custom) :
    (function.tag? TagName.condition).bind Tag.value? = some text := by
  unfold givenText? at given
  split at given
  case h_1 => cases given
  case h_2 => cases given
  case h_3 custom => exact absurd custom noQuery
  case h_4 => exact given

/-- The kind of a function with a text does not depend on its parameters. -/
theorem archetype_declaring {text : String} (given : scope.givenText? function = some text) :
    scope.archetype (function.declaring parameters) = scope.archetype function := by
  by_cases custom : scope.archetype function = .custom
  · rw [givenText?, custom] at given
    obtain ⟨tag, found, _⟩ := Option.bind_eq_some_iff.mp given
    have otherFound : givenText (function.declaring parameters) = some tag := found
    rw [custom, archetype_of_givenText otherFound]
  · obtain ⟨tag, found, _⟩ :=
      Option.bind_eq_some_iff.mp (conditionText_of_givenText? given custom)
    have tagged : function.has TagName.condition = true := Option.isSome_of_eq_some found
    have otherTagged : (function.declaring parameters).has TagName.condition = true := tagged
    rw [archetype, archetype, deletingArchetype, deletingArchetype, if_pos tagged,
      if_pos otherTagged]
    rfl

include same

theorem bindPlaceholders_declaring (distinguishes : function.Distinguishes)
    (pieces : List Segment) :
    scope.bindPlaceholders (function.declaring parameters) pieces =
      scope.bindPlaceholders function pieces := by
  have slots : scope.placeholderSlot (function.declaring parameters) =
      scope.placeholderSlot function := by
    funext name isList
    rw [placeholderSlot, placeholderSlot,
      FunctionDecl.find?_values_declaring same distinguishes]
  exact bindPlaceholders_congr slots rfl pieces

theorem bindText_declaring (distinguishes : function.Distinguishes) {text : String}
    {bound : SqlText} (success : scope.bindText function text = .ok bound) :
    scope.bindText (function.declaring parameters) text = .ok bound := by
  simp only [bindText, bind_eq_ok_iff] at success
  obtain ⟨pieces, piecesSuccess, _, checked, equality⟩ := success
  simp only [bindText, bindPlaceholders_declaring same distinguishes, piecesSuccess,
    FunctionDecl.checkUsed_declaring same checked, ok_bind]
  exact equality

theorem condition_declaring (distinguishes : function.Distinguishes) {text : String}
    (given : (function.tag? TagName.condition).bind Tag.value? = some text)
    {condition : Option Condition} (success : scope.condition function = .ok condition) :
    scope.condition (function.declaring parameters) = .ok condition := by
  have otherGiven : ((function.declaring parameters).tag? TagName.condition).bind Tag.value? =
      some text := given
  rw [condition_of_text given] at success
  rw [condition_of_text otherGiven]
  obtain ⟨bound, boundSuccess, equality⟩ := map_eq_ok_iff.mp success
  exact map_eq_ok_iff.mpr ⟨bound, bindText_declaring same distinguishes boundSuccess, equality⟩

theorem suffix_declaring (distinguishes : function.Distinguishes) (shape : ReturnShape)
    (capped : Bool) :
    scope.suffix (function.declaring parameters) shape capped =
      scope.suffix function shape capped := by
  unfold suffix
  rw [FunctionDecl.parametersOf_declaring same distinguishes (by decide : Role.pageable ≠ .value),
    FunctionDecl.parametersOf_declaring same distinguishes (by decide : Role.limit ≠ .value),
    FunctionDecl.parametersOf_declaring same distinguishes (by decide : Role.order ≠ .value)]
  rfl

/-! ## Drafts -/

/-- Every part of the draft of a text is as it was. -/
theorem Drafted.declaring {draft : Draft} {text : String}
    (drafted : scope.Drafted function draft) (given : scope.givenText? function = some text)
    (distinguishes : function.Distinguishes) :
    scope.Drafted (function.declaring parameters) (draft.declaring parameters) := by
  have kind : scope.archetype (function.declaring parameters) = scope.archetype function :=
    archetype_declaring given
  cases drafted with
  | save other => simp [givenText?, other] at given
  | deleteEntity other => simp [givenText?, other] at given
  | deleteRows other deletes valuesOnly conditionSuccess =>
      have noQuery : scope.archetype function ≠ .custom := by
        rcases deletes with rfl | rfl
        · simp [other]
        · simp [other]
      exact .deleteRows (kind.trans other) deletes
        (FunctionDecl.checkValuesOnly_declaring same valuesOnly)
        (condition_declaring same distinguishes (conditionText_of_givenText? given noQuery)
          conditionSuccess)
  | find other rows suffixSuccess conditionSuccess =>
      have noQuery : scope.archetype function ≠ .custom := by simp [other]
      exact .find (kind.trans other) rows
        ((suffix_declaring same distinguishes _ _).trans suffixSuccess)
        (condition_declaring same distinguishes (conditionText_of_givenText? given noQuery)
          conditionSuccess)
  | value other asks valuesOnly planSuccess conditionSuccess =>
      have noQuery : scope.archetype function ≠ .custom := by
        rcases asks with ⟨rfl, _⟩ | ⟨rfl, _⟩
        · simp [other]
        · simp [other]
      exact .value (kind.trans other) asks
        (FunctionDecl.checkValuesOnly_declaring same valuesOnly) planSuccess
        (condition_declaring same distinguishes (conditionText_of_givenText? given noQuery)
          conditionSuccess)
  | custom other found content suffixSuccess boundSuccess planSuccess =>
      exact .custom (kind.trans other) found content
        ((suffix_declaring same distinguishes _ _).trans suffixSuccess)
        (bindText_declaring same distinguishes boundSuccess) planSuccess

end Scope

end

/-- A function with a given text compiles in whatever order its parameters are declared, and only
the declared parameters of the method change with it. -/
theorem compile_parameters_in_any_order {scope : Scope} {function : FunctionDecl}
    {method : Method} {text : String} (given : scope.givenText? function = some text)
    (distinguishes : function.Distinguishes) (compiled : scope.compile function = .ok method)
    {parameters : List ParameterDecl} (same : function.parameters.Perm parameters) :
    scope.compile (function.declaring parameters) = .ok (method.declaring parameters) := by
  obtain ⟨draft, success, rfl⟩ := Scope.compile_eq_ok_iff.mp compiled
  have drafted := (Scope.drafted_of_draft success).declaring same given distinguishes
  exact Scope.compile_eq_ok_iff.mpr ⟨_, Scope.draft_of_drafted drafted, rfl⟩

namespace Car

def aboveText : String :=
  "power > :least AND id IN (:ids) OR power = :least"

/-- Finds a page of the cars of a text, in an order that the caller chooses. -/
def findAbove : FunctionDecl where
  name := "find_above"
  parameters := [⟨"ids", .named "Vec" [.named "i64"], []⟩, ⟨"page", .named "Pageable", []⟩,
    ⟨"least", .named "i32", []⟩, ⟨"order", .named "Order", []⟩]
  returnType := .named "Page" [{ target := entity }]
  tags := [.valued TagName.condition aboveText]

end Car

/-- The least power is bound first wherever it is declared, and the page last. -/
theorem compile_parameters_in_any_order_car :
    ∃ method, Car.scope.givenText? Car.findAbove = some Car.aboveText ∧
      Car.findAbove.Distinguishes ∧ Car.scope.compile Car.findAbove = .ok method ∧
      Car.findAbove.parameters.Perm Car.findAbove.parameters.reverse ∧
      Car.scope.compile (Car.findAbove.declaring Car.findAbove.parameters.reverse) =
        .ok (method.declaring Car.findAbove.parameters.reverse) ∧
      method.slots.map BindSlot.path =
        [["least"], ["ids"], ["least"], ["page", "limit"], ["page", "offset"]] := by
  obtain ⟨method, compiled, paths⟩ : ∃ method, Car.scope.compile Car.findAbove = .ok method ∧
      method.slots.map BindSlot.path =
        [["least"], ["ids"], ["least"], ["page", "limit"], ["page", "offset"]] :=
    ⟨_, rfl, rfl⟩
  have distinguishes : Car.findAbove.Distinguishes := by
    refine ⟨by decide, fun role other => ?_⟩
    cases role with
    | value => exact absurd rfl other
    | pageable => decide
    | order => decide
    | limit => decide
  have same : Car.findAbove.parameters.Perm Car.findAbove.parameters.reverse :=
    (List.reverse_perm _).symm
  exact ⟨method, rfl, distinguishes, compiled, same,
    compile_parameters_in_any_order rfl distinguishes compiled same, paths⟩

end RowPlan
