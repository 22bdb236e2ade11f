import RowPlan.Method.Compilation
import RowPlan.Proofs.PlaceholderText

/-!
# Functions sorted by given keys

A function may be sorted by given keys instead of by an order parameter. It is compiled as
before, since order parameters are no values and nothing but the sort clause depends on the
order tag.
-/

namespace RowPlan

/-- The function without its order parameters. Its order tags give way to one for the keys,
if there are any. -/
def FunctionDecl.sortedBy (function : FunctionDecl) (keys : Option String) : FunctionDecl :=
  { function with
    parameters := function.parameters.filter fun parameter => !parameter.type.name.isOrder
    tags := function.tags.filter (fun tag => tag.name != TagName.orderBy) ++
      (keys.map (Tag.valued TagName.orderBy)).toList }

/-- The suffix with a clause for the keys. -/
def Suffix.sortedBy (keys : Option String) (suffix : Suffix) : Suffix :=
  { suffix with orderBy := keys, orderParameter := none }

/-- The statement with a clause for the keys. -/
def Statement.sortedBy (keys : Option String) : Statement → Statement
  | .select columns condition suffix => .select columns condition (suffix.sortedBy keys)
  | .given text suffix => .given text (suffix.sortedBy keys)
  | other => other

/-- The facts of the method without order parameters. -/
def MethodFacts.sorted (facts : MethodFacts) : MethodFacts :=
  { facts with
    parameters := facts.parameters.filter fun parameter => !parameter.2.name.isOrder
    orderParameter := none }

/-- The draft with a clause for the keys. -/
def Draft.sortedBy (keys : Option String) (draft : Draft) : Draft :=
  { draft.toMethodFacts.sorted with statement := draft.statement.sortedBy keys }

theorem ParameterDecl.role_eq_order_iff {parameter : ParameterDecl} :
    parameter.role = .order ↔ parameter.type.name.isOrder = true := by
  unfold role
  cases pageable : parameter.type.name.isPageable with
  | true =>
      have other : parameter.type.name.isOrder = false := by
        simp only [QualifiedName.isPageable, QualifiedName.isRuntime, Bool.and_eq_true,
          beq_iff_eq] at pageable
        simp [QualifiedName.isOrder, QualifiedName.isRuntime, pageable.1]
      simp [other]
  | false =>
      cases parameter.type.name.isOrder with
      | true => simp
      | false => cases parameter.has TagName.limit <;> simp

namespace FunctionDecl

variable {function : FunctionDecl} {keys : Option String}

theorem parametersOf_sortedBy {role : Role} (other : role ≠ .order) :
    (function.sortedBy keys).parametersOf role = function.parametersOf role := by
  unfold parametersOf sortedBy
  rw [List.filter_filter]
  apply List.filter_congr
  intro parameter _
  cases isOrder : parameter.type.name.isOrder with
  | true =>
      have role := ParameterDecl.role_eq_order_iff.mpr isOrder
      simp [role, other.symm]
  | false => simp

theorem parametersOf_order_sortedBy : (function.sortedBy keys).parametersOf .order = [] := by
  apply List.filter_eq_nil_iff.mpr
  intro parameter member
  obtain ⟨_, noOrder⟩ := List.mem_filter.mp member
  intro order
  have isOrder := ParameterDecl.role_eq_order_iff.mp (beq_iff_eq.mp order)
  simp [isOrder] at noOrder

theorem values_sortedBy : (function.sortedBy keys).values = function.values :=
  parametersOf_sortedBy (by decide)

theorem tag?_sortedBy {name : String} (other : name ≠ TagName.orderBy) :
    (function.sortedBy keys).tag? name = function.tag? name := by
  have kept : (function.tags.filter fun tag => tag.name != TagName.orderBy).find?
      (fun tag => tag.name == name) = function.tags.find? fun tag => tag.name == name := by
    rw [List.find?_filter]
    congr 1
    funext tag
    by_cases named : tag.name = name
    · simp [named, other]
    · simp [named]
  have added : (keys.map (Tag.valued TagName.orderBy)).toList.find?
      (fun tag => tag.name == name) = none := by
    cases keys with
    | none => rfl
    | some keys => simp [Tag.valued, other.symm]
  rw [tag?, Tag.named?, sortedBy, List.find?_append, kept, added, Option.or_none]
  rfl

theorem has_sortedBy {name : String} (other : name ≠ TagName.orderBy) :
    (function.sortedBy keys).has name = function.has name :=
  congrArg Option.isSome (tag?_sortedBy other)

theorem orderBy_sortedBy (proper : keys ≠ some "") :
    ((function.sortedBy keys).tag? TagName.orderBy).bind Tag.value? = keys := by
  have removed : (function.tags.filter fun tag => tag.name != TagName.orderBy).find?
      (fun tag => tag.name == TagName.orderBy) = none := by
    simp
  rw [tag?, Tag.named?, sortedBy, List.find?_append, removed]
  cases keys with
  | none => simp
  | some keys =>
      have present : keys ≠ "" := fun empty => proper (congrArg some empty)
      simp [Tag.valued, Tag.value?, Tag.param?, Tag.valueKey, present]

end FunctionDecl

namespace Scope

variable {scope : Scope} {function : FunctionDecl} {keys : Option String}

theorem archetype_sortedBy :
    scope.archetype (function.sortedBy keys) = scope.archetype function := by
  have deleting : scope.deletingArchetype (function.sortedBy keys) =
      scope.deletingArchetype function := by
    rw [deletingArchetype, deletingArchetype, FunctionDecl.values_sortedBy,
      FunctionDecl.has_sortedBy (by decide)]
  unfold archetype
  rw [deleting, FunctionDecl.has_sortedBy (by decide), FunctionDecl.has_sortedBy (by decide),
    FunctionDecl.has_sortedBy (by decide), FunctionDecl.has_sortedBy (by decide)]
  rfl

theorem bindPlaceholders_sortedBy (pieces : List Segment) :
    scope.bindPlaceholders (function.sortedBy keys) pieces =
      scope.bindPlaceholders function pieces := by
  have slots : scope.placeholderSlot (function.sortedBy keys) =
      scope.placeholderSlot function := by
    funext name isList
    rw [placeholderSlot, placeholderSlot, FunctionDecl.values_sortedBy]
  exact bindPlaceholders_congr slots rfl pieces

theorem bindText_sortedBy (text : String) :
    scope.bindText (function.sortedBy keys) text = scope.bindText function text := by
  have used : (function.sortedBy keys).checkUsed = function.checkUsed := by
    funext names
    rw [FunctionDecl.checkUsed, FunctionDecl.checkUsed, FunctionDecl.values_sortedBy]
    rfl
  rw [bindText, bindText, bindPlaceholders_sortedBy, used]

theorem condition_sortedBy :
    scope.condition (function.sortedBy keys) = scope.condition function := by
  have derived : scope.derivedCondition (function.sortedBy keys) =
      scope.derivedCondition function := by
    rw [derivedCondition, derivedCondition, FunctionDecl.values_sortedBy]
    rfl
  rw [condition, condition, FunctionDecl.tag?_sortedBy (by decide)]
  simp only [bindText_sortedBy, derived]

theorem literalLimit_sortedBy :
    (function.sortedBy keys).literalLimit = function.literalLimit := by
  rw [FunctionDecl.literalLimit, FunctionDecl.literalLimit,
    FunctionDecl.tag?_sortedBy (by decide)]
  rfl

theorem suffix_sortedBy (proper : keys ≠ some "") (shape : ReturnShape) (capped : Bool) :
    scope.suffix (function.sortedBy keys) shape capped =
      (scope.suffix function shape capped).map (Suffix.sortedBy keys) := by
  have limits : (function.sortedBy keys).parametersOf .limit = function.parametersOf .limit :=
    FunctionDecl.parametersOf_sortedBy (by decide)
  have pages : (function.sortedBy keys).parametersOf .pageable =
      function.parametersOf .pageable :=
    FunctionDecl.parametersOf_sortedBy (by decide)
  have first : (function.sortedBy keys).has TagName.first = function.has TagName.first :=
    FunctionDecl.has_sortedBy (by decide)
  unfold Scope.suffix
  rw [literalLimit_sortedBy, limits, pages, first, FunctionDecl.parametersOf_order_sortedBy,
    FunctionDecl.orderBy_sortedBy proper]
  -- The four checks are those of the function.
  dsimp only
  split
  · rfl
  · split
    · rfl
    · cases function.literalLimit with
      | error fault => rfl
      | ok literal =>
          simp only [bind, Except.bind]
          split
          · rfl
          · rfl

theorem declared_sortedBy (archetype : Archetype) :
    MethodFacts.declared (function.sortedBy keys) archetype =
      (MethodFacts.declared function archetype).sorted := by
  unfold MethodFacts.declared MethodFacts.sorted FunctionDecl.sortedBy
  dsimp only
  rw [List.filter_map]
  rfl

theorem find_sortedBy (proper : keys ≠ some "") :
    scope.find (function.sortedBy keys) =
      (scope.find function).map (Draft.sortedBy keys) := by
  have rows : scope.rows (function.sortedBy keys) = scope.rows function := rfl
  have returns : (function.sortedBy keys).returnType = function.returnType := rfl
  unfold find
  dsimp only
  rw [declared_sortedBy, condition_sortedBy, suffix_sortedBy proper, rows, returns]
  cases scope.rows function (ReturnShape.of scope.catalog function.returnType).row with
  | error fault => rfl
  | ok selected =>
      cases scope.suffix function (ReturnShape.of scope.catalog function.returnType) true with
      | error fault => rfl
      | ok suffix =>
          cases scope.condition function with
          | error fault => rfl
          | ok condition => rfl

theorem custom_sortedBy (proper : keys ≠ some "") :
    scope.custom (function.sortedBy keys) =
      (scope.custom function).map (Draft.sortedBy keys) := by
  have given : givenText (function.sortedBy keys) = givenText function := by
    rw [givenText, givenText, FunctionDecl.tag?_sortedBy (by decide),
      FunctionDecl.tag?_sortedBy (by decide)]
  have plan : scope.customPlan (function.sortedBy keys) = scope.customPlan function := rfl
  have returns : (function.sortedBy keys).returnType = function.returnType := rfl
  unfold custom
  dsimp only
  rw [declared_sortedBy, given, suffix_sortedBy proper, plan, returns]
  cases givenText function with
  | none => rfl
  | some pair =>
      obtain ⟨tag, isStatement⟩ := pair
      cases content : tag.value? with
      | none =>
          simp only [pure_bind, content]
          rfl
      | some text =>
          simp only [pure_bind, content, bindText_sortedBy]
          cases scope.suffix function (ReturnShape.of scope.catalog function.returnType)
              false with
          | error fault => rfl
          | ok suffix =>
              cases scope.bindText function text with
              | error fault => rfl
              | ok bound =>
                  cases scope.customPlan function
                      (ReturnShape.of scope.catalog function.returnType) with
                  | error fault => rfl
                  | ok plan => rfl

theorem compile_sortedBy (proper : keys ≠ some "")
    (kind : scope.archetype function = .finder ∨ scope.archetype function = .custom) :
    scope.compile (function.sortedBy keys) =
      (scope.draft function).map fun draft =>
        (draft.sortedBy keys).finish scope.options scope.table := by
  have drafts : scope.draft (function.sortedBy keys) =
      (scope.draft function).map (Draft.sortedBy keys) := by
    unfold draft
    rw [archetype_sortedBy]
    rcases kind with kind | kind
    · rw [kind]
      exact find_sortedBy proper
    · rw [kind]
      exact custom_sortedBy proper
  rw [compile, drafts]
  cases scope.draft function with
  | error fault => rfl
  | ok draft => rfl

end Scope

end RowPlan
