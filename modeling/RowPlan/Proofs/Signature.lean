import RowPlan.Proofs.Success
import RowPlan.Method.Suffix

/-!
# Signatures and suffixes

What the shape of a result and the suffix of a query are where they are known.
A suffix is read after four checks, each of which refuses the function.
-/

namespace RowPlan

namespace ReturnShape

variable {catalog : Catalog} {type : TypeUse}

theorem of_collection (noPage : type.name.isPage = false)
    (collection : catalog.isCollection type = true) :
    (of catalog type).isMany = true ∧
      (of catalog type).row = type.element?.getD .unit := by
  simp [of, isMany, noPage, collection]

theorem of_single (noPage : type.name.isPage = false)
    (single : catalog.isCollection type = false) :
    (of catalog type).isMany = false ∧ (of catalog type).row = type := by
  simp [of, isMany, noPage, single]

end ReturnShape

namespace Scope

variable {scope : Scope} {function : FunctionDecl} {shape : ReturnShape}
  {capped : Bool} {suffix : Suffix}

/-- The limit that a function asks for, after the number in its limit tag. -/
def limitAfter (scope : Scope) (function : FunctionDecl) (shape : ReturnShape)
    (capped : Bool) (literal : Option Nat) : Option RowLimit :=
  match literal, (function.parametersOf .limit).head? with
  | some rows, _ => some (.literal rows)
  | none, some parameter => some (.bound (scope.limitSlot parameter))
  | none, none =>
      if function.has TagName.first then some .first
      else if capped && !shape.isMany
          && ((function.parametersOf .pageable).head?.map ParameterDecl.name).isNone then
        some (.cap scope.options.singleResultCap.toNat)
      else none

theorem suffix_parts (success : scope.suffix function shape capped = .ok suffix) :
    ((function.parametersOf .pageable).head?.map ParameterDecl.name).isSome =
        shape.isPage ∧
      (function.has TagName.first && shape.isMany) = false ∧
      ∃ literal, function.literalLimit = .ok literal ∧
        (limitSources literal.isSome (function.parametersOf .limit).head?.isSome
          (function.has TagName.first)
          ((function.parametersOf .pageable).head?.map ParameterDecl.name).isSome).length ≤ 1 ∧
        suffix =
          { orderBy :=
              if ((function.parametersOf .order).head?.map ParameterDecl.name).isSome then none
              else (function.tag? TagName.orderBy).bind Tag.value?
            orderParameter := (function.parametersOf .order).head?.map ParameterDecl.name
            limit := scope.limitAfter function shape capped literal
            pageable := (function.parametersOf .pageable).head?.map ParameterDecl.name } := by
  unfold Scope.suffix at success
  dsimp only at success
  split at success
  case isTrue => cases success
  case isFalse paged =>
    split at success
    case isTrue => cases success
    case isFalse single =>
      obtain ⟨literal, read, success⟩ := bind_eq_ok_iff.mp success
      split at success
      case isTrue => cases success
      case isFalse few =>
        cases success
        exact ⟨by simpa using paged, Bool.eq_false_iff.mpr single, literal, read,
          Nat.le_of_not_lt few, rfl⟩

end Scope

end RowPlan
