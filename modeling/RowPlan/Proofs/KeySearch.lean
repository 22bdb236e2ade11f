import Mathlib.Data.List.Nodup

/-!
# Searches by key

Where no two values have the same key, a search by key finds the value that has it, in whatever
order the values come.
-/

namespace RowPlan

section

variable {α κ : Type} [BEq κ] [LawfulBEq κ] {key : α → κ} {values others : List α} {value : α}

theorem find?_key_eq_some_iff (keys : (values.map key).Nodup) {wanted : κ} :
    (values.find? fun other => key other == wanted) = some value ↔
      value ∈ values ∧ key value = wanted := by
  constructor
  · intro found
    exact ⟨List.mem_of_find?_eq_some found, by simpa using List.find?_some found⟩
  · rintro ⟨member, rfl⟩
    cases found : values.find? fun other => key other == key value with
    | none => simpa using List.find?_eq_none.mp found value member
    | some other =>
        have sameKey : key other = key value := by simpa using List.find?_some found
        exact congrArg some (List.inj_on_of_nodup_map keys
          (List.mem_of_find?_eq_some found) member sameKey)

theorem find?_key_eq_of_perm (same : values.Perm others) (keys : (values.map key).Nodup)
    (wanted : κ) :
    (values.find? fun other => key other == wanted) =
      others.find? fun other => key other == wanted := by
  have otherKeys : (others.map key).Nodup := (same.map key).nodup_iff.mp keys
  apply Option.ext
  intro value
  rw [find?_key_eq_some_iff keys, find?_key_eq_some_iff otherKeys, same.mem_iff]

end

end RowPlan
