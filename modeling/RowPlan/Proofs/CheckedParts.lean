import RowPlan.Proofs.Success
import RowPlan.Reading.Checked

/-!
# Parts of readings

What is read in parts is read if each part is. A change of the value that is read can be made in
the parts as well.
-/

namespace RowPlan

section

variable {α β γ δ : Type}

/-- Two changes after each other that may be made the other way round. -/
theorem map_map_comm {ε : Type} (result : Except ε α) {change : α → β} {next : β → δ}
    {before : α → γ} {after : γ → δ}
    (same : ∀ value, next (change value) = after (before value)) :
    (result.map change).map next = (result.map before).map after := by
  cases result with
  | ok value => exact congrArg Except.ok (same value)
  | error fault => rfl

namespace Checked

theorem exists_all_iff {results : List (Checked α)} :
    (∃ values, all results = .ok values) ↔
      ∀ result, result ∈ results → ∃ value, result = .ok value := by
  induction results with
  | nil => simp [all]
  | cons first rest induction =>
      rw [List.forall_mem_cons, ← induction]
      constructor
      · rintro ⟨_, success⟩
        obtain ⟨⟨value, others⟩, read, _⟩ := map_eq_ok_iff.mp success
        obtain ⟨found, restFound⟩ := both_eq_ok_iff.mp read
        exact ⟨⟨value, found⟩, others, restFound⟩
      · rintro ⟨⟨value, found⟩, others, restFound⟩
        have read : both first (all rest) = .ok (value, others) :=
          both_eq_ok_iff.mpr ⟨found, restFound⟩
        exact ⟨value :: others, map_eq_ok_iff.mpr ⟨_, read, rfl⟩⟩

theorem of_map (result : Except Fault α) (change : α → β) :
    of (result.map change) = (of result).map change := by
  cases result with
  | ok value => rfl
  | error fault => rfl

theorem together_map (result : Checked α) (change : α → β) :
    together (result.map change) = (together result).map change := by
  cases result with
  | ok value => rfl
  | error faults => rfl

theorem both_map (first : Checked α) (second : Checked β) (change : α → γ) (other : β → δ) :
    both (first.map change) (second.map other) =
      (both first second).map (Prod.map change other) := by
  cases first with
  | ok one =>
      cases second with
      | ok two => rfl
      | error faults => rfl
  | error faults =>
      cases second with
      | ok two => rfl
      | error more => rfl

theorem both_map_left (first : Checked α) (second : Checked β) (change : α → γ) :
    both (first.map change) second = (both first second).map (Prod.map change id) := by
  have mapped := both_map first second change id
  rwa [Except.map_id] at mapped

theorem both_map_right (first : Checked α) (second : Checked β) (change : β → γ) :
    both first (second.map change) = (both first second).map (Prod.map id change) := by
  have mapped := both_map first second id change
  rwa [Except.map_id] at mapped

theorem all_map (results : List (Checked α)) (change : α → β) :
    all (results.map fun result => result.map change) =
      (all results).map (List.map change) := by
  induction results with
  | nil => rfl
  | cons first rest induction =>
      rw [List.map_cons, all, induction, both_map, all]
      exact map_map_comm _ fun _ => rfl

end Checked

end

end RowPlan
