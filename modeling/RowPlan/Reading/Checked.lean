import RowPlan.Reading.Fault

/-!
# Checked values

Reading goes on after a fault, so that all faults are reported together. What is
read in parts is a value if all of its parts are, and otherwise the faults of
all parts, in their order.
-/

namespace RowPlan

/-- A value, or everything that is wrong with what it is read from. -/
abbrev Checked (α : Type) := Except (List Fault) α

namespace Checked

/-- What is read as a whole has one fault at most. -/
def of {α : Type} : Except Fault α → Checked α
  | .ok value => .ok value
  | .error fault => .error [fault]

/-- A value that is read in two parts. -/
def both {α β : Type} : Checked α → Checked β → Checked (α × β)
  | .ok first, .ok second => .ok (first, second)
  | .ok _, .error faults => .error faults
  | .error faults, .ok _ => .error faults
  | .error faults, .error more => .error (faults ++ more)

/-- A list that is read value by value. -/
def all {α : Type} : List (Checked α) → Checked (List α)
  | [] => .ok []
  | first :: rest => (both first (all rest)).map fun (value, values) => value :: values

/-- Ends the reading: the faults of the parts become one fault of the whole. -/
def together {α : Type} : Checked α → Except Fault α
  | .ok value => .ok value
  | .error faults => .error (Fault.together faults)

section

variable {α β : Type}

theorem of_eq_ok_iff {result : Except Fault α} {value : α} :
    of result = .ok value ↔ result = .ok value := by
  cases result with
  | ok other => simp [of]
  | error fault => simp [of]

theorem both_eq_ok_iff {first : Checked α} {second : Checked β} {value : α × β} :
    both first second = .ok value ↔ first = .ok value.1 ∧ second = .ok value.2 := by
  cases first with
  | ok one =>
      cases second with
      | ok other => simp [both, Prod.ext_iff]
      | error faults => simp [both]
  | error faults =>
      cases second with
      | ok other => simp [both]
      | error more => simp [both]

theorem together_eq_ok_iff {result : Checked α} {value : α} :
    together result = .ok value ↔ result = .ok value := by
  cases result with
  | ok other => simp [together]
  | error faults => simp [together]

end

end Checked

end RowPlan
