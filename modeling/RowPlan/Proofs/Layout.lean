import RowPlan.Sql

/-!
# Layout of SQL text

Laying out a text writes its fragments one after the other while slots are
bound. `written` is the text that comes out and `bindAll` what has been bound
then, so that a layout can be taken apart at any fragment.
-/

namespace RowPlan

/-- The marker of the slot with a number. -/
def MarkerStyle.marker (style : MarkerStyle) (number : Nat) : String :=
  match style with
  | .question => "?"
  | .numbered => "$" ++ toString number

namespace Binding

/-- The number that a slot gets: that of an earlier slot of its key where numbers
are shared, else the next one. -/
def numberFor (style : MarkerStyle) (binding : Binding) (key : Option String) : Nat :=
  match style with
  | .question => binding.slots.length + 1
  | .numbered =>
      (key.bind fun key => binding.numbers.lookup key).getD (binding.slots.length + 1)

theorem bind_marker (style : MarkerStyle) (binding : Binding) (key : Option String)
    (slot : BindSlot) :
    (binding.bind style key slot).1 = style.marker (binding.numberFor style key) := by
  cases style with
  | question => rfl
  | numbered =>
      simp only [bind, numberFor, MarkerStyle.marker]
      cases found : key.bind fun key => binding.numbers.lookup key with
      | none => rfl
      | some number => rfl

theorem bind_none (style : MarkerStyle) (binding : Binding) (slot : BindSlot) :
    binding.bind style none slot =
      (style.marker (binding.slots.length + 1),
        { binding with slots := binding.slots ++ [slot] }) := by
  cases style with
  | question => rfl
  | numbered => rfl

theorem numberFor_none (style : MarkerStyle) (binding : Binding) :
    binding.numberFor style none = binding.slots.length + 1 := by
  cases style with
  | question => rfl
  | numbered => rfl

end Binding

namespace SqlText

/-- What has been bound after a text. -/
def bindAll (style : MarkerStyle) (binding : Binding) : SqlText → Binding
  | [] => binding
  | .text _ :: rest => bindAll style binding rest
  | .slot key slot :: rest => bindAll style (binding.bind style key slot).2 rest

/-- A text with markers, after what has been bound so far. -/
def written (style : MarkerStyle) (binding : Binding) (text : SqlText) : String :=
  (layoutAfter style binding text).1

theorem layoutAfter_slots (style : MarkerStyle) (binding : Binding) (text : SqlText) :
    (layoutAfter style binding text).2 = (bindAll style binding text).slots := by
  induction text generalizing binding with
  | nil => rfl
  | cons fragment rest induction =>
      cases fragment with
      | text text => exact induction binding
      | slot key slot => exact induction _

@[simp] theorem written_nil (style : MarkerStyle) (binding : Binding) :
    written style binding [] = "" :=
  rfl

@[simp] theorem written_text (style : MarkerStyle) (binding : Binding)
    (text : String) (rest : SqlText) :
    written style binding (.text text :: rest) = text ++ written style binding rest :=
  rfl

theorem written_single (style : MarkerStyle) (binding : Binding) (text : String) :
    written style binding [.text text] = text :=
  String.append_empty

@[simp] theorem written_slot (style : MarkerStyle) (binding : Binding)
    (key : Option String) (slot : BindSlot) (rest : SqlText) :
    written style binding (.slot key slot :: rest) =
      style.marker (binding.numberFor style key) ++
        written style (binding.bind style key slot).2 rest := by
  rw [← Binding.bind_marker style binding key slot]
  rfl

theorem written_append (style : MarkerStyle) (binding : Binding) (left right : SqlText) :
    written style binding (left ++ right) =
      written style binding left ++ written style (bindAll style binding left) right := by
  induction left generalizing binding with
  | nil => simp [bindAll]
  | cons fragment rest induction =>
      cases fragment with
      | text text => simp [bindAll, induction, String.append_assoc]
      | slot key slot => simp [bindAll, induction, String.append_assoc]

theorem bindAll_append (style : MarkerStyle) (binding : Binding) (left right : SqlText) :
    bindAll style binding (left ++ right) =
      bindAll style (bindAll style binding left) right := by
  induction left generalizing binding with
  | nil => rfl
  | cons fragment rest induction =>
      cases fragment with
      | text text => simpa [bindAll] using induction binding
      | slot key slot => simpa [bindAll] using induction _

/-- Joined parts that bind one slot each, of no key, bind them from left to right. -/
theorem join_parts {ι : Type} {style : MarkerStyle} (part : ι → SqlText)
    (text : ι → Nat → String) (slot : ι → BindSlot)
    (single : ∀ item binding,
      written style binding (part item) = text item (binding.slots.length + 1) ∧
        bindAll style binding (part item) =
          { binding with slots := binding.slots ++ [slot item] })
    (separator : String) (binding : Binding) (items : List ι) :
    written style binding (join separator (items.map part)) =
        separator.intercalate ((items.zipIdx (binding.slots.length + 1)).map
          fun (item, number) => text item number) ∧
      bindAll style binding (join separator (items.map part)) =
        { binding with slots := binding.slots ++ items.map slot } := by
  induction items generalizing binding with
  | nil => simp [join, bindAll]
  | cons item rest induction =>
      obtain ⟨itemWritten, itemBound⟩ := single item binding
      cases rest with
      | nil => simp [join, itemWritten, itemBound]
      | cons next others =>
          obtain ⟨written, bound⟩ :=
            induction { binding with slots := binding.slots ++ [slot item] }
          simp only [List.map_cons, List.zipIdx_cons, List.length_append,
            List.length_singleton] at written bound
          simp [join, written_append, bindAll_append, bindAll, itemWritten, itemBound, written,
            bound, List.zipIdx_cons, String.append_assoc]

end SqlText

end RowPlan
