import RowPlan.ColumnType
import RowPlan.Model
import RowPlan.Options

/-!
# SQL text with bind slots

SQL text is assembled with its bind slots in place, whatever marks them. Laying
the text out for a marker style writes the markers and lists the slots in the
order in which they are bound.
-/

namespace RowPlan

/-- A value to bind. -/
structure BindSlot where
  /-- Name of the parameter and of the fields below it; in a batch the fields only. -/
  path : List String
  /-- Type of the value. -/
  type : TypeUse
  /-- Type of the column that the value is compared with or stored in. -/
  columnType : Option ColumnType
  /-- The value is bound as an array. -/
  isArray : Bool := false

/-- The value passes through a JSON codec. -/
def BindSlot.isJson (slot : BindSlot) : Bool :=
  (slot.columnType.map ColumnType.isJson).getD false

/-- A piece of SQL text. A slot with a key may share its number with an earlier slot
of the same key. -/
inductive Fragment where
  | text (text : String)
  | slot (key : Option String) (slot : BindSlot)

/-- SQL text with bind slots in place. -/
abbrev SqlText := List Fragment

namespace SqlText

/-- Joins texts with a separator. -/
def join (separator : String) : List SqlText → SqlText
  | [] => []
  | [text] => text
  | text :: rest => text ++ .text separator :: join separator rest

/-- The slots in the order of the text. -/
def slots (text : SqlText) : List BindSlot :=
  text.filterMap fun
    | .slot _ slot => some slot
    | .text _ => none

end SqlText

/-- The slots bound so far, and the numbers of those with a key. -/
structure Binding where
  slots : List BindSlot := []
  numbers : List (String × Nat) := []

namespace Binding

/-- Binds a slot; gives its marker. -/
def bind (style : MarkerStyle) (binding : Binding) (key : Option String) (slot : BindSlot) :
    String × Binding :=
  match style with
  | .question => ("?", { binding with slots := binding.slots ++ [slot] })
  | .numbered =>
      match key.bind fun key => binding.numbers.lookup key with
      | some number => (s!"${number}", binding)
      | none =>
          let number := binding.slots.length + 1
          (s!"${number}", {
            slots := binding.slots ++ [slot]
            numbers := match key with
              | some key => (key, number) :: binding.numbers
              | none => binding.numbers })

end Binding

namespace SqlText

/-- Lays out a text after what has been bound so far. -/
def layoutAfter (style : MarkerStyle) (binding : Binding) : SqlText → String × List BindSlot
  | [] => ("", binding.slots)
  | .text text :: rest =>
      let (sql, slots) := layoutAfter style binding rest
      (text ++ sql, slots)
  | .slot key slot :: rest =>
      let (marker, next) := binding.bind style key slot
      let (sql, slots) := layoutAfter style next rest
      (marker ++ sql, slots)

/-- The SQL text with markers, and the slots in binding order. -/
def layout (style : MarkerStyle) (text : SqlText) : String × List BindSlot :=
  layoutAfter style {} text

end SqlText

end RowPlan
