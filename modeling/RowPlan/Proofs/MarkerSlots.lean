import RowPlan.Proofs.Numbering
import RowPlan.Proofs.Saving
import RowPlan.Proofs.StatementText

/-!
# Markers and their slots

The markers in the text of a compiled method correspond to its bind slots: each
question mark to the slot of its place, each number to the slot that it counts. The
fragments of the statement say what a marker was written for.
-/

namespace RowPlan

/-- The markers of a text written with question marks: there is one for each slot, and
the k-th stands where the text has the k-th slot. -/
structure QuestionMarked (text : SqlText) (sql : String) (slots : List BindSlot) : Prop where
  count : sql.toList.count '?' = slots.length
  stands : ∀ before after, sql.toList = before ++ '?' :: after →
    ∃ left key slot right, text = left ++ .slot key slot :: right ∧
      before = (SqlText.written .question {} left).toList ∧
      slots[before.count '?']? = some slot

/-- The markers of a text written with numbers: exactly the numbers of the slots occur,
first in their order, no digit follows a marker, and the number leads to the slot of its
place, or for a named slot to one of that name. -/
structure NumberMarked (text : SqlText) (sql : String) (slots : List BindSlot) : Prop where
  numbers : ∀ number, number ∈ markerNumbers sql.toList ↔
    1 ≤ number ∧ number ≤ slots.length
  ordered : ∀ number, 1 ≤ number → number + 1 ≤ slots.length →
    (markerNumbers sql.toList).idxOf number < (markerNumbers sql.toList).idxOf (number + 1)
  stands : ∀ before after, sql.toList = before ++ '$' :: after →
    ∃ left key slot right number rest bound, text = left ++ .slot key slot :: right ∧
      before = (SqlText.written .numbered {} left).toList ∧
      after = (toString number).toList ++ rest ∧ StopsDigits rest ∧
      1 ≤ number ∧ slots[number - 1]? = some bound ∧
      (key = none → bound = slot) ∧ ∀ name, key = some name → bound.path = [name]

namespace SqlText

theorem questionMarked {text : SqlText} (plain : text.Plain '?') :
    QuestionMarked text (written .question {} text)
      (bindAll .question {} text).slots where
  count := by
    rw [count_written plain, bindAll_question]
    rfl
  stands before after found := by
    obtain ⟨left, key, slot, right, rfl, rfl, _⟩ :=
      slot_of_sign .question plain found
    have leftPlain : left.Plain '?' := (plain_append_iff.mp plain).1
    refine ⟨left, key, slot, right, rfl, rfl, ?_⟩
    rw [count_written leftPlain, bindAll_question]
    simp [slots]

theorem numberMarked {text : SqlText} (plain : text.Plain '$') (separated : text.Separated)
    (named : ∀ name slot, (name, slot) ∈ text.keyed → slot.path = [name]) :
    NumberMarked text (written .numbered {} text) (bindAll .numbered {} text).slots where
  numbers number := by
    rw [markerNumbers_written plain separated]
    constructor
    · exact mem_numbers_bounds Binding.follows_nil text number
    · rintro ⟨positive, bound⟩
      exact mem_numbers_of_added Binding.follows_nil text positive bound
  ordered number positive bound := by
    rw [markerNumbers_written plain separated]
    exact idxOf_numbers Binding.follows_nil text positive bound
  stands before after found := by
    obtain ⟨left, key, slot, right, rfl, rfl, rfl⟩ :=
      slot_of_sign .numbered plain found
    have follows := follows_bindAll Binding.follows_nil left
    obtain ⟨positive, bound, atNumber, keyless, keyed⟩ := follows.slot_of_number key slot
    have kept := bindAll_keeps_slots
      ((bindAll .numbered {} left).bind .numbered key slot).2 right
    refine ⟨left, key, slot, right, _, _, bound, rfl, rfl, rfl,
      stopsDigits_written (separated.of_append).1, positive, ?_, keyless, ?_⟩
    · rw [bindAll_append]
      exact getElem?_of_begins kept atNumber
    · intro name isKey
      apply named name bound
      rw [keyed_append, keyed_slot, ← List.append_assoc]
      exact List.mem_append_left _ (keyed name isKey).1

end SqlText

/-- In the text of every compiled method the markers correspond to the slots, and the
named slots are those of the placeholders in the given text. -/
theorem compile_marks_slots {scope : Scope} {function : FunctionDecl} {method : Method}
    (compiled : scope.compile function = .ok method) :
    ∃ draft, scope.draft function = .ok draft ∧
      let text := draft.statement.text scope.options scope.table
      (scope.options.markers = .question → scope.Avoids function '?' →
        scope.KeysOf function (scope.placeholders function) text.keyed ∧
          QuestionMarked text method.sql method.slots) ∧
      (scope.options.markers = .numbered → scope.Avoids function '$' →
        scope.KeysOf function (scope.placeholders function) text.keyed ∧
          NumberMarked text method.sql method.slots) := by
  obtain ⟨draft, success, rfl⟩ := Scope.compile_eq_ok_iff.mp compiled
  have drafted := Scope.drafted_of_draft success
  refine ⟨draft, success, ?_, ?_⟩
  · intro question avoids
    obtain ⟨keys, tidy, keysOf⟩ := drafted.tidy .question avoids
    rw [Draft.finish_sql, Draft.finish_slots, question, tidy.keyed]
    exact ⟨keysOf, SqlText.questionMarked tidy.plain⟩
  · intro numbered avoids
    obtain ⟨keys, tidy, keysOf⟩ := drafted.tidy .numbered avoids
    rw [Draft.finish_sql, Draft.finish_slots, numbered, tidy.keyed]
    refine ⟨keysOf, SqlText.numberMarked tidy.plain tidy.separated ?_⟩
    rw [tidy.keyed]
    exact fun name slot member => keysOf.path_of_key member

namespace Car

/-- The scope of the car with numbered markers. -/
def numbered : Scope :=
  { scope with options := { markers := .numbered } }

/-- Finds the cars that are at least as strong. -/
def findStrong : FunctionDecl where
  name := "find_strong"
  parameters := [⟨"p", .named "i32", []⟩]
  returnType := .named "Vec" [{ target := entity }]
  tags := [⟨TagName.condition, [("value", "power > :p OR power = :p")]⟩]

end Car

/-- Both markers lead to the one slot of the placeholder. -/
theorem compile_marks_slots_car :
    ∃ method draft, Car.numbered.compile Car.findStrong = .ok method ∧
      Car.numbered.draft Car.findStrong = .ok draft ∧
      let text := draft.statement.text Car.numbered.options Car.numbered.table
      Car.numbered.KeysOf Car.findStrong [("p", false), ("p", false)] text.keyed ∧
        NumberMarked text method.sql method.slots := by
  obtain ⟨method, compiled⟩ : ∃ method, Car.numbered.compile Car.findStrong = .ok method :=
    ⟨_, rfl⟩
  obtain ⟨draft, drafted, _, marked⟩ := compile_marks_slots compiled
  have avoids : Car.numbered.Avoids Car.findStrong '$' := by decide
  have roles : Car.numbered.placeholders Car.findStrong = [("p", false), ("p", false)] := rfl
  obtain ⟨keysOf, numberMarked⟩ := marked rfl avoids
  rw [roles] at keysOf
  exact ⟨method, draft, compiled, drafted, keysOf, numberMarked⟩

end RowPlan
