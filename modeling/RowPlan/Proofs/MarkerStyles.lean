import RowPlan.Proofs.MarkerSlots

/-!
# The two marker styles

A function is drafted without regard to markers, so both styles write one text. With
numbered markers a name that occurs again takes the slot of its first occurrence, which
is the slot that it would get itself unless one occurrence is a value and the other a
list.
-/

namespace RowPlan

/-- The same scope with markers of a style. -/
def Scope.withMarkers (scope : Scope) (style : MarkerStyle) : Scope :=
  { scope with options := { scope.options with markers := style } }

namespace Scope

variable (scope : Scope) (style : MarkerStyle) (function : FunctionDecl)

theorem bindPlaceholders_withMarkers (pieces : List Segment) :
    (scope.withMarkers style).bindPlaceholders function pieces =
      scope.bindPlaceholders function pieces := by
  induction pieces with
  | nil => rfl
  | cons piece rest induction =>
      have slots : (scope.withMarkers style).placeholderSlot function =
          scope.placeholderSlot function :=
        rfl
      cases piece with
      | text part => rw [bindPlaceholders, bindPlaceholders, induction]
      | value name isList => rw [bindPlaceholders, bindPlaceholders, slots, induction]

theorem bindText_withMarkers (text : String) :
    (scope.withMarkers style).bindText function text = scope.bindText function text := by
  rw [bindText, bindText, bindPlaceholders_withMarkers]

theorem condition_withMarkers :
    (scope.withMarkers style).condition function = scope.condition function := by
  have derived : (scope.withMarkers style).derivedCondition function =
      scope.derivedCondition function :=
    rfl
  unfold condition
  split
  · rw [bindText_withMarkers]
  · exact derived

theorem deleteRows_withMarkers (archetype : Archetype) :
    (scope.withMarkers style).deleteRows function archetype =
      scope.deleteRows function archetype := by
  rw [deleteRows, deleteRows, condition_withMarkers]

theorem delete_withMarkers (archetype : Archetype) :
    (scope.withMarkers style).delete function archetype =
      scope.delete function archetype := by
  unfold delete
  simp only [deleteRows_withMarkers]
  rfl

theorem find_withMarkers :
    (scope.withMarkers style).find function = scope.find function := by
  unfold find
  simp only [condition_withMarkers]
  rfl

theorem findValue_withMarkers (archetype : Archetype)
    (statement : Option Condition → Statement) :
    (scope.withMarkers style).findValue function archetype statement =
      scope.findValue function archetype statement := by
  unfold findValue
  simp only [condition_withMarkers]
  rfl

theorem custom_withMarkers :
    (scope.withMarkers style).custom function = scope.custom function := by
  unfold custom
  simp only [bindText_withMarkers]
  rfl

/-- A draft does not depend on how its slots will be marked. -/
theorem draft_withMarkers :
    (scope.withMarkers style).draft function = scope.draft function := by
  have kind : (scope.withMarkers style).archetype function = scope.archetype function := rfl
  unfold draft
  rw [kind]
  cases scope.archetype function with
  | save => rfl
  | deleteByEntity => exact scope.delete_withMarkers style function .deleteByEntity
  | deleteByFields => exact scope.delete_withMarkers style function .deleteByFields
  | deleteWhere => exact scope.delete_withMarkers style function .deleteWhere
  | finder => exact scope.find_withMarkers style function
  | count => exact scope.findValue_withMarkers style function .count .count
  | existence => exact scope.findValue_withMarkers style function .existence .existence
  | custom => exact scope.custom_withMarkers style function

theorem compile_withMarkers :
    (scope.withMarkers style).compile function =
      (scope.draft function).map
        (Draft.finish { scope.options with markers := style } scope.table) := by
  rw [compile, draft_withMarkers]
  rfl

/-- The given text of a function has a name as a single value and as a list. -/
def InBothRoles (scope : Scope) (function : FunctionDecl) (name : String) : Prop :=
  (name, false) ∈ scope.placeholders function ∧ (name, true) ∈ scope.placeholders function

end Scope

/-! ## Slots of one name -/

section

variable {scope : Scope} {function : FunctionDecl} {name : String} {isList : Bool}
  {slot other : BindSlot}

theorem Scope.isArray_of_placeholderSlot
    (found : scope.placeholderSlot function name isList = some slot) :
    slot.isArray = isList := by
  obtain ⟨parameter, _, rfl⟩ := Option.map_eq_some_iff.mp found
  rfl

/-- In both roles a name stands for the same value. -/
theorem Scope.value_of_placeholderSlot {otherIsList : Bool}
    (found : scope.placeholderSlot function name isList = some slot)
    (otherFound : scope.placeholderSlot function name otherIsList = some other) :
    (slot.path, slot.type) = (other.path, other.type) := by
  obtain ⟨parameter, named, rfl⟩ := Option.map_eq_some_iff.mp found
  obtain ⟨otherParameter, otherNamed, rfl⟩ := Option.map_eq_some_iff.mp otherFound
  obtain rfl := Option.some.inj (named.symm.trans otherNamed)
  rfl

variable {names : List (String × Bool)} {keys : List (String × BindSlot)}

theorem keysAgree_value (keysOf : scope.KeysOf function names keys) :
    SqlText.KeysAgree (fun slot => (slot.path, slot.type)) keys := by
  intro name slot other member otherMember
  obtain ⟨isList, _, found⟩ := keysOf.role_of_key member
  obtain ⟨otherIsList, _, otherFound⟩ := keysOf.role_of_key otherMember
  exact Scope.value_of_placeholderSlot found otherFound

/-- A name has one slot unless it has both roles. -/
theorem keysAgree_iff (keysOf : scope.KeysOf function names keys) :
    SqlText.KeysAgree id keys ↔ ∀ name, ¬((name, false) ∈ names ∧ (name, true) ∈ names) := by
  constructor
  · rintro agree name ⟨single, list⟩
    obtain ⟨slot, found, member⟩ := keysOf.key_of_role single
    obtain ⟨other, otherFound, otherMember⟩ := keysOf.key_of_role list
    have same : slot = other := agree name slot other member otherMember
    have isSingle := Scope.isArray_of_placeholderSlot found
    have isList := Scope.isArray_of_placeholderSlot otherFound
    rw [same, isList] at isSingle
    cases isSingle
  · intro apart name slot other member otherMember
    obtain ⟨isList, role, found⟩ := keysOf.role_of_key member
    obtain ⟨otherIsList, otherRole, otherFound⟩ := keysOf.role_of_key otherMember
    have sameRole : isList = otherIsList := by
      cases isList with
      | false =>
          cases otherIsList with
          | false => rfl
          | true => exact (apart name ⟨role, otherRole⟩).elim
      | true =>
          cases otherIsList with
          | false => exact (apart name ⟨otherRole, role⟩).elim
          | true => rfl
    subst sameRole
    exact Option.some.inj (found.symm.trans otherFound)

end

/-! ## Agreement of the styles -/

/-- The slots that the numbered markers in the text of a method lead to, in the order of
the text. -/
def Method.slotsInText (method : Method) : List (Option BindSlot) :=
  SqlText.slotsByNumber (markerNumbers method.sql.toList) method.slots

/-- What two methods have in common that were compiled with different markers: the text
apart from the markers, and the values that are bound. -/
structure Remarked (question numbered : Method) : Prop where
  facts : numbered.toMethodFacts = question.toMethodFacts
  sql : withQuestionMarks false numbered.sql.toList = question.sql.toList
  values : numbered.slotsInText.map (Option.map fun slot => (slot.path, slot.type)) =
    question.slots.map fun slot => some (slot.path, slot.type)

section

variable {options : Options} {table : Table} {draft : Draft}
  {keys : List (String × BindSlot)}

theorem slotsInText_finish
    (tidy : SqlText.Tidy .numbered (draft.statement.text options table) keys) :
    (draft.finish { options with markers := .numbered } table).slotsInText =
      SqlText.slotsByNumber (SqlText.numbers {} (draft.statement.text options table))
        (SqlText.bindAll .numbered {} (draft.statement.text options table)).slots := by
  rw [← SqlText.markerNumbers_written tidy.plain tidy.separated, Method.slotsInText,
    Draft.finish_slots]
  rfl

theorem slots_finish_question :
    (draft.finish { options with markers := .question } table).slots =
      (draft.statement.text options table).slots := by
  rw [Draft.finish_slots]
  exact SqlText.bindAll_question {} _

theorem remarked_finish
    (tidy : SqlText.Tidy .numbered (draft.statement.text options table) keys)
    (agree : SqlText.KeysAgree (fun slot => (slot.path, slot.type)) keys) :
    Remarked (draft.finish { options with markers := .question } table)
      (draft.finish { options with markers := .numbered } table) where
  facts := rfl
  sql := SqlText.withQuestionMarks_written tidy.plain tidy.separated {}
  values := by
    rw [slotsInText_finish tidy, slots_finish_question]
    apply SqlText.slotsByNumber_of_keysAgree _ Binding.follows_nil
    rw [List.nil_append, tidy.keyed]
    exact agree

end

/-- The two styles give the same error, or methods that differ in their markers. The
numbers lead to the slots of the question marks exactly where no name is both a single
value and a list. -/
theorem compile_in_both_styles {scope : Scope} {function : FunctionDecl}
    (avoids : scope.Avoids function '$') :
    (∃ error, (scope.withMarkers .question).compile function = .error error ∧
      (scope.withMarkers .numbered).compile function = .error error) ∨
    ∃ question numbered, (scope.withMarkers .question).compile function = .ok question ∧
      (scope.withMarkers .numbered).compile function = .ok numbered ∧
      Remarked question numbered ∧
      (numbered.slotsInText = question.slots.map some ↔
        ∀ name, ¬scope.InBothRoles function name) := by
  rw [Scope.compile_withMarkers, Scope.compile_withMarkers]
  cases success : scope.draft function with
  | error error => exact .inl ⟨error, rfl, rfl⟩
  | ok draft =>
      obtain ⟨keys, tidy, keysOf⟩ := (Scope.drafted_of_draft success).tidy .numbered avoids
      refine .inr ⟨_, _, rfl, rfl, remarked_finish tidy (keysAgree_value keysOf), ?_⟩
      rw [slotsInText_finish tidy, slots_finish_question, SqlText.slotsByNumber_eq_iff,
        tidy.keyed]
      exact keysAgree_iff keysOf

namespace Car

/-- Deletes the listed cars, or all cars where no list is given. -/
def deleteListed : FunctionDecl where
  name := "delete_listed"
  parameters := [⟨"ids", .named "Vec" [.named "i64"], []⟩]
  returnType := .unit
  tags := [⟨TagName.condition, [("value", ":ids IS NULL OR id IN (:ids)")]⟩]

end Car

/-- A name that is twice a single value is bound once by number, and twice by question
mark. -/
theorem compile_in_both_styles_car :
    ∃ question numbered, (Car.scope.withMarkers .question).compile Car.findStrong = .ok question ∧
      (Car.scope.withMarkers .numbered).compile Car.findStrong = .ok numbered ∧
      Remarked question numbered ∧ numbered.slotsInText = question.slots.map some := by
  have avoids : Car.scope.Avoids Car.findStrong '$' := by decide
  obtain ⟨error, failed, _⟩ | ⟨question, numbered, questionCompiled, numberedCompiled,
    remarked, slots⟩ := compile_in_both_styles avoids
  · cases failed
  · refine ⟨question, numbered, questionCompiled, numberedCompiled, remarked, slots.mpr ?_⟩
    have roles : Car.scope.placeholders Car.findStrong = [("p", false), ("p", false)] := rfl
    rintro name ⟨_, list⟩
    rw [roles] at list
    simp at list

/-- The list has the number of the single value before it and is not bound as a list. -/
theorem deleteListed_binds_no_list :
    Car.scope.Avoids Car.deleteListed '?' ∧ Car.scope.Avoids Car.deleteListed '$' ∧
      ∃ question numbered,
        (Car.scope.withMarkers .question).compile Car.deleteListed = .ok question ∧
        (Car.scope.withMarkers .numbered).compile Car.deleteListed = .ok numbered ∧
        question.sql = "DELETE FROM \"car\" WHERE ? IS NULL OR id = ANY(?)" ∧
        numbered.sql = "DELETE FROM \"car\" WHERE $1 IS NULL OR id = ANY($1)" ∧
        question.slots.map BindSlot.isArray = [false, true] ∧
        numbered.slotsInText.map (Option.map BindSlot.isArray) = [some false, some false] ∧
        numbered.slotsInText ≠ question.slots.map some := by
  refine ⟨by decide, by decide, _, _, rfl, rfl, rfl, rfl, rfl, rfl, ?_⟩
  intro same
  have roles := congrArg (List.map (Option.map BindSlot.isArray)) same
  cases roles

end RowPlan
