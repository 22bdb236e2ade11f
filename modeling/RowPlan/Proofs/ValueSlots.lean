import RowPlan.Proofs.DerivedCondition
import RowPlan.Proofs.Numbering
import RowPlan.Proofs.StatementText

/-!
# Slots for values

The slots of a condition and of a given text are for the value parameters: each slot is for
one of them, and each of them has a slot. Numbered markers may share a slot between the places
of one name, and nothing about the paths is lost by that.
-/

namespace RowPlan

namespace SqlText

variable {text : SqlText}

theorem mem_slots_of_bindAll (binding : Binding) {slot : BindSlot}
    (member : slot ∈ (bindAll .numbered binding text).slots) :
    slot ∈ binding.slots ∨ slot ∈ text.slots := by
  induction text generalizing binding with
  | nil => exact .inl member
  | cons fragment rest induction =>
      cases fragment with
      | text part => exact induction binding member
      | slot key first =>
          rw [slots_slot, List.mem_cons]
          rcases induction _ member with bound | later
          · rcases binding.bind_numbered key first with
              ⟨_, _, _, _, _, same⟩ | ⟨_, _, next⟩
            · exact .inl (same ▸ bound)
            · rw [next] at bound
              rcases List.mem_append.mp bound with old | new
              · exact .inl old
              · exact .inr (.inl (List.mem_singleton.mp new))
          · exact .inr (.inr later)

/-- Where the slots of a name have the name as their path, the slots of a text that are bound
have the paths of those in the text. -/
theorem mem_paths_bindAll (named : ∀ name slot, (name, slot) ∈ text.keyed → slot.path = [name])
    (style : MarkerStyle) (path : List String) :
    path ∈ (bindAll style {} text).slots.map BindSlot.path ↔
      path ∈ text.slots.map BindSlot.path := by
  cases style with
  | question =>
      rw [bindAll_question]
      rfl
  | numbered =>
      constructor
      · intro member
        obtain ⟨slot, bound, rfl⟩ := List.mem_map.mp member
        rcases mem_slots_of_bindAll {} bound with before | inText
        · cases before
        · exact List.mem_map_of_mem inText
      · intro member
        -- A slot shared by places of one name has the path of each of them.
        have agree : KeysAgree BindSlot.path ([] ++ text.keyed) := by
          intro name slot other inText otherInText
          exact (named name slot inText).trans (named name other otherInText).symm
        have byNumber := slotsByNumber_of_keysAgree BindSlot.path Binding.follows_nil text agree
        obtain ⟨slot, inText, rfl⟩ := List.mem_map.mp member
        have found : some slot.path ∈ text.slots.map fun slot => some slot.path :=
          List.mem_map_of_mem inText
        rw [← byNumber, slotsByNumber, List.map_map] at found
        obtain ⟨number, _, atNumber⟩ := List.mem_map.mp found
        obtain ⟨bound, boundFound, samePath⟩ := Option.map_eq_some_iff.mp atNumber
        exact List.mem_map.mpr ⟨bound, List.mem_of_getElem? boundFound, samePath⟩

/-- Separators add nothing to what is taken from the slots of joined texts. -/
theorem filterMap_join {A : Type} {view : Fragment → Option A}
    (blind : ∀ part, view (.text part) = none) (separator : String) (texts : List SqlText) :
    (join separator texts).filterMap view = (texts.map (List.filterMap view)).flatten := by
  induction texts with
  | nil => rfl
  | cons text rest induction =>
      cases rest with
      | nil => simp [join]
      | cons next others => simp [join, blind, induction]

theorem slots_join (separator : String) (texts : List SqlText) :
    slots (join separator texts) = (texts.map slots).flatten :=
  filterMap_join (fun _ => rfl) separator texts

theorem keyed_join (separator : String) (texts : List SqlText) :
    keyed (join separator texts) = (texts.map keyed).flatten :=
  filterMap_join (fun _ => rfl) separator texts

end SqlText

/-! ## Comparisons -/

theorem Comparison.slots_text (options : Options) (comparison : Comparison) :
    (comparison.text options).slots = [comparison.slot] := by
  obtain ⟨column, comparator, slot⟩ := comparison
  cases comparator with
  | equal => rfl
  | same => rfl
  | member => rfl

theorem Condition.slots_all (options : Options) (comparisons : List Comparison) :
    ((all comparisons).text options).slots = comparisons.map Comparison.slot := by
  have each : SqlText.slots ∘ Comparison.text options = fun comparison => [comparison.slot] :=
    funext fun comparison => comparison.slots_text options
  rw [text, SqlText.slots_join, List.map_map, each, ← List.flatMap_def, List.map_eq_flatMap]

theorem Comparison.keyed_text (options : Options) (comparison : Comparison) :
    (comparison.text options).keyed = [] := by
  obtain ⟨column, comparator, slot⟩ := comparison
  cases comparator with
  | equal => rfl
  | same => rfl
  | member => rfl

theorem Condition.keyed_all (options : Options) (comparisons : List Comparison) :
    ((all comparisons).text options).keyed = [] := by
  rw [text, SqlText.keyed_join, List.map_map, List.flatten_eq_nil_iff, List.forall_mem_map]
  exact fun comparison _ => comparison.keyed_text options

/-! ## Values -/

/-- The slots of a text are for the value parameters of a function, each of which has one, and
the slots of a name are for the parameter of that name. -/
structure SqlText.BindsValues (function : FunctionDecl) (text : SqlText) : Prop where
  paths : ∀ path, path ∈ text.slots.map BindSlot.path ↔
    path ∈ function.values.map fun parameter => [parameter.name]
  named : ∀ name slot, (name, slot) ∈ text.keyed → slot.path = [name]

namespace SqlText.BindsValues

variable {function : FunctionDecl} {text : SqlText}

theorem part (binds : BindsValues function text) (part : String) :
    BindsValues function (.text part :: text) :=
  ⟨binds.paths, binds.named⟩

theorem bindAll (binds : BindsValues function text) (style : MarkerStyle)
    (path : List String) :
    path ∈ (SqlText.bindAll style {} text).slots.map BindSlot.path ↔
      path ∈ function.values.map fun parameter => [parameter.name] :=
  (mem_paths_bindAll binds.named style path).trans (binds.paths path)

end SqlText.BindsValues

namespace Scope

variable {scope : Scope} {function : FunctionDecl}

theorem mem_of_checkUsed {used : List String} (checked : function.checkUsed used = .ok ())
    {parameter : ParameterDecl} (member : parameter ∈ function.values) :
    parameter.name ∈ used := by
  unfold FunctionDecl.checkUsed at checked
  split at checked
  case h_1 none =>
    have kept := List.filter_eq_nil_iff.mp none parameter member
    simpa using kept
  case h_2 => cases checked

/-- The slots of a bound text are those of its placeholders, in their order. -/
theorem paths_of_bindPlaceholders {pieces : List Segment} {bound : SqlText}
    (success : scope.bindPlaceholders function pieces = .ok bound) :
    bound.slots.map BindSlot.path = (placeholderNames pieces).map fun name => [name] := by
  induction pieces generalizing bound with
  | nil =>
      cases success
      rfl
  | cons piece rest induction =>
      cases piece with
      | text part =>
          obtain ⟨others, othersSuccess, rfl⟩ := bindPlaceholders_text success
          have paths := induction othersSuccess
          exact paths
      | value name isList =>
          obtain ⟨slot, others, found, othersSuccess, rfl⟩ := bindPlaceholders_value success
          have path := path_of_placeholderSlot found
          have paths := induction othersSuccess
          cases isList with
          | true => simpa [placeholderNames, path] using paths
          | false => simpa [placeholderNames, path] using paths

/-- A placeholder that is bound has the name of a value parameter. -/
theorem values_of_bindPlaceholders {pieces : List Segment} {bound : SqlText}
    (success : scope.bindPlaceholders function pieces = .ok bound) :
    ∀ name, name ∈ placeholderNames pieces →
      ∃ parameter, parameter ∈ function.values ∧ parameter.name = name := by
  induction pieces generalizing bound with
  | nil => simp [placeholderNames]
  | cons piece rest induction =>
      cases piece with
      | text part =>
          obtain ⟨_, othersSuccess, _⟩ := bindPlaceholders_text success
          have later := induction othersSuccess
          exact later
      | value name isList =>
          obtain ⟨slot, _, found, othersSuccess, _⟩ := bindPlaceholders_value success
          obtain ⟨parameter, named, _⟩ := Option.map_eq_some_iff.mp found
          have sameName : parameter.name = name := by
            simpa using List.find?_some named
          refine List.forall_mem_cons.mpr ⟨?_, induction othersSuccess⟩
          exact ⟨parameter, List.mem_of_find?_eq_some named, sameName⟩

theorem bindsValues_of_bindText {text : String} {bound : SqlText}
    (success : scope.bindText function text = .ok bound) :
    bound.BindsValues function where
  paths path := by
    have pieces := bindText_eq_ok success
    simp only [bindText, bind_eq_ok_iff] at success
    obtain ⟨_, _, _, checked, _⟩ := success
    rw [paths_of_bindPlaceholders pieces, List.mem_map, List.mem_map]
    constructor
    · rintro ⟨name, placeholder, rfl⟩
      obtain ⟨parameter, member, rfl⟩ := values_of_bindPlaceholders pieces name placeholder
      exact ⟨parameter, member, rfl⟩
    · rintro ⟨parameter, member, rfl⟩
      exact ⟨parameter.name, mem_of_checkUsed checked member, rfl⟩
  named _ _ member := by
    have keysOf : scope.KeysOf function (RowPlan.placeholders (segments text)) bound.keyed :=
      keyed_of_bindPlaceholders (bindText_eq_ok success)
    exact keysOf.path_of_key member

theorem paths_of_compared {values : List ParameterDecl} {comparisons : List Comparison}
    (compared : List.Forall₂ (fun parameter comparison =>
      scope.parameterComparison function parameter = .ok comparison) values comparisons) :
    (comparisons.map Comparison.slot).map BindSlot.path =
      values.map fun parameter => [parameter.name] := by
  induction compared with
  | nil => rfl
  | cons success _ induction =>
      obtain ⟨column, _, rfl⟩ := parameterComparison_eq_ok_iff.mp success
      exact List.cons_eq_cons.mpr ⟨path_comparison, induction⟩

theorem bindsValues_of_derivedCondition {condition : Option Condition}
    (success : scope.derivedCondition function = .ok condition) :
    (Condition.clause scope.options condition).BindsValues function := by
  simp only [derivedCondition, bind_eq_ok_iff] at success
  obtain ⟨comparisons, found, success⟩ := success
  obtain ⟨slots, unkeyed⟩ : (Condition.clause scope.options condition).slots =
      comparisons.map Comparison.slot ∧
      (Condition.clause scope.options condition).keyed = [] := by
    cases comparisons with
    | nil =>
        cases success
        exact ⟨rfl, rfl⟩
    | cons first rest =>
        cases success
        exact ⟨Condition.slots_all scope.options _, Condition.keyed_all scope.options _⟩
  have paths := paths_of_compared (forall₂_of_mapM found)
  refine ⟨fun path => ?_, fun name slot member => ?_⟩
  · rw [slots, paths]
  · rw [unkeyed] at member
    cases member

theorem bindsValues_of_condition {condition : Option Condition}
    (success : scope.condition function = .ok condition) :
    (Condition.clause scope.options condition).BindsValues function := by
  rcases Scope.condition_cases success with ⟨text, bound, _, found, rfl⟩ | ⟨_, derived⟩
  · exact (bindsValues_of_bindText found).part _
  · exact bindsValues_of_derivedCondition derived

theorem values_of_checkValuesOnly (checked : function.checkValuesOnly = .ok ()) :
    function.values = function.parameters := by
  unfold FunctionDecl.checkValuesOnly at checked
  split at checked
  case h_1 none =>
    apply List.filter_eq_self.mpr
    intro parameter member
    have role := List.filter_eq_nil_iff.mp none parameter member
    simpa using role
  case h_2 => cases checked

theorem checkValuesOnly_eq_ok_iff :
    function.checkValuesOnly = .ok () ↔
      ∀ parameter, parameter ∈ function.parameters → parameter.role = .value := by
  constructor
  · intro checked parameter member
    rw [← values_of_checkValuesOnly checked] at member
    simpa using (List.mem_filter.mp member).2
  · intro roles
    have none : (function.parameters.filter fun parameter => parameter.role != .value) = [] := by
      simpa using roles
    rw [FunctionDecl.checkValuesOnly, none]

theorem QueryHead.bindsValues {head : SqlText} {plan : Option ReadPlan}
    (asks : scope.QueryHead function head plan) : head.BindsValues function := by
  cases asks with
  | selection _ _ conditionSuccess => exact (bindsValues_of_condition conditionSuccess).part _
  | given _ _ _ boundSuccess _ => exact bindsValues_of_bindText boundSuccess

end Scope

end RowPlan
