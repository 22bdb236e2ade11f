import RowPlan.Proofs.SegmentPlaces
import RowPlan.Proofs.ValueSlots

/-!
# Slots bound as arrays

A comparison that is derived from a parameter is a membership test where the parameter is a
collection. For a placeholder alone in the parentheses of `IN` such a test is put in
whatever its parameter is. So no other value than a collection is bound as an array exactly
where those placeholders stand for collections.
-/

namespace RowPlan

/-! ## What is bound -/

namespace SqlText

variable {text left right : SqlText} {slot : BindSlot}

/-- The slots without a key, in the order of the text. -/
def unkeyed (text : SqlText) : List BindSlot :=
  text.filterMap fun
    | .slot none slot => some slot
    | _ => none

theorem unkeyed_slot_none (rest : SqlText) :
    unkeyed (.slot none slot :: rest) = slot :: unkeyed rest :=
  rfl

theorem unkeyed_slot_some (name : String) (rest : SqlText) :
    unkeyed (.slot (some name) slot :: rest) = unkeyed rest :=
  rfl

theorem unkeyed_append : unkeyed (left ++ right) = left.unkeyed ++ right.unkeyed :=
  List.filterMap_append

theorem mem_slots_iff :
    slot ∈ text.slots ↔ slot ∈ text.unkeyed ∨ ∃ name, (name, slot) ∈ text.keyed := by
  induction text with
  | nil => simp [unkeyed, keyed]
  | cons fragment rest induction =>
      cases fragment with
      | text part => exact induction
      | slot key first =>
          rw [slots_slot, List.mem_cons, induction, keyed_slot]
          cases key with
          | none =>
              rw [unkeyed_slot_none, List.mem_cons, or_assoc]
              rfl
          | some name =>
              simp only [unkeyed_slot_some, keyedSlot, List.cons_append, List.nil_append,
                List.mem_cons, Prod.mk.injEq, exists_or, exists_eq_left]
              exact or_left_comm

/-- The first slot of a name comes before those of other names. -/
theorem exists_first_iff {numbers : List (String × Nat)} {keys : List (String × BindSlot)}
    {name : String} {first : BindSlot} (unbound : numbers.lookup name = none) (number : Nat) :
    (∃ other, numbers.lookup other = none ∧ ((name, first) :: keys).lookup other = some slot) ↔
      slot = first ∨ ∃ other, ((name, number) :: numbers).lookup other = none ∧
        keys.lookup other = some slot := by
  constructor
  · rintro ⟨other, otherUnbound, found⟩
    by_cases same : other = name
    · subst same
      exact .inl (by simpa using found.symm)
    · have apart := beq_eq_false_iff_ne.mpr same
      simp only [List.lookup_cons, apart] at found
      exact .inr ⟨other, by simpa only [List.lookup_cons, apart] using otherUnbound, found⟩
  · rintro (rfl | ⟨other, otherUnbound, found⟩)
    · exact ⟨name, unbound, List.lookup_cons_self⟩
    · have different : other ≠ name := by
        rintro rfl
        simp at otherUnbound
      have apart := beq_eq_false_iff_ne.mpr different
      simp only [List.lookup_cons, apart] at otherUnbound
      exact ⟨other, otherUnbound, by simpa only [List.lookup_cons, apart] using found⟩

/-- With numbers a text binds the slots without a key, and the first slot of each name that
has not been bound before. -/
theorem mem_bindAll_numbered_iff (binding : Binding) :
    slot ∈ (bindAll .numbered binding text).slots ↔
      slot ∈ binding.slots ∨ slot ∈ text.unkeyed ∨
        ∃ name, binding.numbers.lookup name = none ∧ text.keyed.lookup name = some slot := by
  induction text generalizing binding with
  | nil => simp [bindAll, unkeyed, keyed]
  | cons fragment rest induction =>
      cases fragment with
      | text part => exact induction binding
      | slot key first =>
          rw [bindAll, induction, keyed_slot]
          rcases binding.bind_numbered key first with
            ⟨name, number, rfl, found, _, same⟩ | ⟨unknown, _, next⟩
          · -- A name that has a number gets no slot again, so the first one is not asked for.
            rw [same, unkeyed_slot_some]
            refine or_congr_right (or_congr_right (exists_congr fun other => ?_))
            refine and_congr_right fun unbound => ?_
            have apart : other ≠ name := by
              rintro rfl
              cases unbound.symm.trans found
            simp [keyedSlot, List.lookup_cons, beq_eq_false_iff_ne.mpr apart]
          · rw [next]
            cases key with
            | none => simp [unkeyed_slot_none, keyedSlot, or_assoc]
            | some name =>
                rw [unkeyed_slot_some, keyedSlot, List.singleton_append,
                  exists_first_iff (unknown name rfl) (binding.slots.length + 1)]
                simp only [List.mem_append, List.mem_singleton, or_assoc]
                rw [or_left_comm (a := slot = first)]

end SqlText

/-! ## Inserts -/

namespace Insert

variable (options : Options) (tableRef : String) (insert : Insert)

theorem storedValue_binds (value : Column × BindSlot) :
    (storedValue value).keyed = [] ∧ (storedValue value).slots = [value.2] := by
  obtain ⟨column, slot⟩ := value
  cases version : column.isVersion with
  | true => simp [storedValue, version, SqlText.keyed, SqlText.slots]
  | false => simp [storedValue, version, SqlText.keyed, SqlText.slots]

theorem keyed_text : (insert.text options tableRef).keyed = [] := by
  have values : SqlText.keyed (SqlText.join ", " (insert.values.map storedValue)) = [] := by
    rw [SqlText.keyed_join, List.map_map, List.flatten_eq_nil_iff, List.forall_mem_map]
    exact fun value _ => (storedValue_binds value).1
  unfold text
  rw [List.cons_append]
  cases insert.conflict with
  | none => simpa [SqlText.keyed] using values
  | some conflict => simpa [SqlText.keyed] using values

theorem slots_text : (insert.text options tableRef).slots = insert.values.map Prod.snd := by
  have values : SqlText.slots (SqlText.join ", " (insert.values.map storedValue)) =
      insert.values.map Prod.snd := by
    have each : SqlText.slots ∘ storedValue = fun value => [value.2] :=
      funext fun value => (storedValue_binds value).2
    rw [SqlText.slots_join, List.map_map, each, ← List.flatMap_def, List.map_eq_flatMap]
  unfold text
  cases insert.conflict with
  | none => simp [values]
  | some conflict => simp [values]

end Insert

/-- The placeholders that get a slot of their own: with question marks each of them, with
numbers the first of each name. -/
def MarkerStyle.BindsRole (style : MarkerStyle) (roles : List (String × Bool)) (name : String)
    (isList : Bool) : Prop :=
  match style with
  | .question => (name, isList) ∈ roles
  | .numbered => roles.lookup name = some isList

theorem MarkerStyle.BindsRole.mem {style : MarkerStyle} {roles : List (String × Bool)}
    {name : String} {isList : Bool} (binds : style.BindsRole roles name isList) :
    (name, isList) ∈ roles := by
  cases style with
  | question => exact binds
  | numbered =>
      obtain ⟨before, after, rfl, _⟩ := List.lookup_eq_some_iff.mp binds
      exact List.mem_append_right _ List.mem_cons_self

/-- A membership test of a text has the marker of a slot. -/
def SqlText.MarksMember (style : MarkerStyle) (text : SqlText) (slots : List BindSlot)
    (bound : BindSlot) : Prop :=
  ∃ left column key slot right,
    text = left ++ .text (column ++ "= ANY(") :: .slot key slot :: .text ")" :: right ∧
      slot.isArray = true ∧
      slots[(bindAll style {} left).numberFor style key - 1]? = some bound

namespace Scope

variable {scope : Scope} {function : FunctionDecl}

/-- The placeholders of a name stand for a collection. -/
def NamesCollection (scope : Scope) (function : FunctionDecl) (name : String) : Prop :=
  ∃ parameter, (function.values.find? fun parameter => parameter.name == name) = some parameter ∧
    scope.catalog.isCollection parameter.type = true

theorem namesCollection_iff {name : String} {isList : Bool} {slot : BindSlot}
    (found : scope.placeholderSlot function name isList = some slot) :
    scope.NamesCollection function name ↔ scope.catalog.isCollection slot.type = true := by
  obtain ⟨parameter, named, rfl⟩ := Option.map_eq_some_iff.mp found
  constructor
  · rintro ⟨other, otherNamed, collection⟩
    obtain rfl := Option.some.inj (named.symm.trans otherNamed)
    exact collection
  · exact fun collection => ⟨parameter, named, collection⟩

namespace KeysOf

variable {roles : List (String × Bool)} {keys : List (String × BindSlot)} {name : String}
  {slot : BindSlot}

theorem mem_iff (keysOf : scope.KeysOf function roles keys) :
    (name, slot) ∈ keys ↔
      ∃ isList, (name, isList) ∈ roles ∧
        scope.placeholderSlot function name isList = some slot := by
  constructor
  · exact keysOf.role_of_key
  · rintro ⟨isList, role, found⟩
    obtain ⟨other, otherFound, member⟩ := keysOf.key_of_role role
    rwa [Option.some.inj (found.symm.trans otherFound)]

theorem lookup_eq_some_iff (keysOf : scope.KeysOf function roles keys) :
    keys.lookup name = some slot ↔
      ∃ isList, roles.lookup name = some isList ∧
        scope.placeholderSlot function name isList = some slot := by
  induction roles generalizing keys with
  | nil =>
      obtain rfl := List.map_eq_nil_iff.mp keysOf
      simp
  | cons role roles induction =>
      obtain ⟨key, others, rfl, first, later⟩ := List.map_eq_cons_iff.mp keysOf
      obtain ⟨bound, found, rfl⟩ := Option.map_eq_some_iff.mp first.symm
      obtain ⟨other, isList⟩ := role
      by_cases same : name = other
      · subst same
        simp [found]
      · simp only [List.lookup_cons, beq_eq_false_iff_ne.mpr same]
        exact induction later

/-- The slot that a marker leads to has the type of the slot in its place. -/
theorem bound_at {text left right : SqlText} {key : Option String}
    (keysOf : scope.KeysOf function roles text.keyed) (style : MarkerStyle)
    (split : text = left ++ .slot key slot :: right) :
    ∃ bound, (SqlText.bindAll style {} text).slots[
        (SqlText.bindAll style {} left).numberFor style key - 1]? = some bound ∧
      bound.type = slot.type := by
  subst split
  cases style with
  | question =>
      refine ⟨slot, ?_, rfl⟩
      simp [Binding.numberFor, SqlText.bindAll_question]
  | numbered =>
      have follows := SqlText.follows_bindAll Binding.follows_nil left
      obtain ⟨_, bound, atNumber, keyless, named⟩ := follows.slot_of_number key slot
      have kept := SqlText.bindAll_keeps_slots
        ((SqlText.bindAll .numbered {} left).bind .numbered key slot).2 right
      refine ⟨bound, ?_, ?_⟩
      · rw [SqlText.bindAll_append]
        exact getElem?_of_begins kept atNumber
      · cases key with
        | none => rw [keyless rfl]
        | some name =>
            -- The number may be that of an earlier slot of the name, made for the same parameter.
            have member : (name, bound) ∈
                SqlText.keyed (left ++ .slot (some name) slot :: right) := by
              rw [SqlText.keyed_append, SqlText.keyed_slot, ← List.append_assoc]
              exact List.mem_append_left _ (named name rfl).1
            have own : (name, slot) ∈
                SqlText.keyed (left ++ .slot (some name) slot :: right) := by
              simp [SqlText.keyed_append, SqlText.keyed_slot, keyedSlot]
            obtain ⟨_, _, found⟩ := keysOf.role_of_key member
            obtain ⟨_, _, ownFound⟩ := keysOf.role_of_key own
            exact congrArg Prod.snd (value_of_placeholderSlot found ownFound)

end KeysOf

/-- A text with slots for placeholders, in which every other array is a collection. -/
structure BindsArrays (scope : Scope) (function : FunctionDecl) (roles : List (String × Bool))
    (text : SqlText) : Prop where
  keyed : scope.KeysOf function roles text.keyed
  unkeyed : ∀ slot, slot ∈ text.unkeyed → slot.isArray = true →
    scope.catalog.isCollection slot.type = true

namespace BindsArrays

variable {roles : List (String × Bool)} {text left right : SqlText}

theorem part (binds : scope.BindsArrays function roles text) (part : String) :
    scope.BindsArrays function roles (.text part :: text) :=
  ⟨binds.keyed, binds.unkeyed⟩

theorem append {others : List (String × Bool)} (binds : scope.BindsArrays function roles left)
    (otherBinds : scope.BindsArrays function others right) :
    scope.BindsArrays function (roles ++ others) (left ++ right) where
  keyed := by
    rw [KeysOf, SqlText.keyed_append, List.map_append, List.map_append, binds.keyed,
      otherBinds.keyed]
  unkeyed slot member := by
    rw [SqlText.unkeyed_append] at member
    rcases List.mem_append.mp member with inLeft | inRight
    · exact binds.unkeyed slot inLeft
    · exact otherBinds.unkeyed slot inRight

theorem of_slots (keyless : text.keyed = [])
    (collections : ∀ slot, slot ∈ text.slots → slot.isArray = true →
      scope.catalog.isCollection slot.type = true) : scope.BindsArrays function [] text where
  keyed := by
    rw [keyless]
    rfl
  unkeyed slot member := collections slot (SqlText.mem_slots_iff.mpr (.inl member))

theorem mem_bindAll_iff (binds : scope.BindsArrays function roles text) (style : MarkerStyle)
    (slot : BindSlot) :
    slot ∈ (SqlText.bindAll style {} text).slots ↔
      slot ∈ text.unkeyed ∨ ∃ name isList, style.BindsRole roles name isList ∧
        scope.placeholderSlot function name isList = some slot := by
  cases style with
  | question =>
      rw [SqlText.bindAll_question]
      simp only [List.nil_append, SqlText.mem_slots_iff, binds.keyed.mem_iff]
      rfl
  | numbered =>
      rw [SqlText.mem_bindAll_numbered_iff]
      simp only [binds.keyed.lookup_eq_some_iff]
      simp [MarkerStyle.BindsRole]

end BindsArrays

/-! ## Statements -/

/-- The values of an entity are no arrays. -/
theorem bindsArrays_insertion (parameter : ParameterDecl) (execution : Execution) :
    scope.BindsArrays function []
      ((scope.insertion function parameter execution).text scope.options
        (scope.table.ref scope.options)) := by
  refine .of_slots (Insert.keyed_text _ _ _) ?_
  intro slot member isArray
  rw [Insert.slots_text] at member
  obtain ⟨value, inValues, rfl⟩ := List.mem_map.mp member
  obtain ⟨column, _, rfl⟩ := List.mem_map.mp inValues
  cases isArray

theorem bindsArrays_entityGuard (parameter : ParameterDecl) (execution : Execution) :
    scope.BindsArrays function []
      ((scope.entityGuard execution parameter).text scope.options) := by
  refine .of_slots (Condition.keyed_all _ _) ?_
  intro slot member isArray
  rw [entityGuard, Condition.slots_all] at member
  obtain ⟨comparison, inGuard, rfl⟩ := List.mem_map.mp member
  obtain ⟨value, inValues, rfl⟩ := List.mem_map.mp inGuard
  obtain ⟨column, _, rfl⟩ := List.mem_map.mp inValues
  cases isArray

/-- A derived membership test is for a collection. -/
theorem collection_of_comparison {column : Column} {parameter : ParameterDecl}
    (isArray : (scope.comparison column parameter).slot.isArray = true) :
    scope.catalog.isCollection (scope.comparison column parameter).slot.type = true := by
  unfold comparison at isArray ⊢
  dsimp only at isArray ⊢
  split at isArray
  case isTrue tests =>
    rw [if_pos tests]
    exact (Bool.and_eq_true_iff.mp tests).1
  case isFalse =>
    split at isArray
    · cases isArray
    · cases isArray

theorem bindsArrays_derived {condition : Option Condition}
    (success : scope.derivedCondition function = .ok condition) :
    scope.BindsArrays function [] (Condition.clause scope.options condition) := by
  simp only [derivedCondition, bind_eq_ok_iff] at success
  obtain ⟨comparisons, found, success⟩ := success
  have collections : ∀ slot, slot ∈ comparisons.map Comparison.slot → slot.isArray = true →
      scope.catalog.isCollection slot.type = true := by
    intro slot member isArray
    obtain ⟨comparison, compared, rfl⟩ := List.mem_map.mp member
    obtain ⟨parameter, _, compares⟩ := exists_of_mem_mapM found comparison compared
    obtain ⟨column, _, rfl⟩ := parameterComparison_eq_ok_iff.mp compares
    exact collection_of_comparison isArray
  cases comparisons with
  | nil =>
      cases success
      exact .of_slots rfl nofun
  | cons first rest =>
      cases success
      refine .part (.of_slots (Condition.keyed_all _ _) ?_) _
      rw [Condition.slots_all]
      exact collections

theorem unkeyed_of_bindPlaceholders {pieces : List Segment} {bound : SqlText}
    (success : scope.bindPlaceholders function pieces = .ok bound) : bound.unkeyed = [] := by
  induction pieces generalizing bound with
  | nil =>
      cases success
      rfl
  | cons piece rest induction =>
      cases piece with
      | text part =>
          obtain ⟨others, othersSuccess, rfl⟩ := bindPlaceholders_text success
          have none := induction othersSuccess
          exact none
      | value name isList =>
          obtain ⟨slot, others, _, othersSuccess, rfl⟩ := bindPlaceholders_value success
          have none := induction othersSuccess
          cases isList with
          | true => exact none
          | false => exact none

theorem bindsArrays_bindText {text : String} {bound : SqlText}
    (success : scope.bindText function text = .ok bound) :
    scope.BindsArrays function (RowPlan.placeholders (segments text)) bound where
  keyed := keyed_of_bindPlaceholders (bindText_eq_ok success)
  unkeyed slot member := by
    rw [unkeyed_of_bindPlaceholders (bindText_eq_ok success)] at member
    cases member

theorem not_isArray_of_limit {shape : ReturnShape} {capped : Bool} {suffix : Suffix}
    (success : scope.suffix function shape capped = .ok suffix) {slot : BindSlot}
    (limit : suffix.limit = some (.bound slot)) : slot.isArray = false := by
  obtain ⟨_, _, literal, _, _, rfl⟩ := suffix_parts success
  unfold limitAfter at limit
  dsimp only at limit
  split at limit
  case h_1 => cases limit
  case h_2 =>
    cases limit
    rfl
  case h_3 =>
    split at limit
    · cases limit
    · split at limit
      · cases limit
      · cases limit

/-- Neither a limit nor a page is an array. -/
theorem bindsArrays_suffix {shape : ReturnShape} {capped : Bool} {suffix : Suffix}
    (success : scope.suffix function shape capped = .ok suffix) :
    scope.BindsArrays function [] suffix.text := by
  refine .of_slots suffix.keyed_text ?_
  intro slot member isArray
  rw [Suffix.text, SqlText.slots_append, SqlText.slots_append, List.mem_append,
    List.mem_append] at member
  have single : slot.isArray = false := by
    rcases member with (inOrder | inLimit) | inPage
    · unfold Suffix.orderClause at inOrder
      split at inOrder
      · cases inOrder
      · split at inOrder
        · cases inOrder
        · cases inOrder
    · unfold Suffix.limitClause at inLimit
      split at inLimit
      case h_2 bound limit =>
        obtain rfl := List.mem_singleton.mp inLimit
        exact not_isArray_of_limit success limit
      all_goals cases inLimit
    · unfold Suffix.pageClause at inPage
      split at inPage
      case h_1 pageable _ =>
        have slots : slot ∈ [Suffix.pageSlot pageable "limit", Suffix.pageSlot pageable "offset"] :=
          inPage
        rcases List.mem_pair.mp slots with rfl | rfl
        · rfl
        · rfl
      case h_2 => cases inPage
  cases single.symm.trans isArray

/-- A text without a given one, or around a given one that is bound. -/
inductive Arranges (scope : Scope) (function : FunctionDecl) : SqlText → Prop where
  | plain {text : SqlText} :
      scope.givenText? function = none → scope.BindsArrays function [] text →
      Arranges scope function text
  | given {given : String} {left bound right : SqlText} :
      scope.givenText? function = some given → scope.bindText function given = .ok bound →
      scope.BindsArrays function [] left → scope.BindsArrays function [] right →
      Arranges scope function (left ++ (bound ++ right))

theorem Arranges.bindsArrays {text : SqlText} (arranges : scope.Arranges function text) :
    scope.BindsArrays function (scope.placeholders function) text := by
  cases arranges with
  | plain none binds =>
      rw [placeholders, none]
      exact binds
  | given given success left right =>
      have whole := left.append ((bindsArrays_bindText success).append right)
      rw [List.nil_append, List.append_nil] at whole
      rw [placeholders, given]
      exact whole

theorem arranges_condition {condition : Option Condition} {closing : SqlText}
    (asks : scope.givenText? function = (function.tag? TagName.condition).bind Tag.value?)
    (success : scope.condition function = .ok condition) (opening : String)
    (ends : scope.BindsArrays function [] closing) :
    scope.Arranges function
      (.text opening :: (Condition.clause scope.options condition ++ closing)) := by
  have nothing : scope.BindsArrays function [] [] := .of_slots rfl nofun
  rcases condition_cases success with ⟨text, bound, given, found, rfl⟩ | ⟨absent, derived⟩
  · exact .given (asks.trans given) found ((nothing.part " WHERE ").part opening) ends
  · exact .plain (asks.trans absent) (((bindsArrays_derived derived).append ends).part opening)

theorem Drafted.arranges {draft : Draft} (drafted : scope.Drafted function draft) :
    scope.Arranges function (draft.statement.text scope.options scope.table) := by
  have nothing : scope.BindsArrays function [] [] := .of_slots rfl nofun
  cases drafted with
  | save kind => exact .plain (by simp [givenText?, kind]) (bindsArrays_insertion _ _)
  | deleteEntity kind =>
      exact .plain (by simp [givenText?, kind]) (((bindsArrays_entityGuard _ _).part _).part _)
  | @deleteRows archetype condition kind deletes _ success =>
      have asks : scope.givenText? function =
          (function.tag? TagName.condition).bind Tag.value? := by
        rcases deletes with rfl | rfl
        · simp [givenText?, kind]
        · simp [givenText?, kind]
      have whole := arranges_condition asks success
        ("DELETE FROM " ++ scope.table.ref scope.options) nothing
      rwa [List.append_nil] at whole
  | find kind rows suffixSuccess success =>
      exact arranges_condition (by simp [givenText?, kind]) success _
        (bindsArrays_suffix suffixSuccess)
  | value kind asks _ _ success =>
      rcases asks with ⟨rfl, rfl⟩ | ⟨rfl, rfl⟩
      · have whole := arranges_condition (by simp [givenText?, kind]) success
          ("SELECT count(*) FROM " ++ scope.table.ref scope.options) nothing
        rwa [List.append_nil] at whole
      · exact arranges_condition (by simp [givenText?, kind]) success _ (nothing.part ")")
  | @custom tag isStatement text suffix bound plan kind given content suffixSuccess
      boundSuccess _ =>
      have asks : scope.givenText? function = some text := by
        simp [givenText?, kind, given, content]
      have whole := Arranges.given asks boundSuccess nothing (bindsArrays_suffix suffixSuccess)
      exact whole

end Scope

/-! ## Compiled methods -/

theorem exists_of_mem_placeholders {pieces : List Segment} {name : String} {isList : Bool}
    (member : (name, isList) ∈ placeholders pieces) :
    ∃ left right, pieces = left ++ .value name isList :: right := by
  obtain ⟨piece, inPieces, role⟩ := List.mem_filterMap.mp member
  cases piece with
  | text part => cases role
  | value other otherIsList =>
      cases role
      exact List.append_of_mem inPieces

section

variable {scope : Scope} {function : FunctionDecl} {text : SqlText} {style : MarkerStyle}

theorem Scope.BindsArrays.arrays_iff {roles : List (String × Bool)}
    (binds : scope.BindsArrays function roles text) :
    (∀ slot, slot ∈ (SqlText.bindAll style {} text).slots → slot.isArray = true →
        scope.catalog.isCollection slot.type = true) ↔
      ∀ name, style.BindsRole roles name true → scope.NamesCollection function name := by
  constructor
  · intro collections name role
    obtain ⟨slot, found, _⟩ := binds.keyed.key_of_role role.mem
    rw [Scope.namesCollection_iff found]
    apply collections slot
    · exact (binds.mem_bindAll_iff style slot).mpr (.inr ⟨name, true, role, found⟩)
    · exact Scope.isArray_of_placeholderSlot found
  · intro named slot member isArray
    rcases (binds.mem_bindAll_iff style slot).mp member with unkeyed | ⟨name, isList, role, found⟩
    · exact binds.unkeyed slot unkeyed isArray
    · obtain rfl := (Scope.isArray_of_placeholderSlot found).symm.trans isArray
      exact (Scope.namesCollection_iff found).mp (named name role)

/-- A list among the placeholders is in the text as a membership test. -/
theorem Scope.Arranges.member_of_list (arranges : scope.Arranges function text) {name : String}
    (list : (name, true) ∈ scope.placeholders function) :
    ∃ left slot right, scope.placeholderSlot function name true = some slot ∧
      text = left ++ .text ("" ++ "= ANY(") :: .slot (some name) slot :: .text ")" :: right := by
  cases arranges with
  | plain none _ =>
      rw [Scope.placeholders, none] at list
      cases list
  | @given given before bound after isGiven success _ _ =>
      rw [Scope.placeholders, isGiven] at list
      obtain ⟨left, right, split⟩ := exists_of_mem_placeholders list
      have pieces := Scope.bindText_eq_ok success
      rw [split] at pieces
      obtain ⟨front, slot, rest, _, found, rfl⟩ := Scope.bindPlaceholders_append_value pieces
      exact ⟨before ++ front, slot, rest ++ after, found, by simp [valueText]⟩

theorem Scope.Arranges.members_iff (arranges : scope.Arranges function text) :
    (∀ bound, text.MarksMember style (SqlText.bindAll style {} text).slots bound →
        scope.catalog.isCollection bound.type = true) ↔
      ∀ name, (name, true) ∈ scope.placeholders function →
        scope.NamesCollection function name := by
  have binds := arranges.bindsArrays
  constructor
  · intro collections name list
    obtain ⟨left, slot, right, found, split⟩ := arranges.member_of_list list
    have isArray := Scope.isArray_of_placeholderSlot found
    obtain ⟨bound, atNumber, same⟩ := binds.keyed.bound_at style
      (split.trans (List.append_cons left _ _))
    rw [SqlText.bindAll_append] at atNumber
    rw [Scope.namesCollection_iff found, ← same]
    exact collections bound ⟨left, "", some name, slot, right, split, isArray, atNumber⟩
  · rintro named bound ⟨left, column, key, slot, right, split, isArray, atNumber⟩
    obtain ⟨other, otherAtNumber, same⟩ := binds.keyed.bound_at style
      (split.trans (List.append_cons left _ _))
    rw [SqlText.bindAll_append] at otherAtNumber
    obtain rfl := Option.some.inj (otherAtNumber.symm.trans atNumber)
    have inText : slot ∈ text.slots := by
      rw [split]
      simp
    rw [same]
    rcases SqlText.mem_slots_iff.mp inText with unkeyed | ⟨name, keyed⟩
    · exact binds.unkeyed slot unkeyed isArray
    · obtain ⟨isList, role, found⟩ := binds.keyed.role_of_key keyed
      obtain rfl := (Scope.isArray_of_placeholderSlot found).symm.trans isArray
      exact (Scope.namesCollection_iff found).mp (named name role)

end

/-- All arrays of a compiled method are collections exactly where the lists among the
placeholders that get a slot stand for collections. No membership test is bound to another
value exactly where all lists do. -/
theorem compile_arrays_iff {scope : Scope} {function : FunctionDecl} {method : Method}
    (compiled : scope.compile function = .ok method) :
    ((∀ slot, slot ∈ method.slots → slot.isArray = true →
        scope.catalog.isCollection slot.type = true) ↔
      ∀ name, scope.options.markers.BindsRole (scope.placeholders function) name true →
        scope.NamesCollection function name) ∧
    ∃ draft, scope.draft function = .ok draft ∧
      ((∀ bound, (draft.statement.text scope.options scope.table).MarksMember
          scope.options.markers method.slots bound →
          scope.catalog.isCollection bound.type = true) ↔
        ∀ name, (name, true) ∈ scope.placeholders function →
          scope.NamesCollection function name) := by
  obtain ⟨draft, success, rfl⟩ := Scope.compile_eq_ok_iff.mp compiled
  have arranges := (Scope.drafted_of_draft success).arranges
  rw [Draft.finish_slots]
  exact ⟨arranges.bindsArrays.arrays_iff, draft, success, arranges.members_iff⟩

namespace Car

/-- Finds the cars of one key. -/
def findOne : FunctionDecl where
  name := "find_one"
  parameters := [⟨"id", .named "i64", []⟩]
  returnType := .named "Vec" [{ target := entity }]
  tags := [⟨TagName.condition, [("value", "id IN (:id)")]⟩]

/-- Finds the listed cars. -/
def findListed : FunctionDecl where
  name := "find_listed"
  parameters := [⟨"ids", .named "Vec" [.named "i64"], []⟩]
  returnType := .named "Vec" [{ target := entity }]
  tags := [⟨TagName.condition, [("value", "id IN (:ids)")]⟩]

end Car

/-- A list of keys is bound as an array. -/
theorem compile_arrays_iff_car :
    ∃ method draft, Car.scope.compile Car.findListed = .ok method ∧
      Car.scope.draft Car.findListed = .ok draft ∧
      method.sql = "SELECT \"id\", \"power\", \"revision\" FROM \"car\" WHERE id = ANY(?)" ∧
      method.slots.map BindSlot.isArray = [true] ∧
      (∀ slot, slot ∈ method.slots → slot.isArray = true →
        Car.scope.catalog.isCollection slot.type = true) ∧
      ∀ bound, (draft.statement.text Car.scope.options Car.scope.table).MarksMember
        Car.scope.options.markers method.slots bound →
        Car.scope.catalog.isCollection bound.type = true := by
  obtain ⟨method, compiled, sql, isArray⟩ :
      ∃ method, Car.scope.compile Car.findListed = .ok method ∧
        method.sql =
          "SELECT \"id\", \"power\", \"revision\" FROM \"car\" WHERE id = ANY(?)" ∧
        method.slots.map BindSlot.isArray = [true] :=
    ⟨_, rfl, rfl, rfl⟩
  obtain ⟨arrays, draft, drafted, members⟩ := compile_arrays_iff compiled
  have named : ∀ name, (name, true) ∈ Car.scope.placeholders Car.findListed →
      Car.scope.NamesCollection Car.findListed name := by
    intro name list
    have roles : Car.scope.placeholders Car.findListed = [("ids", true)] := rfl
    rw [roles] at list
    obtain ⟨rfl, _⟩ := Prod.mk.inj (List.mem_singleton.mp list)
    exact ⟨_, rfl, by decide⟩
  exact ⟨method, draft, compiled, drafted, sql, isArray,
    arrays.mpr fun name role => named name role.mem, members.mpr named⟩

/-- A single key is bound as an array. -/
theorem findOne_binds_single_as_array :
    ∃ method slot, Car.scope.compile Car.findOne = .ok method ∧
      method.sql = "SELECT \"id\", \"power\", \"revision\" FROM \"car\" WHERE id = ANY(?)" ∧
      method.slots = [slot] ∧ slot.isArray = true ∧ slot.type = .named "i64" ∧
      Car.scope.catalog.isCollection slot.type = false :=
  ⟨_, _, rfl, rfl, rfl, rfl, rfl, by decide⟩

end RowPlan
