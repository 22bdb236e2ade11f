import RowPlan.Proofs.Drafts
import RowPlan.Proofs.PlaceholderText
import RowPlan.Proofs.QueryText
import RowPlan.Proofs.TidyText

/-!
# The text of statements

Whatever statement a function has, its text is tidy unless an identifier or a given
text has the sign of a marker, and the keys of its slots come from the placeholders of
the given text alone.
-/

namespace RowPlan

/-- The given text that a function is compiled from, if it is. -/
def Scope.givenText? (scope : Scope) (function : FunctionDecl) : Option String :=
  match scope.archetype function with
  | .save | .deleteByEntity => none
  | .custom => (givenText function).bind fun given => given.1.value?
  | _ => (function.tag? TagName.condition).bind Tag.value?

/-- The placeholders that a function is compiled from. -/
def Scope.placeholders (scope : Scope) (function : FunctionDecl) : List (String × Bool) :=
  ((scope.givenText? function).map fun text => RowPlan.placeholders (segments text)).getD []

/-- The keys of slots are those of placeholders. -/
def Scope.KeysOf (scope : Scope) (function : FunctionDecl) (names : List (String × Bool))
    (keys : List (String × BindSlot)) : Prop :=
  keys.map some = names.map fun (name, isList) =>
    (scope.placeholderSlot function name isList).map (name, ·)

section

variable {scope : Scope} {function : FunctionDecl} {names : List (String × Bool)}
  {keys : List (String × BindSlot)} {name : String}

theorem Scope.KeysOf.role_of_key (keysOf : scope.KeysOf function names keys)
    {slot : BindSlot} (member : (name, slot) ∈ keys) :
    ∃ isList, (name, isList) ∈ names ∧
      scope.placeholderSlot function name isList = some slot := by
  have mapped : some (name, slot) ∈ keys.map some := List.mem_map_of_mem member
  rw [keysOf] at mapped
  obtain ⟨⟨other, isList⟩, role, found⟩ := List.mem_map.mp mapped
  obtain ⟨bound, slotFound, equality⟩ := Option.map_eq_some_iff.mp found
  cases equality
  exact ⟨isList, role, slotFound⟩

theorem Scope.KeysOf.key_of_role (keysOf : scope.KeysOf function names keys)
    {isList : Bool} (role : (name, isList) ∈ names) :
    ∃ slot, scope.placeholderSlot function name isList = some slot ∧
      (name, slot) ∈ keys := by
  have mapped : (scope.placeholderSlot function name isList).map (name, ·) ∈
      keys.map some := by
    rw [keysOf]
    exact List.mem_map_of_mem role
  obtain ⟨⟨other, slot⟩, member, found⟩ := List.mem_map.mp mapped
  obtain ⟨bound, slotFound, equality⟩ := Option.map_eq_some_iff.mp found.symm
  cases equality
  exact ⟨slot, slotFound, member⟩

theorem Scope.KeysOf.path_of_key (keysOf : scope.KeysOf function names keys)
    {slot : BindSlot} (member : (name, slot) ∈ keys) : slot.path = [name] := by
  obtain ⟨isList, _, found⟩ := keysOf.role_of_key member
  exact Scope.path_of_placeholderSlot found

end

open SqlText

section

variable {style : MarkerStyle} {scope : Scope} {function : FunctionDecl}

/-! ## Inserted rows -/

theorem storedValue_tidy (value : Column × BindSlot) :
    Tidy style (Insert.storedValue value) [] := by
  obtain ⟨column, slot⟩ := value
  cases version : column.isVersion with
  | true =>
      have plusOne : Tidy style [.text " + 1"] [] :=
        Tidy.nil.literal (by decide)
      simpa [Insert.storedValue, version] using
        plusOne.slot (startsClear_of_first (by decide)) slot
  | false => simpa [Insert.storedValue, version] using Tidy.nil.slot trivial slot

theorem sign_not_mem_column (avoids : scope.Avoids function style.sign) {column : Column}
    (member : column ∈ scope.table.columns) :
    style.sign ∉ (scope.options.quote column.name).toList :=
  sign_not_mem_quote (avoids.columns column member)

theorem sign_not_mem_versionGuard (avoids : scope.Avoids function style.sign) :
    style.sign ∉ (Conflict.versionGuard scope.options (scope.table.ref scope.options)
      scope.table.version?).toList := by
  cases found : scope.table.version? with
  | none => simp [Conflict.versionGuard]
  | some version =>
      have quoted := sign_not_mem_column avoids (List.mem_of_find?_eq_some found)
      unfold Conflict.versionGuard
      exact sign_not_mem_append (sign_not_mem_append (sign_not_mem_append
        (sign_not_mem_append (sign_not_mem_append (sign_not_mem_append
          (sign_not_mem_literal (by decide)) (sign_not_mem_ref avoids))
          (sign_not_mem_literal (by decide))) quoted)
        (sign_not_mem_literal (by decide))) quoted) (sign_not_mem_literal (by decide))

/-- The columns of a conflict clause are those of the table. -/
theorem sign_not_mem_conflict (avoids : scope.Avoids function style.sign) :
    style.sign ∉
      (scope.table.conflict.text scope.options (scope.table.ref scope.options)).toList := by
  have keys : style.sign ∉ (", ".intercalate (scope.table.ids.map fun column =>
      scope.options.quote column.name)).toList := by
    apply sign_not_mem_intercalate (sign_not_mem_literal (by decide))
    intro part member
    obtain ⟨column, inIds, rfl⟩ := List.mem_map.mp member
    exact sign_not_mem_column avoids (List.mem_filter.mp inIds).1
  have updates : style.sign ∉ (", ".intercalate
      (scope.table.conflict.updates.map (Conflict.updateColumn scope.options))).toList := by
    apply sign_not_mem_intercalate (sign_not_mem_literal (by decide))
    intro part member
    obtain ⟨column, inUpdates, rfl⟩ := List.mem_map.mp member
    have quoted := sign_not_mem_column avoids (List.mem_filter.mp inUpdates).1
    exact sign_not_mem_append (sign_not_mem_append quoted (sign_not_mem_literal (by decide)))
      quoted
  unfold Conflict.text
  refine sign_not_mem_append (sign_not_mem_append (sign_not_mem_append
    (sign_not_mem_literal (by decide)) keys) (sign_not_mem_literal (by decide))) ?_
  split
  · exact sign_not_mem_literal (by decide)
  · exact sign_not_mem_append (sign_not_mem_append (sign_not_mem_literal (by decide)) updates)
      (sign_not_mem_versionGuard avoids)

theorem insertion_tidy (avoids : scope.Avoids function style.sign)
    (parameter : ParameterDecl) (execution : Execution) :
    Tidy style ((scope.insertion function parameter execution).text scope.options
      (scope.table.ref scope.options)) [] := by
  have names : style.sign ∉ (", ".intercalate
      ((columnSlots execution parameter scope.table.columns).map fun value =>
        scope.options.quote value.1.name)).toList := by
    apply sign_not_mem_intercalate (sign_not_mem_literal (by decide))
    intro part member
    obtain ⟨value, inValues, rfl⟩ := List.mem_map.mp member
    obtain ⟨column, inTable, rfl⟩ := List.mem_map.mp inValues
    exact sign_not_mem_column avoids inTable
  have values : Tidy style (SqlText.join ", "
      ((columnSlots execution parameter scope.table.columns).map Insert.storedValue)) [] := by
    refine .join (by decide) (sign_not_mem_literal (by decide)) ?_
    intro part member
    obtain ⟨value, _, rfl⟩ := List.mem_map.mp member
    exact storedValue_tidy value
  have head : style.sign ∉ ("INSERT INTO " ++ scope.table.ref scope.options ++ " ("
      ++ ", ".intercalate ((columnSlots execution parameter scope.table.columns).map fun value =>
        scope.options.quote value.1.name) ++ ") VALUES (").toList :=
    sign_not_mem_append (sign_not_mem_append (sign_not_mem_append (sign_not_mem_append
      (sign_not_mem_literal (by decide)) (sign_not_mem_ref avoids))
      (sign_not_mem_literal (by decide))) names) (sign_not_mem_literal (by decide))
  unfold Insert.text Scope.insertion
  cases scope.table.hasIds && !function.has TagName.onConflictFail with
  | true =>
      exact (values.append
        ((Tidy.nil.part (sign_not_mem_conflict avoids)).literal (by decide))
        (startsClear_of_first (by decide))).part head
  | false =>
      exact (values.append (Tidy.nil.literal (by decide))
        (startsClear_of_first (by decide))).part head

/-! ## Conditions -/

theorem comparison_tidy (avoids : scope.Avoids function style.sign)
    {comparison : Comparison} (member : comparison.column ∈ scope.table.columns) :
    Tidy style (comparison.text scope.options) [] := by
  have quoted := sign_not_mem_column avoids member
  have slot : Tidy style [.slot none comparison.slot] [] := Tidy.nil.slot trivial _
  unfold Comparison.text
  cases comparison.comparator with
  | equal => exact slot.part (sign_not_mem_append quoted (sign_not_mem_literal (by decide)))
  | same => exact slot.part (sign_not_mem_append quoted (sign_not_mem_literal (by decide)))
  | member =>
      have closing : Tidy style [.text ")"] [] :=
        Tidy.nil.literal (by decide)
      exact (closing.slot (startsClear_of_first (by decide)) comparison.slot).part
        (sign_not_mem_append quoted (sign_not_mem_literal (by decide)))

/-- Comparisons with columns of the table have no keys. -/
theorem all_tidy (avoids : scope.Avoids function style.sign) {comparisons : List Comparison}
    (columns : ∀ comparison, comparison ∈ comparisons →
      comparison.column ∈ scope.table.columns) :
    Tidy style ((Condition.all comparisons).text scope.options) [] := by
  refine .join (by decide) (sign_not_mem_literal (by decide)) ?_
  intro part member
  obtain ⟨comparison, inList, rfl⟩ := List.mem_map.mp member
  exact comparison_tidy avoids (columns comparison inList)

theorem entityGuard_tidy (avoids : scope.Avoids function style.sign)
    (parameter : ParameterDecl) (execution : Execution) :
    Tidy style ((scope.entityGuard execution parameter).text scope.options) [] := by
  apply all_tidy avoids
  intro comparison member
  obtain ⟨value, inValues, rfl⟩ := List.mem_map.mp member
  obtain ⟨column, inGuard, rfl⟩ := List.mem_map.mp inValues
  unfold Table.guardColumns at inGuard
  split at inGuard
  · exact (List.mem_filter.mp inGuard).1
  · exact inGuard

theorem mem_of_mem_columnsNamed {columns : List Column} {name : String} {column : Column}
    (member : column ∈ columnsNamed columns name) : column ∈ columns := by
  unfold columnsNamed at member
  split at member
  case h_1 =>
    split at member
    case h_1 => exact (List.mem_filter.mp member).1
    case h_2 => exact (List.mem_filter.mp member).1
  case h_2 => exact (List.mem_filter.mp member).1

theorem column_of_parameterComparison {parameter : ParameterDecl} {comparison : Comparison}
    (success : scope.parameterComparison function parameter = .ok comparison) :
    comparison.column ∈ scope.table.columns := by
  unfold Scope.parameterComparison at success
  split at success
  case h_1 column named =>
    have isNamed : column ∈ columnsNamed scope.table.columns parameter.name :=
      named ▸ List.mem_cons_self
    have inTable := mem_of_mem_columnsNamed isNamed
    cases success
    unfold Scope.comparison
    dsimp only
    split
    · exact inTable
    · split
      · exact inTable
      · exact inTable
  case h_2 => cases success
  case h_3 => cases success

theorem derivedCondition_tidy (avoids : scope.Avoids function style.sign)
    {condition : Option Condition}
    (success : scope.derivedCondition function = .ok condition) :
    Tidy style (Condition.clause scope.options condition) [] ∧
      (Condition.clause scope.options condition).StartsClear := by
  simp only [Scope.derivedCondition, bind_eq_ok_iff] at success
  obtain ⟨comparisons, found, success⟩ := success
  have columns : ∀ comparison, comparison ∈ comparisons →
      comparison.column ∈ scope.table.columns := by
    intro comparison member
    obtain ⟨parameter, _, compared⟩ := exists_of_mem_mapM found comparison member
    exact column_of_parameterComparison compared
  split at success
  · cases success
    exact ⟨.nil, trivial⟩
  · cases success
    exact ⟨(all_tidy avoids columns).literal (by decide),
      startsClear_of_first (by decide)⟩

/-! ## Suffixes -/

theorem orderClause_tidy {suffix : Suffix}
    (absent : ∀ keys, suffix.orderBy = some keys → style.sign ∉ keys.toList) :
    Tidy style suffix.orderClause [] ∧ suffix.orderClause.StartsClear := by
  unfold Suffix.orderClause
  split
  · exact ⟨Tidy.nil.literal (by decide), startsClear_of_first (by decide)⟩
  · split
    case h_1 keys found =>
      have plain : style.sign ∉ (" ORDER BY " ++ keys).toList :=
        sign_not_mem_append (sign_not_mem_literal (by decide)) (absent keys found)
      exact ⟨Tidy.nil.part plain, startsClear_of_literal (by decide)⟩
    case h_2 => exact ⟨.nil, trivial⟩

theorem limitClause_tidy (suffix : Suffix) :
    Tidy style suffix.limitClause [] ∧ suffix.limitClause.StartsClear := by
  have number : ∀ rows : Nat, Tidy style [.text (" LIMIT " ++ toString rows)] [] ∧
      StartsClear [.text (" LIMIT " ++ toString rows)] := by
    intro rows
    have digits : style.sign ∉ (toString rows).toList := by
      cases style with
      | question => exact not_mem_toString rfl
      | numbered => exact not_mem_toString rfl
    exact ⟨Tidy.nil.part (sign_not_mem_append (sign_not_mem_literal (by decide)) digits),
      startsClear_of_literal (by decide)⟩
  unfold Suffix.limitClause
  cases suffix.limit with
  | none => exact ⟨.nil, trivial⟩
  | some limit =>
      cases limit with
      | literal rows => exact number rows
      | bound slot =>
          have limited : Tidy style [.slot none slot] [] := Tidy.nil.slot trivial slot
          exact ⟨limited.literal (by decide), startsClear_of_first (by decide)⟩
      | first => exact ⟨Tidy.nil.literal (by decide), startsClear_of_first (by decide)⟩
      | cap rows => exact number rows

theorem pageClause_tidy (suffix : Suffix) :
    Tidy style suffix.pageClause [] ∧ suffix.pageClause.StartsClear := by
  unfold Suffix.pageClause
  cases suffix.pageable with
  | none => exact ⟨.nil, trivial⟩
  | some pageable =>
      have offset : Tidy style
          [.text " OFFSET ", .slot none (Suffix.pageSlot pageable "offset")] [] :=
        (Tidy.nil.slot trivial _).literal (by decide)
      exact ⟨(offset.slot (startsClear_of_first (by decide)) _).literal (by decide),
        startsClear_of_first (by decide)⟩

theorem suffix_tidy {suffix : Suffix}
    (absent : ∀ keys, suffix.orderBy = some keys → style.sign ∉ keys.toList) :
    Tidy style suffix.text [] ∧ suffix.text.StartsClear := by
  obtain ⟨order, orderClear⟩ := orderClause_tidy absent
  obtain ⟨limit, limitClear⟩ : Tidy style suffix.limitClause [] ∧ _ := limitClause_tidy suffix
  obtain ⟨page, pageClear⟩ : Tidy style suffix.pageClause [] ∧ _ := pageClause_tidy suffix
  constructor
  · exact (order.append limit limitClear).append page pageClear
  · exact (orderClear.append limitClear).append pageClear

/-! ## Given texts -/

theorem bindText_tidy {text : String} {bound : SqlText}
    (absent : style.sign ∉ text.toList)
    (success : scope.bindText function text = .ok bound) :
    ∃ keys, Tidy style bound keys ∧
      scope.KeysOf function (placeholders (segments text)) keys := by
  have pieces := Scope.bindText_eq_ok success
  refine ⟨bound.keyed, ⟨?_, ?_, rfl⟩, Scope.keyed_of_bindPlaceholders pieces⟩
  · exact Scope.separated_of_bindPlaceholders pieces (segmentsSeparated_segments text)
  · apply Scope.plain_of_bindPlaceholders pieces
    intro part member inPart
    exact absent (mem_of_mem_segments member inPart)

theorem condition_tidy (avoids : scope.Avoids function style.sign)
    {condition : Option Condition} (success : scope.condition function = .ok condition) :
    (Condition.clause scope.options condition).StartsClear ∧
      ∃ keys, Tidy style (Condition.clause scope.options condition) keys ∧
        scope.KeysOf function
          ((((function.tag? TagName.condition).bind Tag.value?).map fun text =>
            placeholders (segments text)).getD []) keys := by
  rcases Scope.condition_cases success with ⟨text, bound, given, found, rfl⟩ | ⟨absent, derived⟩
  · have absent : style.sign ∉ text.toList :=
      avoids.texts TagName.condition (by simp) text given
    obtain ⟨keys, tidy, keysOf⟩ := bindText_tidy absent found
    rw [given]
    exact ⟨startsClear_of_first (by decide), keys,
      tidy.literal (by decide), keysOf⟩
  · obtain ⟨tidy, clear⟩ := derivedCondition_tidy avoids derived
    rw [absent]
    exact ⟨clear, [], tidy, rfl⟩

theorem sign_not_mem_orderBy (avoids : scope.Avoids function style.sign)
    {shape : ReturnShape} {capped : Bool} {suffix : Suffix}
    (success : scope.suffix function shape capped = .ok suffix) :
    ∀ keys, suffix.orderBy = some keys → style.sign ∉ keys.toList := by
  obtain ⟨_, _, _, _, _, rfl⟩ := Scope.suffix_parts success
  intro keys found
  dsimp only at found
  split at found
  · cases found
  · exact avoids.texts TagName.orderBy (by simp) keys found

/-! ## Statements -/

theorem tag?_of_givenText {tag : Tag} {isStatement : Bool}
    (given : Scope.givenText function = some (tag, isStatement)) :
    function.tag? TagName.statement = some tag ∨ function.tag? TagName.query = some tag := by
  unfold Scope.givenText at given
  split at given
  case h_1 statement found =>
    cases given
    exact .inl found
  case h_2 =>
    obtain ⟨query, found, equality⟩ := Option.map_eq_some_iff.mp given
    cases equality
    exact .inr found

theorem sign_not_mem_givenText (avoids : scope.Avoids function style.sign) {tag : Tag}
    {isStatement : Bool} {text : String}
    (given : Scope.givenText function = some (tag, isStatement))
    (content : tag.value? = some text) : style.sign ∉ text.toList := by
  rcases tag?_of_givenText given with found | found
  · exact avoids.texts TagName.statement (by simp) text (by rw [found]; exact content)
  · exact avoids.texts TagName.query (by simp) text (by rw [found]; exact content)

/-- The text of the statement of any draft. -/
theorem Scope.Drafted.tidy (style : MarkerStyle) {draft : Draft}
    (drafted : scope.Drafted function draft)
    (avoids : scope.Avoids function style.sign) :
    ∃ keys, Tidy style (draft.statement.text scope.options scope.table) keys ∧
      scope.KeysOf function (scope.placeholders function) keys := by
  have ref := sign_not_mem_ref avoids
  cases drafted with
  | @save parameter execution kind _ _ =>
      refine ⟨[], insertion_tidy avoids parameter execution, ?_⟩
      simp [Scope.placeholders, Scope.givenText?, kind, KeysOf]
  | @deleteEntity parameter execution kind _ _ _ =>
      refine ⟨[], ?_, by simp [Scope.placeholders, Scope.givenText?, kind, KeysOf]⟩
      exact ((entityGuard_tidy avoids parameter execution).part
        (sign_not_mem_literal (by decide))).part
          (sign_not_mem_append (sign_not_mem_literal (by decide)) ref)
  | @deleteRows archetype condition kind deletes _ success =>
      obtain ⟨_, keys, tidy, keysOf⟩ := condition_tidy avoids success
      refine ⟨keys, tidy.part (sign_not_mem_append (sign_not_mem_literal (by decide)) ref), ?_⟩
      rcases deletes with rfl | rfl
      · simpa [Scope.placeholders, Scope.givenText?, kind] using keysOf
      · simpa [Scope.placeholders, Scope.givenText?, kind] using keysOf
  | @find columns plan suffix condition kind rows suffixSuccess success =>
      obtain ⟨_, keys, tidy, keysOf⟩ := condition_tidy avoids success
      obtain ⟨suffixTidy, suffixClear⟩ := suffix_tidy (sign_not_mem_orderBy avoids suffixSuccess)
      have list : style.sign ∉
          (", ".intercalate (columns.map scope.options.quote)).toList := by
        apply sign_not_mem_intercalate (sign_not_mem_literal (by decide))
        intro part member
        obtain ⟨name, inColumns, rfl⟩ := List.mem_map.mp member
        obtain ⟨column, inTable, rfl⟩ := Scope.mem_columns_of_rows rows name inColumns
        exact sign_not_mem_column avoids inTable
      have head : style.sign ∉ ("SELECT " ++ ", ".intercalate (columns.map scope.options.quote)
          ++ " FROM " ++ scope.table.ref scope.options).toList :=
        sign_not_mem_append (sign_not_mem_append (sign_not_mem_append
          (sign_not_mem_literal (by decide)) list) (sign_not_mem_literal (by decide))) ref
      refine ⟨keys, ?_, by simpa [Scope.placeholders, Scope.givenText?, kind] using keysOf⟩
      have whole := (tidy.part head).append suffixTidy suffixClear
      rwa [List.append_nil] at whole
  | @value archetype statement plan condition kind asks _ _ success =>
      obtain ⟨_, keys, tidy, keysOf⟩ := condition_tidy avoids success
      rcases asks with ⟨rfl, rfl⟩ | ⟨rfl, rfl⟩
      · refine ⟨keys, ?_, by simpa [Scope.placeholders, Scope.givenText?, kind] using keysOf⟩
        exact tidy.part (sign_not_mem_append (sign_not_mem_literal (by decide)) ref)
      · refine ⟨keys, ?_, by simpa [Scope.placeholders, Scope.givenText?, kind] using keysOf⟩
        have closing : Tidy style [.text ")"] [] :=
          Tidy.nil.literal (by decide)
        have head : style.sign ∉ ("SELECT EXISTS (SELECT * FROM "
            ++ scope.table.ref scope.options).toList :=
          sign_not_mem_append (sign_not_mem_literal (by decide)) ref
        have whole := (tidy.part head).append closing (startsClear_of_first (by decide))
        rwa [List.append_nil] at whole
  | @custom tag isStatement text suffix bound plan kind given content suffixSuccess
      boundSuccess _ =>
      obtain ⟨keys, tidy, keysOf⟩ :=
        bindText_tidy (sign_not_mem_givenText avoids given content) boundSuccess
      obtain ⟨suffixTidy, suffixClear⟩ := suffix_tidy (sign_not_mem_orderBy avoids suffixSuccess)
      refine ⟨keys, ?_, by
        simpa [Scope.placeholders, Scope.givenText?, kind, given, content] using keysOf⟩
      have whole := tidy.append suffixTidy suffixClear
      rwa [List.append_nil] at whole

end

end RowPlan
