import RowPlan.Proofs.DerivedCondition
import RowPlan.Proofs.OrderMarker
import RowPlan.Proofs.SpelledSegments
import RowPlan.Proofs.StatementText
import RowPlan.Proofs.StaticOrder

/-!
# Sorting at run time

A method with an order parameter has the order marker where a sort clause goes. When it
runs, its text becomes that of the same function with the keys in its tag: what comes
before the clause has no marker, and what comes after it does not depend on the clause.
-/

namespace RowPlan

/-- No identifier of a table and no given text of a function has the order marker. -/
structure Scope.OrderFree (scope : Scope) (function : FunctionDecl) : Prop where
  table : RowPlan.OrderFree scope.table.name
  schema : ∀ schema, scope.table.schema = some schema → RowPlan.OrderFree schema
  columns : ∀ column, column ∈ scope.table.columns → RowPlan.OrderFree column.name
  texts : ∀ name, name ∈ [TagName.condition, TagName.query, TagName.statement] →
    ∀ text, (function.tag? name).bind Tag.value? = some text → RowPlan.OrderFree text

theorem Scope.orderFree_iff {scope : Scope} {function : FunctionDecl} :
    scope.OrderFree function ↔
      RowPlan.OrderFree scope.table.name ∧
        (∀ schema ∈ scope.table.schema, RowPlan.OrderFree schema) ∧
        (∀ column ∈ scope.table.columns, RowPlan.OrderFree column.name) ∧
        ∀ name ∈ [TagName.condition, TagName.query, TagName.statement],
          ∀ text ∈ (function.tag? name).bind Tag.value?, RowPlan.OrderFree text :=
  ⟨fun free => ⟨free.table, free.schema, free.columns, free.texts⟩,
    fun ⟨table, schema, columns, texts⟩ => ⟨table, schema, columns, texts⟩⟩

instance (scope : Scope) (function : FunctionDecl) : Decidable (scope.OrderFree function) :=
  decidable_of_iff' _ Scope.orderFree_iff

/-! ## What comes before the clause -/

section

variable {scope : Scope} {function : FunctionDecl}

theorem orderFree_ref (free : scope.OrderFree function) :
    OrderFree (scope.table.ref scope.options) := by
  have table := orderFree_quote scope.options free.table
  unfold Table.ref Options.tableRef
  split
  case h_1 schema found =>
    have dot : OrderNeutral "." := orderNeutral_literal (by decide)
    exact (orderFree_quote scope.options (free.schema schema found)).between dot table
  case h_2 => exact table

/-- A marker in a bound text comes from the text that its pieces spell: what stands for a
value has no character of it. -/
theorem infix_of_bindPlaceholders {pieces : List Segment} {rest : List Char}
    (spells : Spells pieces rest) {bound : SqlText}
    (success : scope.bindPlaceholders function pieces = .ok bound) (style : MarkerStyle)
    (binding : Binding) {front : List Char}
    (found : orderMarker.toList <:+: front ++ (SqlText.written style binding bound).toList) :
    orderMarker.toList <:+: front ++ rest := by
  induction spells generalizing bound binding front with
  | nil =>
      cases success
      simpa using found
  | @text part rest _ _ induction =>
      obtain ⟨others, othersSuccess, rfl⟩ := Scope.bindPlaceholders_text success
      rw [SqlText.written_text, String.toList_append, String.toList_ofList,
        ← List.append_assoc] at found
      rw [← List.append_assoc]
      exact induction othersSuccess binding found
  | @single name rest _ _ induction =>
      obtain ⟨slot, others, _, othersSuccess, rfl⟩ := Scope.bindPlaceholders_value success
      simp only [Bool.false_eq_true, if_false, List.singleton_append, SqlText.written_slot,
        String.toList_append] at found
      rcases (orderNeutral_marker style _).infix_beside found with earlier | later
      · exact earlier.trans (List.prefix_append _ _).isInfix
      · have inRest : orderMarker.toList <:+: [] ++ rest :=
          induction othersSuccess _ later
        refine inRest.trans (List.IsSuffix.isInfix ?_)
        exact ⟨front ++ ':' :: name, by simp⟩
  | @list opening name closing rest _ _ _ _ induction =>
      obtain ⟨slot, others, _, othersSuccess, rfl⟩ := Scope.bindPlaceholders_value success
      have anyWord : OrderNeutral "= ANY(" := orderNeutral_literal (by decide)
      have parenthesis : OrderNeutral ")" := orderNeutral_literal (by decide)
      simp only [if_true, List.cons_append, List.nil_append, SqlText.written_text,
        SqlText.written_slot, String.toList_append] at found
      rcases anyWord.infix_beside found with earlier | later
      · exact earlier.trans (List.prefix_append _ _).isInfix
      · have behind := infix_behind parenthesis.foreign
          (infix_behind (orderNeutral_marker style _).foreign later)
        have inRest : orderMarker.toList <:+: [] ++ rest :=
          induction othersSuccess _ behind
        refine inRest.trans (List.IsSuffix.isInfix ?_)
        exact ⟨front ++ opening ++ ':' :: name ++ closing, by simp⟩

theorem orderFree_bindText {text : String} {bound : SqlText}
    (success : scope.bindText function text = .ok bound) (free : OrderFree text)
    (style : MarkerStyle) (binding : Binding) :
    OrderFree (SqlText.written style binding bound) := by
  obtain ⟨rest, shape, spells⟩ := (reads_segments text).spells
  intro found
  have spelled : orderMarker.toList <:+: [] ++ rest :=
    infix_of_bindPlaceholders spells (Scope.bindText_eq_ok success) style binding found
  exact free (shape ▸ spelled)

theorem Comparison.column_test (comparison : Comparison) :
    comparison.test.column = comparison.column.name := by
  unfold Comparison.test
  split
  · rfl
  · rfl
  · rfl

theorem orderFree_test {options : Options} {test : ColumnTest}
    (free : OrderFree test.column) (number : Nat) :
    OrderFree (test.text options (options.markers.marker number)) := by
  have marker := (orderNeutral_marker options.markers number).orderFree
  cases test with
  | equals column =>
      have equal : OrderNeutral " = " := orderNeutral_literal (by decide)
      exact (orderFree_quote options free).between equal marker
  | notDistinct column =>
      have same : OrderNeutral " IS NOT DISTINCT FROM " := orderNeutral_literal (by decide)
      exact (orderFree_quote options free).between same marker
  | equalsAny column =>
      have any : OrderNeutral " = ANY(" := orderNeutral_literal (by decide)
      have closing : OrderNeutral ")" := orderNeutral_literal (by decide)
      exact ((orderFree_quote options free).between any marker).after closing

theorem orderFree_clauseText {left : String} (leftFree : OrderFree left) (options : Options)
    {tests : List ColumnTest} (free : ∀ test, test ∈ tests → OrderFree test.column) :
    OrderFree (left ++ ColumnTest.clauseText options tests) := by
  unfold ColumnTest.clauseText
  split
  case isTrue => simpa using leftFree
  case isFalse =>
    have whereWord : OrderNeutral " WHERE " := orderNeutral_literal (by decide)
    have andWord : OrderNeutral " AND " := orderNeutral_literal (by decide)
    rw [← String.append_assoc]
    apply leftFree.between whereWord
    apply orderFree_intercalate andWord
    intro part member
    obtain ⟨⟨test, number⟩, numbered, rfl⟩ := List.mem_map.mp member
    exact orderFree_test (free test (List.fst_mem_of_mem_zipIdx numbered)) number

theorem orderFree_derived (free : scope.OrderFree function) {left : String}
    (leftFree : OrderFree left) {condition : Option Condition}
    (success : scope.derivedCondition function = .ok condition) :
    OrderFree (left ++ SqlText.written scope.options.markers {}
      (Condition.clause scope.options condition)) := by
  simp only [Scope.derivedCondition, bind_eq_ok_iff] at success
  obtain ⟨comparisons, found, success⟩ := success
  have tests : ∀ test, test ∈ comparisons.map Comparison.test → OrderFree test.column := by
    intro test member
    obtain ⟨comparison, compared, rfl⟩ := List.mem_map.mp member
    obtain ⟨parameter, _, compares⟩ := exists_of_mem_mapM found comparison compared
    rw [comparison.column_test]
    exact free.columns _ (column_of_parameterComparison compares)
  have clause := orderFree_clauseText leftFree scope.options tests
  cases comparisons with
  | nil =>
      cases success
      exact clause
  | cons first rest =>
      cases success
      obtain ⟨written, _⟩ := Condition.written_clause scope.options (first :: rest)
      exact written ▸ clause

theorem orderFree_clause (free : scope.OrderFree function) {left : String}
    (leftFree : OrderFree left) {condition : Option Condition}
    (success : scope.condition function = .ok condition) :
    OrderFree (left ++ SqlText.written scope.options.markers {}
      (Condition.clause scope.options condition)) := by
  rcases Scope.condition_cases success with ⟨text, bound, given, found, rfl⟩ | ⟨_, derived⟩
  · have whereWord : OrderNeutral " WHERE " := orderNeutral_literal (by decide)
    have bound := orderFree_bindText found (free.texts _ (by decide) text given)
      scope.options.markers {}
    have whole := leftFree.between whereWord bound
    rwa [String.append_assoc] at whole
  · exact orderFree_derived free leftFree derived

theorem orderFree_givenText (free : scope.OrderFree function) {tag : Tag} {isStatement : Bool}
    {text : String} (given : Scope.givenText function = some (tag, isStatement))
    (content : tag.value? = some text) : OrderFree text := by
  rcases tag?_of_givenText given with found | found
  · exact free.texts TagName.statement (by decide) text (by rw [found]; exact content)
  · exact free.texts TagName.query (by decide) text (by rw [found]; exact content)

/-- The beginning of a query for rows. -/
theorem orderFree_selection (free : scope.OrderFree function) {row : TypeUse}
    {columns : List String} {plan : ReadPlan}
    (rows : scope.rows function row = .ok (columns, plan)) :
    OrderFree ("SELECT " ++ ", ".intercalate (columns.map scope.options.quote) ++ " FROM "
      ++ scope.table.ref scope.options) := by
  have selectWord : OrderNeutral "SELECT " := orderNeutral_literal (by decide)
  have fromWord : OrderNeutral " FROM " := orderNeutral_literal (by decide)
  have comma : OrderNeutral ", " := orderNeutral_literal (by decide)
  have list : OrderFree (", ".intercalate (columns.map scope.options.quote)) := by
    apply orderFree_intercalate comma
    intro part member
    obtain ⟨name, inColumns, rfl⟩ := List.mem_map.mp member
    obtain ⟨column, inTable, rfl⟩ := Scope.mem_columns_of_rows rows name inColumns
    exact orderFree_quote scope.options (free.columns column inTable)
  exact (OrderFree.before selectWord list).between fromWord (orderFree_ref free)

end

/-! ## The clause and what comes after it -/

section

variable {scope : Scope} {function : FunctionDecl} {suffix : Suffix} {before : SqlText}

theorem Suffix.text_of_orderParameter (sorted : suffix.orderParameter.isSome = true) :
    suffix.text = .text (" " ++ orderMarker) :: (suffix.limitClause ++ suffix.pageClause) := by
  simp [Suffix.text, Suffix.orderClause, sorted]

theorem Suffix.written_sortedBy (suffix : Suffix) (keys : Option String) (style : MarkerStyle)
    (binding : Binding) :
    SqlText.written style binding (suffix.sortedBy keys).text =
        (keys.map fun keys => " ORDER BY " ++ keys).getD "" ++
          SqlText.written style binding (suffix.limitClause ++ suffix.pageClause) ∧
      SqlText.bindAll style binding (suffix.sortedBy keys).text =
        SqlText.bindAll style binding (suffix.limitClause ++ suffix.pageClause) := by
  have text : (suffix.sortedBy keys).text =
      (suffix.sortedBy keys).orderClause ++ (suffix.limitClause ++ suffix.pageClause) := by
    rw [Suffix.text, List.append_assoc]
    rfl
  obtain ⟨written, unbound⟩ := (suffix.sortedBy keys).written_orderClause style binding
  rw [text, SqlText.written_append, SqlText.bindAll_append, written, unbound]
  exact ⟨rfl, rfl⟩

/-- Put in place of the marker, the clause stands where it would be written, and nothing
else changes. -/
theorem substitute_written {order : Order} {columns : List (String × String)}
    {keys : Option String} (sorted : suffix.orderParameter.isSome = true) (style : MarkerStyle)
    (free : OrderFree (SqlText.written style {} before))
    (rendered : order.render columns = .ok (sortClause keys)) :
    order.substitute (SqlText.written style {} (before ++ suffix.text)) columns =
        .ok (SqlText.written style {} (before ++ (suffix.sortedBy keys).text)) ∧
      SqlText.bindAll style {} (before ++ (suffix.sortedBy keys).text) =
        SqlText.bindAll style {} (before ++ suffix.text) := by
  obtain ⟨written, bound⟩ :=
    suffix.written_sortedBy keys style (SqlText.bindAll style {} before)
  rw [SqlText.bindAll_append, SqlText.bindAll_append, SqlText.written_append,
    SqlText.written_append, Suffix.text_of_orderParameter sorted, written, bound,
    SqlText.written_text]
  exact ⟨order.substitute_at_marker free _ rendered, rfl⟩

/-- The text of a query is order free up to its suffix. -/
theorem Scope.Drafted.before_suffix {draft : Draft} (drafted : scope.Drafted function draft)
    (kind : scope.archetype function = .finder ∨ scope.archetype function = .custom)
    (free : scope.OrderFree function) :
    ∃ (before : SqlText) (suffix : Suffix),
      suffix.orderParameter = (function.parametersOf .order).head?.map ParameterDecl.name ∧
      RowPlan.OrderFree (SqlText.written scope.options.markers {} before) ∧
      draft.statement.text scope.options scope.table = before ++ suffix.text ∧
      ∀ keys, (draft.sortedBy keys).statement.text scope.options scope.table =
        before ++ (suffix.sortedBy keys).text := by
  cases drafted with
  | save other => simp [other] at kind
  | deleteEntity other => simp [other] at kind
  | deleteRows other deletes =>
      rcases deletes with rfl | rfl
      · simp [other] at kind
      · simp [other] at kind
  | value other asks =>
      rcases asks with ⟨rfl, _⟩ | ⟨rfl, _⟩
      · simp [other] at kind
      · simp [other] at kind
  | @find columns plan suffix condition _ rows suffixSuccess success =>
      obtain ⟨_, _, literal, _, _, shape⟩ := Scope.suffix_parts suffixSuccess
      refine ⟨.text _ :: Condition.clause scope.options condition, suffix, ?_, ?_, rfl,
        fun keys => rfl⟩
      · rw [shape]
      · exact orderFree_clause free (orderFree_selection free rows) success
  | @custom tag isStatement text suffix bound plan _ given content suffixSuccess success =>
      obtain ⟨_, _, literal, _, _, shape⟩ := Scope.suffix_parts suffixSuccess
      refine ⟨bound, suffix, ?_, ?_, rfl, fun keys => rfl⟩
      · rw [shape]
      · exact orderFree_bindText success (orderFree_givenText free given content) _ _

end

/-- What a query that sorts at run time becomes is the text of the same function with the
keys of the order in its tag, or without a tag where the order has no keys. The slots do not
depend on the order. -/
theorem compile_sorts_at_run_time {scope : Scope} {function : FunctionDecl} {method : Method}
    (compiled : scope.compile function = .ok method)
    (kind : method.archetype = .finder ∨ method.archetype = .custom)
    (free : scope.OrderFree function)
    (sorted : ∃ parameter, parameter ∈ function.parameters ∧
      parameter.type.name.isOrder = true)
    {order : Order} {columns : List (String × String)} {clause : String}
    (rendered : order.render columns = .ok clause) :
    ∃ keys static, sortClause keys = clause ∧ (keys = none ↔ order.keys = []) ∧
      scope.compile (function.sortedBy keys) = .ok static ∧
      order.substitute method.sql columns = .ok static.sql ∧
      static.slots = method.slots ∧
      static.toMethodFacts = method.toMethodFacts.sorted := by
  rw [Scope.compile_archetype compiled] at kind
  obtain ⟨draft, success, rfl⟩ := Scope.compile_eq_ok_iff.mp compiled
  obtain ⟨before, suffix, orderParameter, beforeFree, text, staticText⟩ :=
    (Scope.drafted_of_draft success).before_suffix kind free
  have marked : suffix.orderParameter.isSome = true := by
    obtain ⟨parameter, member, isOrder⟩ := sorted
    have inRole : parameter ∈ function.parametersOf .order :=
      List.mem_filter.mpr
        ⟨member, beq_iff_eq.mpr (ParameterDecl.role_eq_order_iff.mpr isOrder)⟩
    obtain ⟨first, rest, shape⟩ := List.exists_cons_of_ne_nil (List.ne_nil_of_mem inRole)
    rw [orderParameter, shape]
    rfl
  obtain ⟨keys, rfl, unsorted, proper⟩ := Order.keys_of_render rendered
  have static := Scope.compile_sortedBy proper kind
  rw [success] at static
  obtain ⟨substituted, bound⟩ :=
    substitute_written marked scope.options.markers beforeFree rendered
  refine ⟨keys, _, rfl, unsorted, static, ?_, ?_, rfl⟩
  · rw [Draft.finish_sql, Draft.finish_sql, text, staticText]
    exact substituted
  · rw [Draft.finish_slots, Draft.finish_slots, text, staticText, bound]

namespace Car

/-- Finds ten cars of a power, in an order that the caller chooses. -/
def findSorted : FunctionDecl where
  name := "find_sorted"
  parameters := [⟨"power", .named "i32", []⟩, ⟨"order", .named "Order", []⟩]
  returnType := .named "Vec" [{ target := entity }]
  tags := [⟨TagName.orderBy, [("value", "revision")]⟩, ⟨TagName.limit, [("value", "10")]⟩]

/-- The fields of a car by which rows can be sorted. -/
def sortColumns : List (String × String) :=
  [("id", "\"id\""), ("engine.power", "\"power\"")]

/-- The strongest car first. -/
def strongestFirst : Order :=
  (Order.descending "engine.power").andThen "id" .ascending

end Car

theorem compile_sorts_at_run_time_car :
    ∃ method static, Car.scope.compile Car.findSorted = .ok method ∧
      method.archetype = .finder ∧ Car.scope.OrderFree Car.findSorted ∧
      method.sql = "SELECT \"id\", \"power\", \"revision\" FROM \"car\" " ++
        "WHERE \"power\" = ? %orderBy LIMIT 10" ∧
      Car.strongestFirst.render Car.sortColumns =
        .ok "ORDER BY \"power\" DESC, \"id\" ASC" ∧
      Car.scope.compile (Car.findSorted.sortedBy (some "\"power\" DESC, \"id\" ASC")) =
        .ok static ∧
      Car.strongestFirst.substitute method.sql Car.sortColumns = .ok static.sql ∧
      static.slots = method.slots := by
  obtain ⟨method, compiled, finder, sql⟩ : ∃ method,
      Car.scope.compile Car.findSorted = .ok method ∧ method.archetype = .finder ∧
        method.sql = "SELECT \"id\", \"power\", \"revision\" FROM \"car\" " ++
          "WHERE \"power\" = ? %orderBy LIMIT 10" :=
    ⟨_, rfl, rfl, rfl⟩
  have free : Car.scope.OrderFree Car.findSorted := by decide
  have sorted : ∃ parameter, parameter ∈ Car.findSorted.parameters ∧
      parameter.type.name.isOrder = true :=
    ⟨⟨"order", .named "Order", []⟩, by simp [Car.findSorted], rfl⟩
  have rendered : Car.strongestFirst.render Car.sortColumns =
      .ok "ORDER BY \"power\" DESC, \"id\" ASC" :=
    rfl
  obtain ⟨keys, static, clause, _, staticCompiled, substituted, slots, _⟩ :=
    compile_sorts_at_run_time compiled (.inl finder) free sorted rendered
  have text : keys = some "\"power\" DESC, \"id\" ASC" := sortClause_injective clause
  rw [text] at staticCompiled
  exact ⟨method, static, compiled, finder, free, sql, rendered, staticCompiled, substituted,
    slots⟩

end RowPlan
