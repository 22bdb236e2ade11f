import RowPlan.Proofs.MarkedText
import RowPlan.Proofs.RowCondition
import RowPlan.Proofs.Saving

/-!
# Conditions derived from parameters

A query or delete without a given text is about the rows whose columns have the values
of its parameters. Its text is one test for each value parameter, between the
beginning and the end of its statement.
-/

namespace RowPlan

/-! ## What a parameter means -/

/-- The ways in which a name can be that of a column, in their order: the path joined by
underscores, the name of the column, the name of the leaf field. -/
def namingSteps (name : String) : List (Column → Bool) :=
  [fun column => "_".intercalate column.path == name, fun column => column.name == name,
    fun column => column.leaf == name]

/-- The columns that satisfy the first step that any column satisfies. -/
inductive FirstMatch (columns : List Column) : List (Column → Bool) → List Column → Prop where
  | here {step : Column → Bool} {steps : List (Column → Bool)} :
      columns.filter step ≠ [] → FirstMatch columns (step :: steps) (columns.filter step)
  | later {step : Column → Bool} {steps : List (Column → Bool)} {found : List Column} :
      columns.filter step = [] → FirstMatch columns steps found →
      FirstMatch columns (step :: steps) found

/-- A name is that of one column, by the first step that any column satisfies. -/
def Resolves (columns : List Column) (name : String) (column : Column) : Prop :=
  FirstMatch columns (namingSteps name) [column]

/-- What a value parameter asks of a row: membership where it is a list and the column
does not store JSON, else equality, where two absent values are equal if both sides may
be absent. -/
def Scope.Satisfies {A : Type} (scope : Scope) (column : Column) (parameter : ParameterDecl)
    (row : Row A) (argument : Argument A) : Prop :=
  if scope.catalog.isCollection parameter.type = true ∧ column.columnType.isJson = false then
    row column.name ≠ .null ∧
      ∃ members, argument.members = some members ∧ row column.name ∈ members
  else if parameter.type.nullable = true ∧ column.nullable = true then
    row column.name = argument.cell
  else row column.name ≠ .null ∧ row column.name = argument.cell

/-- A test of a column, with a slot for the value of a parameter. -/
structure TestsParameter (column : Column) (parameter : ParameterDecl)
    (tested : ColumnTest × BindSlot) : Prop where
  named : tested.1.column = column.name
  path : tested.2.path = [parameter.name]
  type : tested.2.type = parameter.type
  columnType : tested.2.columnType = some column.columnType

/-- What stands before and after the condition of a statement. -/
inductive Scope.Encloses (scope : Scope) (function : FunctionDecl) : String → SqlText → Prop where
  | finder {columns : List String} {plan : ReadPlan} {suffix : Suffix} :
      scope.archetype function = .finder →
      scope.rows function (ReturnShape.of scope.catalog function.returnType).row =
        .ok (columns, plan) →
      scope.suffix function (ReturnShape.of scope.catalog function.returnType) true =
        .ok suffix →
      Encloses scope function
        ("SELECT " ++ ", ".intercalate (columns.map scope.options.quote) ++ " FROM "
          ++ scope.table.ref scope.options)
        suffix.text
  | count :
      scope.archetype function = .count →
      Encloses scope function
        ("SELECT count(*) FROM " ++ scope.table.ref scope.options) []
  | existence :
      scope.archetype function = .existence →
      Encloses scope function
        ("SELECT EXISTS (SELECT * FROM " ++ scope.table.ref scope.options) [.text ")"]
  | deleteByFields :
      scope.archetype function = .deleteByFields →
      Encloses scope function ("DELETE FROM " ++ scope.table.ref scope.options) []

/-- A method is about the rows that have the values of the parameters of its function.
Between the beginning and the end of its statement stands the clause of some tests, which
bind one slot each before any other. Each value parameter has one of the tests, in their
order, of the one column that its name resolves to. Together they are true of a row where
every parameter has what it asks for, whatever the arguments are. -/
structure Scope.AboutValues (scope : Scope) (function : FunctionDecl) (method : Method)
    (opening : String) (tests : List (ColumnTest × BindSlot)) (closing : SqlText) : Prop where
  encloses : scope.Encloses function opening closing
  sql : method.sql =
    opening ++ ColumnTest.clauseText scope.options (tests.map Prod.fst) ++
      SqlText.written scope.options.markers { slots := tests.map Prod.snd } closing
  slots : method.slots = tests.map Prod.snd ++ closing.slots
  tested : List.Forall₂ (fun parameter tested => ∃ column,
    Resolves scope.table.columns parameter.name column ∧
      TestsParameter column parameter tested) function.values tests
  truth (A : Type) [DecidableEq A] (row : Row A) (arguments : List String → Argument A) :
    conditionTruth row tests arguments = some true ↔
      ∀ parameter, parameter ∈ function.values → ∃ column,
        Resolves scope.table.columns parameter.name column ∧
          scope.Satisfies column parameter row (arguments [parameter.name])

/-! ## Resolving names -/

theorem firstMatch_nil_iff {columns found : List Column} : ¬ FirstMatch columns [] found :=
  nofun

theorem firstMatch_cons_iff {columns found : List Column} {step : Column → Bool}
    {steps : List (Column → Bool)} :
    FirstMatch columns (step :: steps) found ↔
      (columns.filter step ≠ [] ∧ columns.filter step = found) ∨
        (columns.filter step = [] ∧ FirstMatch columns steps found) := by
  constructor
  · intro first
    cases first with
    | here nonempty => exact .inl ⟨nonempty, rfl⟩
    | later empty first => exact .inr ⟨empty, first⟩
  · rintro (⟨nonempty, rfl⟩ | ⟨empty, first⟩)
    · exact .here nonempty
    · exact .later empty first

/-- The columns that a parameter may mean are those of the first step that has any. -/
theorem firstMatch_namingSteps_iff {columns found : List Column} {name : String} :
    FirstMatch columns (namingSteps name) found ↔
      columnsNamed columns name = found ∧ found ≠ [] := by
  simp only [namingSteps, firstMatch_cons_iff, firstMatch_nil_iff, and_false, or_false,
    columnsNamed]
  cases columns.filter fun column => "_".intercalate column.path == name with
  | cons first rest => aesop
  | nil =>
      cases columns.filter fun column => column.name == name with
      | cons first rest => aesop
      | nil => aesop

theorem resolves_iff {columns : List Column} {name : String} {column : Column} :
    Resolves columns name column ↔ columnsNamed columns name = [column] := by
  rw [Resolves, firstMatch_namingSteps_iff]
  exact and_iff_left (List.cons_ne_nil column [])

theorem Resolves.unique {columns : List Column} {name : String} {column other : Column}
    (resolves : Resolves columns name column) (otherResolves : Resolves columns name other) :
    column = other := by
  have same := (resolves_iff.mp resolves).symm.trans (resolves_iff.mp otherResolves)
  exact List.singleton_inj.mp same

section

variable {scope : Scope} {function : FunctionDecl} {parameter : ParameterDecl}
  {column : Column} {comparison : Comparison}

theorem parameterComparison_eq_ok_iff :
    scope.parameterComparison function parameter = .ok comparison ↔
      ∃ column, Resolves scope.table.columns parameter.name column ∧
        scope.comparison column parameter = comparison := by
  simp only [resolves_iff]
  unfold Scope.parameterComparison
  cases columnsNamed scope.table.columns parameter.name with
  | nil => simp
  | cons first rest =>
      cases rest with
      | nil => simp
      | cons second others => simp

end

/-! ## Text of comparisons -/

/-- What a comparison says to the database. -/
def Comparison.test (comparison : Comparison) : ColumnTest :=
  match comparison.comparator with
  | .equal => .equals comparison.column.name
  | .same => .notDistinct comparison.column.name
  | .member => .equalsAny comparison.column.name

theorem Comparison.written_text (options : Options) (style : MarkerStyle)
    (comparison : Comparison) (binding : Binding) :
    SqlText.written style binding (comparison.text options) =
        comparison.test.text options (style.marker (binding.slots.length + 1)) ∧
      SqlText.bindAll style binding (comparison.text options) =
        { binding with slots := binding.slots ++ [comparison.slot] } := by
  obtain ⟨column, comparator, slot⟩ := comparison
  cases comparator with
  | equal =>
      simp [text, test, ColumnTest.text, SqlText.written, SqlText.layoutAfter,
        SqlText.bindAll, Binding.bind_none]
  | same =>
      simp [text, test, ColumnTest.text, SqlText.written, SqlText.layoutAfter,
        SqlText.bindAll, Binding.bind_none]
  | member =>
      simp [text, test, ColumnTest.text, SqlText.written, SqlText.layoutAfter,
        SqlText.bindAll, Binding.bind_none, String.append_assoc]

/-- The clause of some comparisons is that of their tests, and their slots are bound. -/
theorem Condition.written_clause (options : Options) (comparisons : List Comparison) :
    SqlText.written options.markers {} (.text " WHERE " :: (all comparisons).text options) =
        " WHERE " ++ " AND ".intercalate (((comparisons.map Comparison.test).zipIdx 1).map
          fun (test, number) => test.text options (options.markers.marker number)) ∧
      SqlText.bindAll options.markers {} (.text " WHERE " :: (all comparisons).text options) =
        { slots := comparisons.map Comparison.slot } := by
  obtain ⟨written, bound⟩ := SqlText.join_parts (Comparison.text options)
    (fun comparison number => comparison.test.text options (options.markers.marker number))
    Comparison.slot (Comparison.written_text options options.markers) " AND " {} comparisons
  rw [List.zipIdx_map, List.map_map]
  exact ⟨congrArg (" WHERE " ++ ·) written, bound⟩

section

variable {scope : Scope} {function : FunctionDecl}

/-- Each value parameter has its comparison, in their order. -/
theorem forall₂_of_mapM {ε α β : Type} {function : α → Except ε β} {values : List α}
    {results : List β} (success : values.mapM function = .ok results) :
    List.Forall₂ (fun value result => function value = .ok result) values results := by
  have same : List.Forall₂ (· = ·) (values.map function) (results.map .ok) := by
    rw [List.forall₂_eq_eq_eq]
    exact mapM_eq_ok_iff.mp success
  rwa [List.forall₂_map_left_iff, List.forall₂_map_right_iff] at same

theorem derivedCondition_written {condition : Option Condition}
    (success : scope.derivedCondition function = .ok condition) :
    ∃ comparisons : List Comparison,
      List.Forall₂ (fun parameter comparison => ∃ column,
        Resolves scope.table.columns parameter.name column ∧
          scope.comparison column parameter = comparison) function.values comparisons ∧
      SqlText.written scope.options.markers {} (Condition.clause scope.options condition) =
        ColumnTest.clauseText scope.options (comparisons.map Comparison.test) ∧
      SqlText.bindAll scope.options.markers {} (Condition.clause scope.options condition) =
        { slots := comparisons.map Comparison.slot } := by
  simp only [Scope.derivedCondition, bind_eq_ok_iff] at success
  obtain ⟨comparisons, found, success⟩ := success
  have resolved := (forall₂_of_mapM found).imp
    fun _ _ compared => parameterComparison_eq_ok_iff.mp compared
  refine ⟨comparisons, resolved, ?_⟩
  cases comparisons with
  | nil =>
      cases success
      exact ⟨rfl, rfl⟩
  | cons first rest =>
      cases success
      exact Condition.written_clause scope.options (first :: rest)

end

/-! ## Truth of comparisons -/

section

variable {A : Type} [DecidableEq A] {scope : Scope} {column : Column}
  {parameter : ParameterDecl}

theorem comparison_testsParameter :
    TestsParameter column parameter
      ((scope.comparison column parameter).test, (scope.comparison column parameter).slot) := by
  unfold Scope.comparison
  dsimp only
  split
  · exact ⟨rfl, rfl, rfl, rfl⟩
  · split
    · exact ⟨rfl, rfl, rfl, rfl⟩
    · exact ⟨rfl, rfl, rfl, rfl⟩

theorem comparison_truth {row : Row A} {argument : Argument A} :
    (scope.comparison column parameter).test.truth row
        ((scope.comparison column parameter).slot.bound argument) = some true ↔
      scope.Satisfies column parameter row argument := by
  -- The three comparators, in the order in which they are chosen.
  unfold Scope.comparison Scope.Satisfies
  dsimp only
  by_cases list : scope.catalog.isCollection parameter.type = true ∧
      column.columnType.isJson = false
  · have branch : (scope.catalog.isCollection parameter.type &&
        !column.columnType.isJson) = true := by
      simp [list]
    rw [if_pos list, if_pos branch]
    exact ColumnTest.truth_equalsAny
  · have branch : ¬ (scope.catalog.isCollection parameter.type &&
        !column.columnType.isJson) = true := by
      simpa using list
    rw [if_neg list, if_neg branch]
    by_cases nullable : parameter.type.nullable = true ∧ column.nullable = true
    · have both : (column.nullable && parameter.type.nullable) = true := by
        simp [nullable]
      rw [if_pos nullable, if_pos both]
      simp [Comparison.test, BindSlot.bound, ColumnTest.truth]
    · have both : ¬ (column.nullable && parameter.type.nullable) = true := by
        simpa [and_comm] using nullable
      rw [if_neg nullable, if_neg both]
      exact Cell.equal?_eq_true_iff

theorem path_comparison : (scope.comparison column parameter).slot.path = [parameter.name] := by
  have tests : TestsParameter column parameter ((scope.comparison column parameter).test,
      (scope.comparison column parameter).slot) := comparison_testsParameter
  exact tests.path

/-- The tests of comparisons are true together where each parameter has what it asks for. -/
theorem conditionTruth_iff {values : List ParameterDecl} {comparisons : List Comparison}
    (resolved : List.Forall₂ (fun parameter comparison => ∃ column,
      Resolves scope.table.columns parameter.name column ∧
        scope.comparison column parameter = comparison) values comparisons)
    (row : Row A) (arguments : List String → Argument A) :
    conditionTruth row (comparisons.map fun comparison => (comparison.test, comparison.slot))
        arguments = some true ↔
      ∀ parameter, parameter ∈ values → ∃ column,
        Resolves scope.table.columns parameter.name column ∧
          scope.Satisfies column parameter row (arguments [parameter.name]) := by
  rw [conditionTruth, Truth.all_eq_true_iff, List.map_map, List.forall_mem_map]
  -- Each comparison is against its own parameter, whichever parameters have one name.
  induction resolved with
  | nil => simp
  | @cons parameter comparison values comparisons compared _ induction =>
      obtain ⟨column, resolves, rfl⟩ := compared
      rw [List.forall_mem_cons, List.forall_mem_cons, induction]
      refine and_congr_left fun _ => ?_
      dsimp only [Function.comp_apply]
      rw [path_comparison, comparison_truth]
      constructor
      · intro satisfied
        exact ⟨column, resolves, satisfied⟩
      · rintro ⟨other, otherResolves, satisfied⟩
        rwa [resolves.unique otherResolves]

end

/-! ## Statements -/

section

variable {scope : Scope} {function : FunctionDecl}

theorem Suffix.keyed_text (suffix : Suffix) : suffix.text.keyed = [] := by
  have order : suffix.orderClause.keyed = [] := by
    unfold orderClause
    split
    · rfl
    · split
      · rfl
      · rfl
  have limit : suffix.limitClause.keyed = [] := by
    unfold limitClause
    split
    · rfl
    · rfl
    · rfl
    · rfl
    · rfl
  have page : suffix.pageClause.keyed = [] := by
    unfold pageClause
    split
    · rfl
    · rfl
  rw [text, SqlText.keyed_append, SqlText.keyed_append, order, limit, page]
  rfl

theorem Scope.Encloses.keyed_closing {opening : String} {closing : SqlText}
    (encloses : scope.Encloses function opening closing) : closing.keyed = [] := by
  cases encloses with
  | finder _ _ _ => exact Suffix.keyed_text _
  | count => rfl
  | existence => rfl
  | deleteByFields => rfl

/-- The kinds of functions whose condition may be derived from their parameters. -/
def derivedKinds : List Archetype :=
  [.finder, .count, .existence, .deleteByFields]

theorem Scope.Drafted.encloses {draft : Draft} (drafted : scope.Drafted function draft)
    (kind : scope.archetype function ∈ derivedKinds) :
    ∃ opening closing condition, scope.Encloses function opening closing ∧
      scope.condition function = .ok condition ∧
      draft.statement.text scope.options scope.table =
        .text opening :: (Condition.clause scope.options condition ++ closing) := by
  cases drafted with
  | save isSave => simp [isSave, derivedKinds] at kind
  | deleteEntity isDelete => simp [isDelete, derivedKinds] at kind
  | custom isCustom => simp [isCustom, derivedKinds] at kind
  | @deleteRows archetype condition isDelete deletes _ success =>
      rcases deletes with rfl | rfl
      · refine ⟨_, [], condition, .deleteByFields isDelete, success, ?_⟩
        rw [List.append_nil]
        rfl
      · simp [isDelete, derivedKinds] at kind
  | @find columns plan suffix condition isFinder rows suffixSuccess success =>
      exact ⟨_, suffix.text, condition, .finder isFinder rows suffixSuccess, success, rfl⟩
  | @value archetype statement plan condition isValue asks _ _ success =>
      rcases asks with ⟨rfl, rfl⟩ | ⟨rfl, rfl⟩
      · refine ⟨_, [], condition, .count isValue, success, ?_⟩
        rw [List.append_nil]
        rfl
      · exact ⟨_, [.text ")"], condition, .existence isValue, success, rfl⟩

theorem aboutValues_of_compiled {method : Method}
    (kind : scope.archetype function ∈ derivedKinds)
    (noText : (function.tag? TagName.condition).bind Tag.value? = none)
    (compiled : scope.compile function = .ok method) :
    ∃ opening tests closing, scope.AboutValues function method opening tests closing := by
  obtain ⟨draft, success, rfl⟩ := Scope.compile_eq_ok_iff.mp compiled
  obtain ⟨opening, closing, condition, encloses, conditionSuccess, text⟩ :=
    (Scope.drafted_of_draft success).encloses kind
  have derived : scope.derivedCondition function = .ok condition := by
    rcases Scope.condition_cases conditionSuccess with ⟨_, _, given, _⟩ | ⟨_, derived⟩
    · rw [noText] at given
      cases given
    · exact derived
  obtain ⟨comparisons, resolved, written, bound⟩ := derivedCondition_written derived
  -- The condition is laid out first, so that its slots come before those of the closing.
  refine ⟨opening, comparisons.map fun comparison => (comparison.test, comparison.slot),
    closing, encloses, ?_, ?_, ?_, fun A _ => conditionTruth_iff resolved⟩
  · rw [List.map_map, List.map_map, Draft.finish_sql, text, SqlText.written_text,
      SqlText.written_append, written, bound, ← String.append_assoc]
    rfl
  · rw [List.map_map, Draft.finish_slots, text, SqlText.bindAll, SqlText.bindAll_append, bound,
      SqlText.bindAll_unkeyed encloses.keyed_closing]
    rfl
  · apply List.forall₂_map_right_iff.mpr
    refine resolved.imp ?_
    rintro parameter _ ⟨column, resolves, rfl⟩
    exact ⟨column, resolves, comparison_testsParameter⟩

/-- A query or delete without a given text is about the rows that have the values of its
parameters. It is refused where the name of a parameter is that of several columns by the
first step that any column satisfies. -/
theorem compile_derived_condition {scope : Scope} {function : FunctionDecl}
    (kind : scope.archetype function ∈ derivedKinds)
    (noText : (function.tag? TagName.condition).bind Tag.value? = none) :
    (∀ method, scope.compile function = .ok method →
      ∃ opening tests closing, scope.AboutValues function method opening tests closing) ∧
    ∀ parameter found, parameter ∈ function.values →
      FirstMatch scope.table.columns (namingSteps parameter.name) found → 2 ≤ found.length →
      ∃ fault, scope.compile function = .error fault := by
  refine ⟨fun method => aboutValues_of_compiled kind noText, ?_⟩
  intro parameter found member first several
  cases compiled : scope.compile function with
  | error fault => exact ⟨fault, rfl⟩
  | ok method =>
      obtain ⟨_, tests, _, about⟩ := aboutValues_of_compiled kind noText compiled
      have resolved : List.Forall₂ (fun parameter _ => (∃ column,
          Resolves scope.table.columns parameter.name column) ∧ True) function.values tests :=
        about.tested.imp fun _ _ ⟨column, resolves, _⟩ => ⟨⟨column, resolves⟩, trivial⟩
      obtain ⟨column, resolves⟩ := ((List.forall₂_and_left _ _).mp resolved).1 parameter member
      have single := (firstMatch_namingSteps_iff.mp first).1
      rw [resolves_iff.mp resolves] at single
      rw [← single] at several
      exact absurd several (by simp)

end

namespace Car

/-- Finds the cars of a power among those with some keys. -/
def findAmong : FunctionDecl where
  name := "find_among"
  parameters := [⟨"power", .named "i32", []⟩, ⟨"id", .named "Vec" [.named "i64"], []⟩]
  returnType := .named "Vec" [{ target := entity }]

end Car

namespace Rental

/-- Rentals have a driver and an owner with names, a note or none, and labels. -/
def columns : List Column := [
  ⟨["id"], .named "i64", "id", .bigInt, true, false⟩,
  ⟨["driver", "name"], .named "String", "driver_name", .text, false, false⟩,
  ⟨["driver", "license"], .named "String", "driver_license", .text, false, false⟩,
  ⟨["owner", "name"], .named "String", "owner_name", .text, false, false⟩,
  ⟨["note"], { target := { name := .bare "String" }, nullable := true }, "note", .text,
    false, false⟩,
  ⟨["labels"], .named "Vec" [.named "String"], "labels", .jsonb, false, false⟩]

def scope : Scope where
  options := {}
  catalog := .builtin
  table := { entity := .bare "Rental", name := "rental", schema := none, columns, plan := none }
  entity := { name := .bare "Rental" }

/-- Counts rentals by a license, a note and some labels. -/
def countThose : FunctionDecl where
  name := "count_those"
  parameters := [⟨"license", .named "String", []⟩,
    ⟨"note", { target := { name := .bare "String" }, nullable := true }, []⟩,
    ⟨"labels", .named "Vec" [.named "String"], []⟩]
  returnType := .named "i64"

/-- Counts rentals by a name, which may be that of the driver or of the owner. -/
def countNamed : FunctionDecl where
  name := "count_named"
  parameters := [⟨"name", .named "String", []⟩]
  returnType := .named "i64"

end Rental

/-- Lists are searched, except in a column that holds them. A license is found by the name of its
field, and absent notes are equal. Of the two names neither is meant. -/
theorem compile_derived_condition_car :
    Car.scope.archetype Car.findAmong ∈ derivedKinds ∧
      ((Car.findAmong.tag? TagName.condition).bind Tag.value? = none) ∧
      (∃ method opening tests closing,
        Car.scope.compile Car.findAmong = .ok method ∧
        method.sql = "SELECT \"id\", \"power\", \"revision\" FROM \"car\" " ++
          "WHERE \"power\" = ? AND \"id\" = ANY(?)" ∧
        Car.scope.AboutValues Car.findAmong method opening tests closing) ∧
      Rental.scope.archetype Rental.countThose ∈ derivedKinds ∧
      (∃ method opening tests closing,
        Rental.scope.compile Rental.countThose = .ok method ∧
        method.sql = "SELECT count(*) FROM \"rental\" WHERE \"driver_license\" = ? " ++
          "AND \"note\" IS NOT DISTINCT FROM ? AND \"labels\" = ?" ∧
        Rental.scope.AboutValues Rental.countThose method opening tests closing) ∧
      Rental.scope.archetype Rental.countNamed ∈ derivedKinds ∧
      ∃ fault, Rental.scope.compile Rental.countNamed = .error fault := by
  have finder : Car.scope.archetype Car.findAmong = .finder := rfl
  have counts : Rental.scope.archetype Rental.countThose = .count ∧
      Rental.scope.archetype Rental.countNamed = .count := ⟨rfl, rfl⟩
  have kind : Car.scope.archetype Car.findAmong ∈ derivedKinds := by
    rw [finder]
    decide
  have countsThose : Rental.scope.archetype Rental.countThose ∈ derivedKinds := by
    rw [counts.1]
    decide
  have countsNamed : Rental.scope.archetype Rental.countNamed ∈ derivedKinds := by
    rw [counts.2]
    decide
  have noText : (Car.findAmong.tag? TagName.condition).bind Tag.value? = none := rfl
  refine ⟨kind, noText, ?_, countsThose, ?_, countsNamed, ?_⟩
  · obtain ⟨method, compiled, sql⟩ : ∃ method, Car.scope.compile Car.findAmong = .ok method ∧
        method.sql = "SELECT \"id\", \"power\", \"revision\" FROM \"car\" " ++
          "WHERE \"power\" = ? AND \"id\" = ANY(?)" :=
      ⟨_, rfl, rfl⟩
    obtain ⟨opening, tests, closing, about⟩ :=
      (compile_derived_condition kind noText).1 method compiled
    exact ⟨method, opening, tests, closing, compiled, sql, about⟩
  · obtain ⟨method, compiled, sql⟩ :
        ∃ method, Rental.scope.compile Rental.countThose = .ok method ∧
          method.sql = "SELECT count(*) FROM \"rental\" WHERE \"driver_license\" = ? " ++
            "AND \"note\" IS NOT DISTINCT FROM ? AND \"labels\" = ?" :=
      ⟨_, rfl, rfl⟩
    obtain ⟨opening, tests, closing, about⟩ :=
      (compile_derived_condition countsThose rfl).1 method compiled
    exact ⟨method, opening, tests, closing, compiled, sql, about⟩
  · have several : FirstMatch Rental.columns (namingSteps "name")
        (Rental.columns.filter fun column => column.leaf == "name") :=
      .later rfl (.later rfl (.here (List.cons_ne_nil _ _)))
    exact (compile_derived_condition countsNamed rfl).2 _ _ List.mem_cons_self several
      (Nat.le_refl 2)

end RowPlan
