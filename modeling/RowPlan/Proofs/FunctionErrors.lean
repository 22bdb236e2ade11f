import RowPlan.Proofs.Drafts
import RowPlan.Proofs.Saving

/-!
# Errors of functions

What goes wrong in compiling a function is to be reported at the function, so an error has to say
whose it is. Every step of compiling names the function in its errors, up to one: the plan for the
rows of a given text fails with nothing but the type of the rows.
-/

namespace RowPlan

/-- Where a step in compiling a function fails, its error names the function. -/
def FunctionDecl.Reports {α : Type} (function : FunctionDecl) (result : Except CompileError α) :
    Prop :=
  ∀ error, result = .error error → error.function? = some function.name

/-- There is no plan for the rows of a given text: they are something, but neither single values
nor the entity, and of no class with fields. -/
structure Scope.Unplanned (scope : Scope) (shape : ReturnShape) : Prop where
  something : shape.isUnit = false
  several : shape.isScalar = false
  foreign : shape.row.name ≠ scope.entity.name
  fieldless : shape.row.target.isComposite = false

/-- A function gives a text that can be bound, with modifiers that can be taken, but there is no
plan for its rows. -/
structure Scope.LacksPlan (scope : Scope) (function : FunctionDecl) : Prop where
  kind : scope.archetype function = .custom
  text : ∃ tag isStatement text bound, Scope.givenText function = some (tag, isStatement) ∧
    tag.value? = some text ∧ scope.bindText function text = .ok bound
  suffix : ∃ suffix,
    scope.suffix function (ReturnShape.of scope.catalog function.returnType) false = .ok suffix
  unplanned : scope.Unplanned (ReturnShape.of scope.catalog function.returnType)

/-! ## Steps that may fail -/

namespace FunctionDecl

variable {function : FunctionDecl} {α β : Type}

theorem reports_ok (value : α) : function.Reports (.ok value) :=
  nofun

theorem reports_error {error : CompileError} (named : error.function? = some function.name) :
    function.Reports (.error error : Except CompileError α) := by
  rintro _ ⟨⟩
  exact named

theorem reports_ite {condition : Prop} [Decidable condition]
    {first second : Except CompileError α} (here : function.Reports first)
    (there : function.Reports second) :
    function.Reports (if condition then first else second) := by
  split
  · exact here
  · exact there

theorem Reports.bind {first : Except CompileError α} {next : α → Except CompileError β}
    (here : function.Reports first)
    (later : ∀ value, first = .ok value → function.Reports (next value)) :
    function.Reports (first >>= next) := by
  cases first with
  | error fault =>
      rintro _ ⟨⟩
      exact here fault rfl
  | ok value => exact later value rfl

theorem Reports.map {first : Except CompileError α} (here : function.Reports first)
    (change : α → β) : function.Reports (first.map change) := by
  intro error failed
  exact here error (map_eq_error_iff.mp failed)

theorem Reports.mapM {values : List β} {step : β → Except CompileError α}
    (each : ∀ value, function.Reports (step value)) : function.Reports (values.mapM step) := by
  intro error failed
  obtain ⟨_, value, _, _, _, failing⟩ := mapM_eq_error_iff.mp failed
  exact each value error failing

theorem checkUsed_reports (used : List String) : function.Reports (function.checkUsed used) := by
  unfold checkUsed
  split
  · exact reports_ok ()
  · exact reports_error rfl

theorem checkValuesOnly_reports : function.Reports function.checkValuesOnly := by
  unfold checkValuesOnly
  split
  · exact reports_ok ()
  · exact reports_error rfl

theorem literalLimit_reports : function.Reports function.literalLimit := by
  unfold literalLimit
  split
  · exact reports_ok none
  · dsimp only
    split
    · exact reports_ok _
    · exact reports_error rfl

end FunctionDecl

open FunctionDecl (reports_ok reports_error reports_ite)

theorem Catalog.projectionPlan_reports {catalog : Catalog} {function : FunctionDecl}
    (projection : ClassDecl) (columns : List Column) :
    function.Reports (catalog.projectionPlan function.name projection columns) := by
  unfold Catalog.projectionPlan
  split
  · exact reports_ok _
  · exact reports_error rfl
  · exact reports_error rfl

/-- A value of a known type or of an enumeration can be read. -/
theorem Catalog.exists_scalarPlan {catalog : Catalog} {type : TypeUse}
    (known : type.target.isEnum = true ∨ (catalog.resolve type).isSome = true) :
    ∃ plan, catalog.scalarPlan type = .ok plan := by
  unfold scalarPlan
  split
  case h_1 => exact ⟨_, rfl⟩
  case h_2 unknown =>
    rw [unknown] at known
    rw [if_pos (known.resolve_right nofun)]
    exact ⟨_, rfl⟩

/-- A number or a truth value that is asked for is of a known type. -/
theorem Catalog.resolve_of_readingArchetype {catalog : Catalog} {type : TypeUse}
    (asks : catalog.readingArchetype type ≠ .finder) :
    (catalog.resolve (ReturnShape.of catalog type).row).isSome = true := by
  unfold readingArchetype at asks
  dsimp only at asks
  split at asks
  · exact (asks rfl).elim
  · cases known : catalog.resolve (ReturnShape.of catalog type).row with
    | some _ => rfl
    | none => exact (asks (by rw [known]; rfl)).elim

namespace Scope

variable {scope : Scope} {function : FunctionDecl}

/-! ## Conditions and modifiers -/

theorem bindPlaceholders_reports (pieces : List Segment) :
    function.Reports (scope.bindPlaceholders function pieces) := by
  induction pieces with
  | nil => exact reports_ok []
  | cons piece rest induction =>
      cases piece with
      | text part =>
          rw [bindPlaceholders]
          exact induction.bind fun _ _ => reports_ok _
      | value name isList =>
          rw [bindPlaceholders]
          split
          · exact reports_error rfl
          · exact induction.bind fun _ _ => reports_ok _

theorem bindText_reports (text : String) : function.Reports (scope.bindText function text) := by
  refine (bindPlaceholders_reports _).bind fun _ _ => ?_
  exact (FunctionDecl.checkUsed_reports _).bind fun _ _ => reports_ok _

theorem parameterComparison_reports (parameter : ParameterDecl) :
    function.Reports (scope.parameterComparison function parameter) := by
  unfold parameterComparison
  split
  · exact reports_ok _
  · exact reports_error rfl
  · exact reports_error rfl

theorem condition_reports : function.Reports (scope.condition function) := by
  unfold condition
  split
  · exact (bindText_reports _).bind fun _ _ => reports_ok _
  · refine (FunctionDecl.Reports.mapM parameterComparison_reports).bind fun comparisons _ => ?_
    split
    · exact reports_ok none
    · exact reports_ok _

theorem suffix_reports (shape : ReturnShape) (capped : Bool) :
    function.Reports (scope.suffix function shape capped) := by
  -- Each check ends the reading where it fails.
  exact reports_ite (reports_error rfl) <| reports_ite (reports_error rfl) <|
    FunctionDecl.literalLimit_reports.bind fun _ _ =>
      reports_ite (reports_error rfl) (reports_ok _)

/-! ## Plans -/

theorem rows_reports (row : TypeUse) : function.Reports (scope.rows function row) := by
  unfold rows
  refine reports_ite ?_ (reports_ite ?_ (reports_error rfl))
  · split
    · exact reports_ok _
    · exact reports_error rfl
  · exact (Catalog.projectionPlan_reports _ _).bind fun _ _ => reports_ok _

theorem Unplanned.customPlan_eq {shape : ReturnShape} (unplanned : scope.Unplanned shape) :
    scope.customPlan function shape = .error (.unmappableType shape.row.text) := by
  simp [customPlan, unplanned.something, unplanned.several, unplanned.foreign,
    unplanned.fieldless]

theorem customPlan_reports
    (planned : ¬ scope.Unplanned (ReturnShape.of scope.catalog function.returnType)) :
    function.Reports
      (scope.customPlan function (ReturnShape.of scope.catalog function.returnType)) := by
  unfold customPlan
  split
  case isTrue => exact reports_ok none
  case isFalse something =>
    split
    case isTrue scalar =>
      obtain ⟨plan, success⟩ := Catalog.exists_scalarPlan
        (Bool.or_eq_true_iff.mp (Bool.and_eq_true_iff.mp scalar).2)
      exact FunctionDecl.Reports.map (success ▸ reports_ok plan) some
    case isFalse several =>
      split
      case isTrue => exact reports_ok _
      case isFalse foreign =>
        split
        case isTrue => exact (Catalog.projectionPlan_reports _ _).bind fun _ _ => reports_ok _
        case isFalse fieldless =>
          rw [Bool.not_eq_true] at something several fieldless
          exact (planned ⟨something, several, foreign, fieldless⟩).elim

/-! ## Kinds of methods -/

theorem save_reports : function.Reports (scope.save function) := by
  unfold save
  split
  · split
    · exact reports_error rfl
    · exact reports_ok _
  · exact reports_error rfl

theorem delete_reports (archetype : Archetype) :
    function.Reports (scope.delete function archetype) := by
  have rows : function.Reports (scope.deleteRows function archetype) :=
    condition_reports.bind fun _ _ => reports_ok _
  refine FunctionDecl.checkValuesOnly_reports.bind fun _ _ => ?_
  split
  · exact reports_ok _
  · exact rows

theorem find_reports : function.Reports (scope.find function) :=
  (rows_reports _).bind fun _ _ => (suffix_reports _ _).bind fun _ _ =>
    condition_reports.bind fun _ _ => reports_ok _

theorem deletingArchetype_cases (scope : Scope) (function : FunctionDecl) :
    scope.deletingArchetype function = .deleteWhere ∨
      scope.deletingArchetype function = .deleteByEntity ∨
      scope.deletingArchetype function = .deleteByFields := by
  unfold deletingArchetype
  split
  · exact .inl rfl
  · split
    · split
      · exact .inr (.inl rfl)
      · exact .inr (.inr rfl)
    · exact .inr (.inr rfl)

/-- A number or a truth value is asked for by the type of the result alone. -/
theorem readingArchetype_of_asks
    (asks : scope.archetype function = .count ∨ scope.archetype function = .existence) :
    scope.catalog.readingArchetype function.returnType ≠ .finder := by
  unfold archetype at asks
  split at asks
  · simp at asks
  · split at asks
    · simp at asks
    · split at asks
      · rcases deletingArchetype_cases scope function with deletes | deletes | deletes
        all_goals simp [deletes] at asks
      · rcases asks with asks | asks
        all_goals simp [asks]

theorem findValue_reports {archetype : Archetype} (statement : Option Condition → Statement)
    (asks : scope.archetype function = .count ∨ scope.archetype function = .existence) :
    function.Reports (scope.findValue function archetype statement) := by
  obtain ⟨plan, planned⟩ := Catalog.exists_scalarPlan
    (.inr (Catalog.resolve_of_readingArchetype (readingArchetype_of_asks asks)))
  refine FunctionDecl.checkValuesOnly_reports.bind fun _ _ => ?_
  refine FunctionDecl.Reports.bind (planned ▸ reports_ok plan) fun _ _ => ?_
  exact condition_reports.bind fun _ _ => reports_ok _

theorem custom_reports (planned : ¬ scope.LacksPlan function)
    (kind : scope.archetype function = .custom) : function.Reports (scope.custom function) := by
  unfold custom
  cases given : givenText function with
  | none => exact reports_error rfl
  | some pair =>
      obtain ⟨tag, isStatement⟩ := pair
      simp only [pure_bind]
      split
      case h_2 => exact reports_error rfl
      case h_1 text content =>
        refine (suffix_reports _ _).bind fun suffix taken => ?_
        refine (bindText_reports _).bind fun bound binds => ?_
        refine (customPlan_reports fun unplanned => planned ?_).bind fun _ _ => reports_ok _
        exact ⟨kind, ⟨tag, isStatement, text, bound, given, content, binds⟩, ⟨suffix, taken⟩,
          unplanned⟩

theorem draft_reports (planned : ¬ scope.LacksPlan function) :
    function.Reports (scope.draft function) := by
  unfold draft
  split
  case h_1 => exact save_reports
  case h_2 | h_3 | h_4 => exact delete_reports _
  case h_5 => exact find_reports
  case h_6 kind => exact findValue_reports .count (.inl kind)
  case h_7 kind => exact findValue_reports .existence (.inr kind)
  case h_8 kind => exact custom_reports planned kind

/-- Where the rows of a given text have no plan, the error tells their type and no function. -/
theorem LacksPlan.compile_eq (lacking : scope.LacksPlan function) :
    scope.compile function =
      .error (.unmappableType
        (ReturnShape.of scope.catalog function.returnType).row.text) := by
  obtain ⟨kind, ⟨tag, isStatement, text, bound, given, content, binds⟩, ⟨suffix, taken⟩,
    unplanned⟩ := lacking
  simp only [compile, draft, kind, custom, given, content, pure_bind, taken, binds, ok_bind,
    unplanned.customPlan_eq]
  rfl

/-- An error of compiling names the function that is compiled, unless it is that there is no
plan for the rows of a given text, which is told of the type of the rows alone. -/
theorem compile_error_names_iff {error : CompileError}
    (failed : scope.compile function = .error error) :
    (error.function? = some function.name ↔ ¬ scope.LacksPlan function) ∧
      (scope.LacksPlan function → error =
        .unmappableType (ReturnShape.of scope.catalog function.returnType).row.text) := by
  have lacks (lacking : scope.LacksPlan function) : error =
      .unmappableType (ReturnShape.of scope.catalog function.returnType).row.text :=
    Except.error.inj (failed.symm.trans lacking.compile_eq)
  refine ⟨⟨fun named lacking => ?_, fun planned => ?_⟩, lacks⟩
  · rw [lacks lacking] at named
    cases named
  · exact draft_reports planned error (map_eq_error_iff.mp failed)

end Scope

/-! ### Queries of a repository of cars -/

namespace Car

/-- A query with a given text, whose rows are of a class that nothing is known of. -/
def ratings (text : String) : FunctionDecl where
  name := "ratings"
  tags := [.valued TagName.query text]
  returnType := .named "Vec" [.named "Rating"]

end Car

/-- A placeholder that names no parameter is reported before the rows are planned. -/
theorem Scope.compile_error_names_iff_placeholder :
    Car.scope.compile (Car.ratings "SELECT :power") =
        .error (.unknownParameter "ratings" "power") ∧
      ¬ Car.scope.LacksPlan (Car.ratings "SELECT :power") :=
  ⟨rfl, (Scope.compile_error_names_iff rfl).1.mp rfl⟩

/-- The error says which rows have no plan, but not which function returns them. -/
theorem Car.compile_error_unnamed :
    ∃ error, Car.scope.compile (Car.ratings "SELECT 1") = .error error ∧
      error.function? ≠ some (Car.ratings "SELECT 1").name :=
  ⟨.unmappableType "Rating", rfl, nofun⟩

end RowPlan
