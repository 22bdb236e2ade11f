import RowPlan.Proofs.BaseFunctions

/-!
# Declared classes

A class that the model declares is not looked up in the catalog. Its name still counts where a
result is taken for a list, so that a class named like a list container is not returned as a row.
-/

namespace RowPlan

/-- The model declares the class: it has fields, or it is an enumeration. -/
def ClassDecl.IsDeclared (cls : ClassDecl) : Prop :=
  cls.fields ≠ [] ∨ cls.isEnum = true

section

variable {type : TypeUse} (declared : type.target.IsDeclared)

include declared

theorem Catalog.resolve_declared (catalog : Catalog) : catalog.resolve type = none := by
  have known : (type.target.isComposite || type.target.isEnum) = true := by
    rcases declared with fields | isEnum
    · simp [ClassDecl.isComposite, fields]
    · simp [isEnum]
  rw [resolve, if_pos known]

theorem Catalog.isCollection_declared (catalog : Catalog) :
    catalog.isCollection type = type.name.isList := by
  simp [isCollection, catalog.resolve_declared declared]

end

/-! ## Shapes -/

namespace ReturnShape

/-- The shape of one row of a declared class. -/
def ofRow (type : TypeUse) : ReturnShape where
  row := type
  isCollection := false
  isPage := false
  isScalar := !type.name.isUnit && type.target.isEnum
  isUnit := type.name.isUnit

theorem of_declared_iff {catalog : Catalog} {type : TypeUse} (declared : type.target.IsDeclared)
    (noPage : type.name.isPage = false) :
    of catalog type = ofRow type ↔ type.name.isList = false := by
  rw [← catalog.isCollection_declared declared]
  constructor
  · intro same
    have collection := congrArg isCollection same
    simpa [of, ofRow, noPage] using collection
  · intro single
    simp [of, ofRow, noPage, single, catalog.resolve_declared declared]

end ReturnShape

/-! ## Finders of one row -/

namespace Scope

variable {scope : Scope} {function : FunctionDecl}

/-- A query for one row of the declared result can be put together. -/
structure Answers (scope : Scope) (function : FunctionDecl) : Prop where
  rows : ∃ columns plan, scope.rows function function.returnType = .ok (columns, plan)
  suffix : ∃ suffix,
    scope.suffix function (ReturnShape.ofRow function.returnType) true = .ok suffix
  condition : ∃ condition, scope.condition function = .ok condition

/-- The function is compiled to a query for one row of the result that it declares. -/
def FindsRow (scope : Scope) (function : FunctionDecl) : Prop :=
  ∃ method, scope.compile function = .ok method ∧ method.rowType = function.returnType ∧
    method.isSingleResult = true

theorem draft_of_finder (kind : scope.archetype function = .finder) :
    scope.draft function = scope.find function := by
  simp only [draft, kind]

theorem findsRow_iff_answers (kind : scope.archetype function = .finder)
    (shape : ReturnShape.of scope.catalog function.returnType =
      ReturnShape.ofRow function.returnType) :
    scope.FindsRow function ↔ scope.Answers function := by
  constructor
  · rintro ⟨method, compiled, _⟩
    obtain ⟨found, success, rfl⟩ := compile_eq_ok_iff.mp compiled
    rw [draft_of_finder kind] at success
    simp only [find, shape, bind_eq_ok_iff] at success
    obtain ⟨⟨columns, plan⟩, rows, suffix, suffixed, condition, conditioned, _⟩ := success
    exact ⟨⟨columns, plan, rows⟩, ⟨suffix, suffixed⟩, condition, conditioned⟩
  · rintro ⟨⟨columns, plan, rows⟩, ⟨suffix, suffixed⟩, condition, conditioned⟩
    have found : ∃ draft, scope.find function = .ok draft ∧
        draft.rowType = function.returnType ∧ draft.isSingleResult = true := by
      simp only [find, shape, bind_eq_ok_iff]
      exact ⟨_, ⟨_, rows, suffix, suffixed, condition, conditioned, rfl⟩, rfl, rfl⟩
    obtain ⟨draft, success, row, single⟩ := found
    exact ⟨_, compile_eq_ok_iff.mpr ⟨draft, (draft_of_finder kind).trans success, rfl⟩, row, single⟩

theorem isMany_of_isSingleResult {method : Method} (kind : scope.archetype function = .finder)
    (compiled : scope.compile function = .ok method) (single : method.isSingleResult = true) :
    (ReturnShape.of scope.catalog function.returnType).isMany = false := by
  obtain ⟨found, success, rfl⟩ := compile_eq_ok_iff.mp compiled
  rw [draft_of_finder kind] at success
  simp only [find, bind_eq_ok_iff] at success
  obtain ⟨_, _, _, _, _, _, equality⟩ := success
  cases equality
  simp only [Draft.finish, MethodFacts.isSingleResult, Bool.and_eq_true, Bool.not_eq_true'] at single
  exact single.1.1.1.1

theorem isMany_of_findsRow (kind : scope.archetype function = .finder)
    (finds : scope.FindsRow function) :
    (ReturnShape.of scope.catalog function.returnType).isMany = false := by
  obtain ⟨method, compiled, _, single⟩ := finds
  exact isMany_of_isSingleResult kind compiled single

end Scope

/-- A declared class is not looked up in the catalog. It is taken for a row, and is returned by
queries for one row, exactly where its name is not that of a list container. -/
theorem declared_is_row_iff (catalog : Catalog) {type : TypeUse}
    (declared : type.target.IsDeclared) :
    catalog.resolve type = none ∧
    (catalog.isCollection type = false ↔ type.name.isList = false) ∧
    (type.name.isPage = false →
      (ReturnShape.of catalog type = ReturnShape.ofRow type ↔ type.name.isList = false) ∧
      ∀ (scope : Scope) (function : FunctionDecl), scope.catalog = catalog →
        function.returnType = type → scope.archetype function = .finder →
        (scope.FindsRow function ↔ type.name.isList = false ∧ scope.Answers function)) := by
  refine ⟨catalog.resolve_declared declared, ?_, ?_⟩
  · rw [catalog.isCollection_declared declared]
  · intro noPage
    have shape : ReturnShape.of catalog type = ReturnShape.ofRow type ↔
        type.name.isList = false := ReturnShape.of_declared_iff declared noPage
    refine ⟨shape, ?_⟩
    rintro scope function rfl rfl kind
    constructor
    · intro finds
      have collection := (Bool.or_eq_false_iff.mp (Scope.isMany_of_findsRow kind finds)).1
      have single : function.returnType.name.isList = false := by
        rw [← scope.catalog.isCollection_declared declared]
        simpa [ReturnShape.of, noPage] using collection
      exact ⟨single, (Scope.findsRow_iff_answers kind (shape.mpr single)).mp finds⟩
    · rintro ⟨single, answers⟩
      exact (Scope.findsRow_iff_answers kind (shape.mpr single)).mpr answers

namespace Playlist

/-- An entity under a name of its own choice. -/
def entity (name : String) : ClassDecl where
  name := .bare name
  tags := [⟨TagName.table, [("name", "playlist")]⟩]
  fields := [⟨"id", .named "i64", [⟨TagName.id, []⟩, Car.columnTag "id"]⟩]

def table (name : String) : Table where
  entity := .bare name
  name := "playlist"
  schema := none
  columns := [⟨["id"], .named "i64", "id", .bigInt, true, false⟩]
  plan := some (.build none (.bare name) [Car.readNumber "id" "i64"])

def scope (name : String) : Scope where
  options := {}
  catalog := .builtin
  table := table name
  entity := entity name

def findById (name : String) : FunctionDecl where
  name := "find_by_id"
  parameters := [⟨"id", .named "i64", []⟩]
  returnType := { target := entity name }

end Playlist

/-- A declared class can be named like the map container. -/
theorem declared_is_row_iff_map :
    Catalog.builtin.resolve (Playlist.findById "Map").returnType = none ∧
      (Playlist.scope "Map").FindsRow (Playlist.findById "Map") := by
  obtain ⟨unresolved, _, row⟩ := declared_is_row_iff .builtin
    (show (Playlist.findById "Map").returnType.target.IsDeclared from .inl nofun)
  have finds := ((row rfl).2 (Playlist.scope "Map") (Playlist.findById "Map") rfl rfl rfl).mpr
    ⟨by decide, ⟨_, _, rfl⟩, ⟨_, rfl⟩, ⟨_, rfl⟩⟩
  exact ⟨unresolved, finds⟩

/-- A declared class that is named like the list container is refused as a row. -/
theorem findList_unsupported :
    (Playlist.entity "List").IsDeclared ∧
      Table.build {} .builtin (Playlist.entity "List") none = .ok (Playlist.table "List") ∧
      Catalog.builtin.isCollection (Playlist.findById "List").returnType = true ∧
      ReturnShape.of .builtin (Playlist.findById "List").returnType ≠
        ReturnShape.ofRow (Playlist.findById "List").returnType ∧
      (Playlist.scope "List").compile (Playlist.findById "List") =
        .error (.unsupportedReturnType "find_by_id" "List") :=
  ⟨.inl nofun, rfl, by decide,
    fun same => absurd (congrArg ReturnShape.isCollection same) (by decide), rfl⟩

end RowPlan
