import RowPlan.Proofs.KeySearch
import RowPlan.Proofs.PlannedFields
import RowPlan.Proofs.RoundTrip

/-!
# Projections onto the fields of the entity

A projection looks for a field by its whole path, and then among the columns whose
path ends with it. Onto the fields of the entity itself it makes the plan of the
entity, unless the path of a value object is the end of the path of a column: then
that value object is taken for the column.
-/

namespace RowPlan

/-- The path leads to a value object among some fields, one without a column of its
own. -/
inductive ValueObjectAt (catalog : Catalog) :
    List String → List FieldDecl → List String → Prop where
  | here {path : List String} {field : FieldDecl} {rest : List FieldDecl} :
      catalog.fieldColumnType field = none →
      ValueObjectAt catalog path (field :: rest) (path ++ [field.name])
  | inside {path target : List String} {field : FieldDecl} {rest : List FieldDecl} :
      catalog.fieldColumnType field = none →
      ValueObjectAt catalog (path ++ [field.name]) field.type.target.fields target →
      ValueObjectAt catalog path (field :: rest) target
  | later {path target : List String} {field : FieldDecl} {rest : List FieldDecl} :
      ValueObjectAt catalog path rest target →
      ValueObjectAt catalog path (field :: rest) target

theorem ValueObjectAt.ne_nil {catalog : Catalog} {path target : List String}
    {fields : List FieldDecl} (found : ValueObjectAt catalog path fields target) :
    target ≠ [] := by
  induction found with
  | here => simp
  | inside _ _ induction => exact induction
  | later _ induction => exact induction

/-- What lies between the fields and a column is a value object. -/
theorem Flattens.valueObjectAt {catalog : Catalog} {path : List String}
    {fields : List FieldDecl} {columns : List Column}
    (flattens : Flattens catalog path fields columns) {column : Column}
    (member : column ∈ columns) {first name : String} {above below : List String}
    (shape : column.path = path ++ first :: above ++ name :: below) :
    ValueObjectAt catalog path fields (path ++ first :: above) := by
  induction flattens generalizing first above with
  | nil => cases member
  | @leaf path field rest columnType others _ _ induction =>
      rcases List.mem_cons.mp member with here | later
      · subst here
        have lengths := congrArg List.length shape
        simp [leafColumn] at lengths
      · exact .later (induction later shape)
  | @composite path field rest own others untyped _ _ ownFlattens _ ownInduction induction =>
      rcases List.mem_append.mp member with nested | later
      · obtain ⟨inner, _, deeper, equality⟩ := ownFlattens.path_below column nested
        have same : first = field.name := by
          have paths := equality.symm.trans shape
          simp only [List.append_assoc, List.append_cancel_left_eq, List.cons_append,
            List.nil_append, List.cons.injEq] at paths
          exact paths.1.symm
        subst same
        cases above with
        | nil => exact .here untyped
        | cons second above =>
            have deeperShape : column.path =
                path ++ [field.name] ++ second :: above ++ name :: below := by
              simpa using shape
            have inside := ownInduction nested deeperShape
            exact .inside untyped (by simpa using inside)
      · exact .later (induction later shape)

/-! ## Plans and the columns they read -/

theorem Mirrors.unique {catalog : Catalog} {path : List String} {fields : List FieldDecl}
    {left right : List ReadPlan} (mirrors : Mirrors catalog path fields left)
    (others : Mirrors catalog path fields right) : left = right := by
  induction mirrors generalizing right with
  | nil =>
      cases others
      rfl
  | leaf known _ induction =>
      cases others with
      | leaf otherKnown rest =>
          obtain rfl := Option.some.inj (known.symm.trans otherKnown)
          rw [induction rest]
      | composite untyped => simp [untyped] at known
  | composite untyped _ _ ownInduction induction =>
      cases others with
      | leaf known => simp [untyped] at known
      | composite _ own rest => rw [ownInduction own, induction rest]

theorem Mirrors.columnsOfParts {catalog : Catalog} {path : List String}
    {fields : List FieldDecl} {columns : List Column} {parts : List ReadPlan}
    (mirrors : Mirrors catalog path fields parts)
    (flattens : Flattens catalog path fields columns) :
    ReadPlan.columnsOfParts parts = columns.map Column.name := by
  induction flattens generalizing parts with
  | nil =>
      cases mirrors
      rfl
  | leaf known _ induction =>
      cases mirrors with
      | leaf otherKnown others =>
          obtain rfl := Option.some.inj (known.symm.trans otherKnown)
          simp [ReadPlan.columnsOfParts, ReadPlan.columns, Catalog.extractor,
            induction others]
      | composite untyped => simp [untyped] at known
  | composite untyped _ _ _ _ ownInduction induction =>
      cases mirrors with
      | leaf known => simp [untyped] at known
      | composite _ own others =>
          simp [ReadPlan.columnsOfParts, ReadPlan.columns, ownInduction own,
            induction others]

/-- A column with a name of its own is found under it. -/
theorem find?_name_of_mem {columns : List Column} (names : (columns.map Column.name).Nodup)
    {column : Column} (member : column ∈ columns) :
    (columns.find? fun other => other.name == column.name) = some column :=
  (find?_key_eq_some_iff names).mpr ⟨member, rfl⟩

/-- Columns with names of their own are found under these names, one by one. -/
theorem filterMap_find?_names {columns : List Column}
    (names : (columns.map Column.name).Nodup) :
    (columns.map Column.name).filterMap
        (fun name => columns.find? fun column => column.name == name) = columns := by
  rw [List.filterMap_map]
  exact (List.filterMap_congr fun _ => find?_name_of_mem names).trans List.filterMap_some

/-! ## The identity projection -/

section

variable {catalog : Catalog} {columns : List Column}

/-- A path is bound to nothing exactly where it does not end the path of a column. -/
theorem Catalog.columnsMatching_eq_nil_iff {path : List String} (some : path ≠ []) :
    columnsMatching columns path = [] ↔
      ∀ column, column ∈ columns → ¬path <:+ column.path := by
  have ends : ∀ column : Column, column.endsWith path = true ↔ path <:+ column.path := by
    intro column
    simp [Column.endsWith, some]
  constructor
  · intro none column member suffix
    unfold columnsMatching at none
    split at none
    case h_1 =>
      simp only [List.filter_eq_nil_iff] at none
      exact none column member ((ends column).mpr suffix)
    case h_2 => contradiction
  · intro apart
    have noExact : exactColumns columns path = [] := by
      simp only [exactColumns, List.filter_eq_nil_iff, beq_iff_eq]
      intro column member same
      exact apart column member (same ▸ List.suffix_rfl)
    rw [columnsMatching, noExact]
    simp only [List.filter_eq_nil_iff, ends]
    exact apart

/-- Where no column ends with the path of a value object, looking among the ends of
paths is as good as looking for whole paths. -/
theorem Flattens.resolvesAlone_columnsMatching {fields : List FieldDecl}
    (flattens : Flattens catalog [] fields columns)
    (apart : columns.Pairwise fun left right => Incomparable left.path right.path)
    (clear : ∀ path, ValueObjectAt catalog [] fields path →
      ∀ column, column ∈ columns → ¬path <:+ column.path) :
    ResolvesAlone (Catalog.columnsMatching columns) columns where
  here column member := by
    simp [Catalog.columnsMatching,
      Catalog.exactColumns_of_mem (paths_nodup_of_apart apart) member]
  above column member path name below equality := by
    cases path with
    | nil =>
        have noExact := (Catalog.resolvesAlone_exactColumns apart).above column member [] name
          below equality
        simp [Catalog.columnsMatching, noExact, Column.endsWith]
    | cons first above =>
        have found : ValueObjectAt catalog [] fields ([] ++ first :: above) :=
          flattens.valueObjectAt member equality
        exact (Catalog.columnsMatching_eq_nil_iff (by simp)).mpr (clear _ found)

/-- A plan that mirrors the fields was made without a column for any value object. -/
theorem Mirrors.resolve_valueObject {resolve : List String → List Column}
    {path target : List String} {fields : List FieldDecl} {parts : List ReadPlan}
    (mirrors : Mirrors catalog path fields parts)
    (planned : catalog.planFields resolve path fields = .ok parts)
    (found : ValueObjectAt catalog path fields target) : resolve target = [] := by
  induction mirrors generalizing target with
  | nil => cases found
  | leaf known _ induction =>
      obtain ⟨_, others, equality, othersPlanned, _⟩ :=
        Catalog.planFields_cons_eq_ok planned
      cases equality
      cases found with
      | here untyped => simp [untyped] at known
      | inside untyped => simp [untyped] at known
      | later found => exact induction othersPlanned found
  | composite untyped _ _ ownInduction induction =>
      obtain ⟨_, others, equality, othersPlanned, way⟩ :=
        Catalog.planFields_cons_eq_ok planned
      cases equality
      rcases way with ⟨_, _, read⟩ | ⟨unresolved, _, nested, nestedPlanned, build⟩
      · cases read
      · cases build
        cases found with
        | here => exact unresolved
        | inside _ found => exact ownInduction nestedPlanned found
        | later found => exact induction othersPlanned found

/-- Without columns only a class without fields is mirrored. -/
theorem Mirrors.fields_eq_nil {resolve : List String → List Column} {path : List String}
    {fields : List FieldDecl} {parts : List ReadPlan}
    (mirrors : Mirrors catalog path fields parts)
    (planned : catalog.planFields resolve path fields = .ok parts)
    (none : ∀ path, resolve path = []) : fields = [] := by
  induction mirrors with
  | nil => rfl
  | leaf =>
      obtain ⟨_, others, equality, _, way⟩ := Catalog.planFields_cons_eq_ok planned
      cases equality
      rcases way with ⟨column, resolved, _⟩ | ⟨_, _, nested, _, build⟩
      · simp [none] at resolved
      · cases build
  | composite untyped _ _ ownInduction =>
      obtain ⟨_, others, equality, _, way⟩ := Catalog.planFields_cons_eq_ok planned
      cases equality
      rcases way with ⟨_, _, read⟩ | ⟨_, composite, nested, nestedPlanned, build⟩
      · cases read
      · cases build
        exact (ClassDecl.fields_ne_nil composite (ownInduction nestedPlanned)).elim

end

theorem Catalog.projectionPlan_of_planFields {catalog : Catalog} {function : String}
    {view : ClassDecl} {columns : List Column} {parts : List ReadPlan}
    (planned : catalog.planFields (columnsMatching columns) [] view.fields = .ok parts) :
    catalog.projectionPlan function view columns =
      .ok (.build none view.name parts, (ReadPlan.columnsOfParts parts).filterMap fun name =>
        columns.find? fun column => column.name == name) := by
  rw [projectionPlan, plan_of_planFields none planned]
  rfl

theorem Catalog.planFields_of_projectionPlan {catalog : Catalog} {function : String}
    {view : ClassDecl} {columns used : List Column} {name : QualifiedName}
    {parts : List ReadPlan}
    (success : catalog.projectionPlan function view columns =
      .ok (.build none name parts, used)) :
    catalog.planFields (columnsMatching columns) [] view.fields = .ok parts := by
  obtain ⟨_, equality, planned, _⟩ := projectionPlan_eq_ok success
  cases equality
  exact planned

theorem Table.flattens_of_build {options : Options} {catalog : Catalog} {entity : ClassDecl}
    {overrides : Option ClassDecl} {table : Table}
    (built : build options catalog entity overrides = .ok table)
    (empty : entity.name.isUnit = true → entity.fields = []) :
    Flattens catalog [] entity.fields table.columns := by
  by_cases unit : entity.name.isUnit = true
  · simp only [build, unit, if_true] at built
    cases built
    rw [empty unit]
    exact .nil
  · exact (build_parts built (Bool.eq_false_iff.mpr unit)).1

/-- The projection onto a class with the fields of the entity is the plan of the entity,
under the name of that class, and reads every column once and in order, exactly where
no value object is at the end of the path of a column. -/
theorem projectionPlan_of_own_fields_iff {options : Options} {catalog : Catalog}
    {entity view : ClassDecl} {overrides : Option ClassDecl} {table : Table}
    (distinct : entity.DistinctFields)
    (built : Table.build options catalog entity overrides = .ok table)
    (sameFields : view.fields = entity.fields) (function : String) :
    (∃ parts,
        catalog.entityPlan entity table.columns = .ok (.build none entity.name parts) ∧
        catalog.projectionPlan function view table.columns =
          .ok (.build none view.name parts, table.columns) ∧
        Mirrors catalog [] entity.fields parts) ↔
      (entity.name.isUnit = true → entity.fields = []) ∧
        ∀ path, ValueObjectAt catalog [] entity.fields path →
          ∀ column, column ∈ table.columns → ¬path <:+ column.path := by
  constructor
  · -- A plan that mirrors the fields gave no value object a column.
    rintro ⟨parts, _, projected, mirrors⟩
    have planned := Catalog.planFields_of_projectionPlan projected
    rw [sameFields] at planned
    refine ⟨?_, ?_⟩
    · intro unit
      have noColumns : table.columns = [] := by
        simp only [Table.build, unit, if_true] at built
        cases built
        rfl
      refine mirrors.fields_eq_nil planned fun path => ?_
      simp [noColumns, Catalog.columnsMatching, Catalog.exactColumns]
    · intro path found
      exact (Catalog.columnsMatching_eq_nil_iff found.ne_nil).mp
        (mirrors.resolve_valueObject planned found)
  · -- Both ways of looking for columns resolve alone, so that both plans mirror the fields.
    rintro ⟨empty, clear⟩
    have flattens := Table.flattens_of_build built empty
    have apart := flattens.incomparable distinct.names distinct.below
    obtain ⟨parts, entityPlanned, mirrors⟩ := flattens.entityPlan_mirrors distinct
    obtain ⟨projected, planned, projectedMirrors⟩ :=
      flattens.planFields_mirrors (flattens.resolvesAlone_columnsMatching apart clear)
    obtain rfl := projectedMirrors.unique mirrors
    refine ⟨projected, entityPlanned, ?_, mirrors⟩
    rw [← sameFields] at planned
    rw [Catalog.projectionPlan_of_planFields planned, mirrors.columnsOfParts flattens,
      filterMap_find?_names (Table.build_names_nodup built)]

namespace Car

/-- Another class with the fields of the car. -/
def view : ClassDecl :=
  { entity with name := .bare "CarView" }

theorem engine_at {path : List String}
    (found : ValueObjectAt .builtin [] entity.fields path) : path = ["engine"] := by
  rcases found with ⟨⟨⟩⟩ | ⟨⟨⟩⟩ | found
  rcases found with _ | ⟨_, found⟩ | found
  · rfl
  · rcases found with ⟨⟨⟩⟩ | ⟨⟨⟩⟩ | ⟨⟨⟩⟩
  · rcases found with ⟨⟨⟩⟩ | ⟨⟨⟩⟩ | ⟨⟨⟩⟩

end Car

/-- The car is read in the same way under the other name. -/
theorem projectionPlan_of_own_fields_iff_car :
    ∃ parts, Catalog.builtin.entityPlan Car.entity Car.table.columns =
        .ok (.build none (.bare "Car") parts) ∧
      Catalog.builtin.projectionPlan "find_views" Car.view Car.table.columns =
        .ok (.build none (.bare "CarView") parts, Car.table.columns) ∧
      Mirrors .builtin [] Car.entity.fields parts := by
  have sameFields : Car.view.fields = Car.entity.fields := rfl
  refine (projectionPlan_of_own_fields_iff Car.entity_distinctFields Car.table_built
    sameFields "find_views").mpr ⟨nofun, ?_⟩
  intro path found
  rw [Car.engine_at found]
  decide

namespace Truck

/-- What is written about a truck: its engine by name. -/
def specification : ClassDecl where
  name := .bare "Specification"
  fields := [⟨"engine", .named "String", [Car.columnTag "engine_name"]⟩]

/-- A truck with an engine of its own beside the specification. -/
def entity : ClassDecl where
  name := .bare "Truck"
  tags := [⟨TagName.table, [("name", "truck")]⟩]
  fields := [
    ⟨"engine", { target := Car.engine }, []⟩,
    ⟨"specification", { target := specification }, []⟩]

/-- Reads the name of the engine into a field of a type. -/
def readName (type : TypeUse) : ReadPlan :=
  .read {
    column := some "engine_name"
    field := some "engine"
    type := type
    accessor := "string"
    isJson := false
    isEnum := false
    isPrimitive := false }

def table : Table where
  entity := .bare "Truck"
  name := "truck"
  schema := none
  columns := [
    ⟨["engine", "power"], .named "i32", "power", .integer, false, false⟩,
    ⟨["specification", "engine"], .named "String", "engine_name", .text, false, false⟩]
  plan := some (.build none (.bare "Truck") [
    .build (some "engine") (.bare "Engine") [Car.readNumber "power" "i32"],
    .build (some "specification") (.bare "Specification") [readName (.named "String")]])

end Truck

/-- The engine of the truck is read from the column with the name of an engine, and its
own column is not read at all. -/
theorem projectionPlan_reads_value_object :
    Truck.entity.DistinctFields ∧
      Table.build {} .builtin Truck.entity none = .ok Truck.table ∧
      ∃ used,
        Catalog.builtin.projectionPlan "find_trucks" Truck.entity Truck.table.columns =
          .ok (.build none (.bare "Truck") [
            Truck.readName { target := Car.engine },
            .build (some "specification") (.bare "Specification")
              [Truck.readName (.named "String")]], used) ∧
        used.map Column.name = ["engine_name", "engine_name"] ∧
        Truck.table.columns.map Column.name = ["power", "engine_name"] := by
  refine ⟨?_, rfl, _, rfl, rfl, rfl⟩
  simp [ClassDecl.DistinctFields, DistinctBelow, Truck.entity, Truck.specification,
    Car.engine, TypeUse.named]

end RowPlan
