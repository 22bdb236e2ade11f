import RowPlan.Proofs.FieldFaults

/-!
# Paths of columns

A path leads from an entity down to a field. Where the fields of each class have names of their
own, the path of a column belongs to it alone, and no longer path of a column goes on from there.
Every place of the entity is found by these paths: one with a column type has the path of just
one column, and the path of any other goes on to a column below it.
-/

namespace RowPlan

section

variable {catalog : Catalog} {path : List String}

theorem Catalog.placesOfFields_of_typed {field : FieldDecl} {rest : List FieldDecl}
    (typed : catalog.isTyped field = true) :
    catalog.placesOfFields path (field :: rest) =
      ⟨path ++ [field.name], field⟩ :: catalog.placesOfFields path rest := by
  obtain ⟨name, ⟨target, nullable, arguments⟩, tags⟩ := field
  rw [placesOfFields, typed]
  rfl

theorem Catalog.placesOfFields_of_composite {field : FieldDecl} {rest : List FieldDecl}
    (untyped : catalog.isTyped field = false) (composite : field.type.target.isComposite = true) :
    catalog.placesOfFields path (field :: rest) =
      ⟨path ++ [field.name], field⟩ ::
        catalog.placesOfFields (path ++ [field.name]) field.type.target.fields ++
          catalog.placesOfFields path rest := by
  obtain ⟨name, ⟨⟨_, fields, _, _, _, _, _⟩, nullable, arguments⟩, tags⟩ := field
  rw [placesOfFields, untyped]
  simp only at composite
  rw [composite]
  rfl

/-- The path of a column goes on from each place, and ends there if the place has a column
type. -/
theorem Flattens.column_from_place {fields : List FieldDecl} {columns : List Column}
    (flattens : Flattens catalog path fields columns) :
    ∀ place, place ∈ catalog.placesOfFields path fields →
      ∃ column, column ∈ columns ∧ ∃ below, column.path = place.path ++ below ∧
        (below = [] ↔ catalog.isTyped place.field = true) := by
  induction flattens with
  | nil =>
      intro place member
      cases member
  | @leaf path field rest columnType others known _ induction =>
      have typed : catalog.isTyped field = true := by
        rw [Catalog.isTyped_eq, known, Option.isSome_some]
      rw [Catalog.placesOfFields_of_typed typed]
      intro place member
      rcases List.mem_cons.mp member with rfl | later
      · exact ⟨_, List.mem_cons_self, [], (List.append_nil _).symm, iff_of_true rfl typed⟩
      · obtain ⟨column, columnMember, goesOn⟩ := induction place later
        exact ⟨column, List.mem_cons_of_mem _ columnMember, goesOn⟩
  | @composite path field rest own others unknown composite _ ownFlattens _ ownInduction
      induction =>
      have untyped : catalog.isTyped field = false := by
        rw [Catalog.isTyped_eq, unknown, Option.isSome_none]
      rw [Catalog.placesOfFields_of_composite untyped composite]
      intro place member
      rcases List.mem_append.mp member with upTo | later
      · rcases List.mem_cons.mp upTo with rfl | nested
        · -- A value object has some field, so a column stands below it.
          obtain ⟨column, columnMember, name, below, equality⟩ :=
            ownFlattens.exists_below (ClassDecl.fields_ne_nil composite)
          exact ⟨column, List.mem_append_left _ columnMember, name :: below, equality,
            iff_of_false (List.cons_ne_nil _ _) (Bool.not_eq_true _ ▸ untyped)⟩
        · obtain ⟨column, columnMember, goesOn⟩ := ownInduction place nested
          exact ⟨column, List.mem_append_left _ columnMember, goesOn⟩
      · obtain ⟨column, columnMember, goesOn⟩ := induction place later
        exact ⟨column, List.mem_append_right _ columnMember, goesOn⟩

end

/-! ## Columns by their paths -/

/-- Of the paths that lead to a column just the whole path has exactly one column. -/
theorem Catalog.exactColumns_singleton_iff {columns : List Column}
    (apart : columns.Pairwise fun left right => Incomparable left.path right.path)
    {column : Column} (member : column ∈ columns) {path below : List String}
    (goesOn : column.path = path ++ below) :
    (∃ other, exactColumns columns path = [other]) ↔ below = [] := by
  constructor
  · rintro ⟨other, found⟩
    have inFound : other ∈ exactColumns columns path := by
      rw [found]
      exact List.mem_singleton_self other
    obtain ⟨otherMember, ends⟩ : other ∈ columns ∧ other.path = path := by
      simpa [exactColumns] using inFound
    have begins : other.path <+: column.path := by
      rw [ends, goesOn]
      exact List.prefix_append _ _
    have same := path_eq_of_prefix apart otherMember member begins
    rw [ends, goesOn] at same
    exact List.append_right_eq_self.mp same.symm
  · rintro rfl
    rw [List.append_nil] at goesOn
    exact ⟨column, goesOn ▸ exactColumns_of_mem (paths_nodup_of_apart apart) member⟩

/-- How paths lead to the columns of an entity. No column is at the entity itself or on the way
to another. One column has the path of a place with a column type, and a place without one stands
above some column. -/
structure Catalog.FoundByPath (catalog : Catalog) (entity : ClassDecl) (columns : List Column) :
    Prop where
  distinct : (columns.map Column.path).Nodup
  below : ∀ column, column ∈ columns → column.path ≠ []
  prefixFree : ∀ column, column ∈ columns → ∀ other, other ∈ columns →
    column.path <+: other.path → column.path = other.path
  alone : ∀ place, place ∈ catalog.places entity →
    ((∃ column, exactColumns columns place.path = [column]) ↔
      catalog.isTyped place.field = true)
  above : ∀ place, place ∈ catalog.places entity → catalog.isTyped place.field = false →
    ∃ column, column ∈ columns ∧ place.path <+: column.path ∧ place.path ≠ column.path

theorem Catalog.columns_foundByPath {catalog : Catalog} {entity : ClassDecl}
    {columns : List Column} (distinct : entity.DistinctFields)
    (flattened : catalog.columns entity = .ok columns) :
    catalog.FoundByPath entity columns := by
  have flattens := columns_eq_ok_iff.mp flattened
  have apart := flattens.incomparable distinct.names distinct.below
  have fromPlace : ∀ place, place ∈ catalog.places entity →
      ∃ column, column ∈ columns ∧ ∃ below, column.path = place.path ++ below ∧
        (below = [] ↔ catalog.isTyped place.field = true) := by
    cases entity
    exact flattens.column_from_place
  refine ⟨paths_nodup_of_apart apart, ?_, fun column member other otherMember =>
    path_eq_of_prefix apart member otherMember, ?_, ?_⟩
  · intro column member
    obtain ⟨field, _, below, goesOn⟩ := flattens.path_below column member
    rw [goesOn]
    exact List.cons_ne_nil _ _
  · intro place placeMember
    obtain ⟨column, member, below, goesOn, typed⟩ := fromPlace place placeMember
    exact (exactColumns_singleton_iff apart member goesOn).trans typed
  · intro place placeMember untyped
    obtain ⟨column, member, below, goesOn, typed⟩ := fromPlace place placeMember
    have further : below ≠ [] := by
      intro ended
      rw [typed.mp ended] at untyped
      cases untyped
    refine ⟨column, member, goesOn ▸ List.prefix_append _ _, ?_⟩
    rw [goesOn]
    exact fun same => further (List.append_right_eq_self.mp same.symm)

namespace Depot

def position : ClassDecl where
  name := .bare "Position"
  fields := [Shipment.stored "east" "f64", Shipment.stored "north" "f64"]

def site : ClassDecl where
  name := .bare "Site"
  fields := [Shipment.stored "city" "String", ⟨"position", { target := position }, []⟩]

/-- A depot whose gate, a position too, is stored in one column. -/
def entity : ClassDecl where
  name := .bare "Depot"
  fields := [
    ⟨"site", { target := site }, []⟩,
    ⟨"gate", { target := position },
      [⟨TagName.column, [("name", "gate"), ("type", "point")]⟩]⟩]

end Depot

theorem Catalog.columns_foundByPath_depot :
    ∃ columns, Depot.entity.DistinctFields ∧ Catalog.builtin.columns Depot.entity = .ok columns ∧
      Catalog.builtin.FoundByPath Depot.entity columns ∧
      columns.map Column.path =
        [["site", "city"], ["site", "position", "east"], ["site", "position", "north"],
          ["gate"]] ∧
      (Catalog.builtin.places Depot.entity).map FieldPlace.path =
        [["site"], ["site", "city"], ["site", "position"], ["site", "position", "east"],
          ["site", "position", "north"], ["gate"]] := by
  have distinct : Depot.entity.DistinctFields := by
    simp [Depot.entity, Depot.site, Depot.position, Shipment.stored, TypeUse.named,
      ClassDecl.DistinctFields, DistinctBelow]
  have flattened : ∃ columns, Catalog.builtin.columns Depot.entity = .ok columns ∧
      columns.map Column.path =
        [["site", "city"], ["site", "position", "east"], ["site", "position", "north"],
          ["gate"]] := ⟨_, rfl, rfl⟩
  obtain ⟨columns, flattened, paths⟩ := flattened
  exact ⟨columns, distinct, flattened, Catalog.columns_foundByPath distinct flattened, paths, rfl⟩

end RowPlan
