import RowPlan.Proofs.Flattening
import RowPlan.ReadPlan

/-!
# Plans that mirror fields

`Mirrors` says what the plan of an entity looks like: a leaf field reads its own
column, and a value object is built from the plans of its fields. Planning gives
such a plan wherever a path of a column leads to that column alone and a path
above a column leads to none.
-/

namespace RowPlan

/-- The plans of the fields found below a path, each from its own column. -/
inductive Mirrors (catalog : Catalog) :
    List String → List FieldDecl → List ReadPlan → Prop where
  | nil {path : List String} : Mirrors catalog path [] []
  | leaf {path : List String} {field : FieldDecl} {rest : List FieldDecl}
      {columnType : ColumnType} {others : List ReadPlan} :
      catalog.fieldColumnType field = some columnType →
      Mirrors catalog path rest others →
      Mirrors catalog path (field :: rest)
        (.read (catalog.extractor (leafColumn (path ++ [field.name]) field columnType)
          field.name field.type) :: others)
  | composite {path : List String} {field : FieldDecl} {rest : List FieldDecl}
      {parts others : List ReadPlan} :
      catalog.fieldColumnType field = none →
      Mirrors catalog (path ++ [field.name]) field.type.target.fields parts →
      Mirrors catalog path rest others →
      Mirrors catalog path (field :: rest)
        (.build (some field.name) field.type.target.name parts :: others)

/-- What a resolver has to say about some columns for their plan to mirror the
fields: each path leads to its column, and a path above one to no column. -/
structure ResolvesAlone (resolve : List String → List Column)
    (columns : List Column) : Prop where
  here : ∀ column, column ∈ columns → resolve column.path = [column]
  above : ∀ column, column ∈ columns → ∀ path name below,
    column.path = path ++ name :: below → resolve path = []

theorem plan_of_planFields {catalog : Catalog} {resolve : List String → List Column}
    {path : List String} {cls : ClassDecl} {parts : List ReadPlan}
    (field : Option String)
    (planned : catalog.planFields resolve path cls.fields = .ok parts) :
    catalog.plan resolve field path cls = .ok (.build field cls.name parts) := by
  cases cls
  rw [Catalog.plan, planned]
  rfl

theorem Flattens.planFields_mirrors {catalog : Catalog} {path : List String}
    {fields : List FieldDecl} {columns : List Column}
    {resolve : List String → List Column}
    (flattens : Flattens catalog path fields columns)
    (alone : ResolvesAlone resolve columns) :
    ∃ parts, catalog.planFields resolve path fields = .ok parts ∧
      Mirrors catalog path fields parts := by
  induction flattens with
  | nil => exact ⟨[], rfl, .nil⟩
  | @leaf path field rest columnType others known _ induction =>
      obtain ⟨parts, planned, mirrors⟩ := induction
        { here := fun column member => alone.here column (List.mem_cons_of_mem _ member)
          above := fun column member => alone.above column (List.mem_cons_of_mem _ member) }
      refine ⟨_, ?_, .leaf known mirrors⟩
      have resolved := alone.here _ List.mem_cons_self
      obtain ⟨name, ⟨target, nullable, arguments⟩, tags⟩ := field
      simp only [leafColumn] at resolved
      rw [Catalog.planFields, resolved, planned]
      rfl
  | @composite path field rest own others untyped composite _ ownFlattens _
      ownInduction induction =>
      obtain ⟨nested, nestedPlanned, nestedMirrors⟩ := ownInduction
        { here := fun column member => alone.here column (List.mem_append_left _ member)
          above := fun column member => alone.above column (List.mem_append_left _ member) }
      obtain ⟨parts, planned, mirrors⟩ := induction
        { here := fun column member => alone.here column (List.mem_append_right _ member)
          above := fun column member => alone.above column (List.mem_append_right _ member) }
      refine ⟨_, ?_, .composite untyped nestedMirrors mirrors⟩
      -- A column of the value object lies below the field, so the field has none itself.
      have unresolved : resolve (path ++ [field.name]) = [] := by
        obtain ⟨column, member, _, _, equality⟩ :=
          ownFlattens.exists_below (ClassDecl.fields_ne_nil composite)
        exact alone.above column (List.mem_append_left _ member) _ _ _ equality
      have ownPlan := plan_of_planFields (some field.name) nestedPlanned
      obtain ⟨name, ⟨target, nullable, arguments⟩, tags⟩ := field
      simp only at composite unresolved ownPlan
      rw [Catalog.planFields, unresolved]
      simp only [composite, if_true, ownPlan, planned]
      rfl

/-! ## Exact columns -/

namespace Catalog

/-- Where all paths differ, one column at most has a path. -/
theorem exactColumns_of_mem {columns : List Column} (paths : (columns.map Column.path).Nodup)
    {column : Column} (member : column ∈ columns) :
    exactColumns columns column.path = [column] := by
  induction columns with
  | nil => cases member
  | cons first rest induction =>
      obtain ⟨fresh, others⟩ := List.nodup_cons.mp paths
      rcases List.mem_cons.mp member with rfl | later
      · have noOther : exactColumns rest column.path = [] := by
          simp only [exactColumns, List.filter_eq_nil_iff, beq_iff_eq]
          intro other inRest same
          exact fresh (same ▸ List.mem_map_of_mem inRest)
        have own : (column.path == column.path) = true := beq_self_eq_true _
        simpa only [exactColumns, List.filter_cons, own, if_true, List.cons.injEq, true_and]
          using noOther
      · have differs : (first.path == column.path) = false :=
          beq_false_of_ne fun same => fresh (same ▸ List.mem_map_of_mem later)
        simpa only [exactColumns, List.filter_cons, differs, Bool.false_eq_true, if_false]
          using induction others later

/-- Among columns that do not begin one another, exact resolution is alone. -/
theorem resolvesAlone_exactColumns {columns : List Column}
    (apart : columns.Pairwise fun left right => Incomparable left.path right.path) :
    ResolvesAlone (exactColumns columns) columns where
  here _ member := exactColumns_of_mem (paths_nodup_of_apart apart) member
  above column member path name below equality := by
    simp only [exactColumns, List.filter_eq_nil_iff, beq_iff_eq]
    intro other otherMember otherPath
    have begins : other.path <+: column.path := by
      rw [equality, otherPath]
      exact List.prefix_append _ _
    have same := path_eq_of_prefix apart otherMember member begins
    rw [otherPath, equality, List.self_eq_append_right] at same
    cases same

end Catalog

theorem Flattens.entityPlan_mirrors {catalog : Catalog} {entity : ClassDecl}
    {columns : List Column} (flattens : Flattens catalog [] entity.fields columns)
    (distinct : entity.DistinctFields) :
    ∃ parts, catalog.entityPlan entity columns = .ok (.build none entity.name parts) ∧
      Mirrors catalog [] entity.fields parts := by
  have apart := flattens.incomparable distinct.names distinct.below
  obtain ⟨parts, planned, mirrors⟩ :=
    flattens.planFields_mirrors (Catalog.resolvesAlone_exactColumns apart)
  refine ⟨parts, ?_, mirrors⟩
  rw [Catalog.entityPlan, plan_of_planFields none planned]
  rfl

end RowPlan
