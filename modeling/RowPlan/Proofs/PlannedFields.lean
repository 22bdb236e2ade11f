import RowPlan.Proofs.Success
import RowPlan.ReadPlan

/-!
# Planned fields

`Planned` says which plans some fields can have, one constructor for each kind of field. The
columns that such plans read are columns to which a path resolves, and there is one wherever
there is a field.
-/

namespace RowPlan

/-- Every way in which planning some fields succeeds. -/
theorem Catalog.planFields_cons_eq_ok {catalog : Catalog}
    {resolve : List String → List Column} {path : List String} {field : FieldDecl}
    {rest : List FieldDecl} {parts : List ReadPlan}
    (success : catalog.planFields resolve path (field :: rest) = .ok parts) :
    ∃ own others, parts = own :: others ∧
      catalog.planFields resolve path rest = .ok others ∧
      ((∃ column, resolve (path ++ [field.name]) = [column] ∧
          own = .read (catalog.extractor column field.name field.type)) ∨
        (resolve (path ++ [field.name]) = [] ∧ field.type.target.isComposite = true ∧
          ∃ nested,
            catalog.planFields resolve (path ++ [field.name]) field.type.target.fields =
              .ok nested ∧
            own = .build (some field.name) field.type.target.name nested)) := by
  obtain ⟨name, ⟨target, nullable, arguments⟩, tags⟩ := field
  rw [planFields] at success
  dsimp only at success
  split at success
  case h_1 column resolved =>
    simp only [bind_eq_ok_iff, Except.ok.injEq] at success
    obtain ⟨_, rfl, others, othersSuccess, equality⟩ := success
    cases equality
    exact ⟨_, others, rfl, othersSuccess, .inl ⟨column, resolved, rfl⟩⟩
  case h_2 resolved =>
    split at success
    case isTrue composite =>
      simp only [bind_eq_ok_iff] at success
      obtain ⟨own, ownSuccess, others, othersSuccess, equality⟩ := success
      cases equality
      cases target with
      | mk targetName fields =>
          rw [plan] at ownSuccess
          obtain ⟨nested, nestedSuccess, build⟩ := bind_eq_ok_iff.mp ownSuccess
          cases build
          exact ⟨_, others, rfl, othersSuccess,
            .inr ⟨resolved, composite, nested, nestedSuccess, rfl⟩⟩
    case isFalse => cases success
  case h_3 => cases success

/-- The plans of the fields found below a path. A field is read from the only column of its
path, or built from its own fields where its path has no column. -/
inductive Planned (catalog : Catalog) (resolve : List String → List Column) :
    List String → List FieldDecl → List ReadPlan → Prop where
  | nil {path : List String} : Planned catalog resolve path [] []
  | read {path : List String} {field : FieldDecl} {rest : List FieldDecl}
      {column : Column} {others : List ReadPlan} :
      resolve (path ++ [field.name]) = [column] →
      Planned catalog resolve path rest others →
      Planned catalog resolve path (field :: rest)
        (.read (catalog.extractor column field.name field.type) :: others)
  | build {path : List String} {field : FieldDecl} {rest : List FieldDecl}
      {parts others : List ReadPlan} :
      resolve (path ++ [field.name]) = [] →
      field.type.target.isComposite = true →
      Planned catalog resolve (path ++ [field.name]) field.type.target.fields parts →
      Planned catalog resolve path rest others →
      Planned catalog resolve path (field :: rest)
        (.build (some field.name) field.type.target.name parts :: others)

mutual

theorem planned_of_class (catalog : Catalog) (resolve : List String → List Column)
    (path : List String) (cls : ClassDecl) (parts : List ReadPlan)
    (success : catalog.planFields resolve path cls.fields = .ok parts) :
    Planned catalog resolve path cls.fields parts := by
  cases cls
  exact planned_of_planFields catalog resolve path _ parts success

theorem planned_of_planFields (catalog : Catalog) (resolve : List String → List Column)
    (path : List String) (fields : List FieldDecl) (parts : List ReadPlan)
    (success : catalog.planFields resolve path fields = .ok parts) :
    Planned catalog resolve path fields parts := by
  match fields with
  | [] =>
      rw [Catalog.planFields] at success
      cases success
      exact .nil
  | ⟨name, ⟨target, nullable, arguments⟩, tags⟩ :: rest =>
      obtain ⟨own, others, rfl, othersSuccess, way⟩ :=
        Catalog.planFields_cons_eq_ok success
      have planned := planned_of_planFields catalog resolve path rest others othersSuccess
      rcases way with ⟨column, resolved, rfl⟩ | ⟨unresolved, composite, nested, nestedSuccess, rfl⟩
      · exact .read resolved planned
      · have nestedPlanned :=
          planned_of_class catalog resolve (path ++ [name]) target nested nestedSuccess
        exact .build unresolved composite nestedPlanned planned

end

namespace Planned

variable {catalog : Catalog} {resolve : List String → List Column} {path : List String}
  {fields : List FieldDecl} {parts : List ReadPlan}

theorem mem_columns (planned : Planned catalog resolve path fields parts) :
    ∀ name, name ∈ ReadPlan.columnsOfParts parts →
      ∃ path column, column ∈ resolve path ∧ column.name = name := by
  induction planned with
  | nil => simp [ReadPlan.columnsOfParts]
  | @read path field rest column others resolved _ induction =>
      intro name member
      rw [ReadPlan.columnsOfParts, List.mem_append] at member
      rcases member with here | later
      · have same : name = column.name := by
          simpa [ReadPlan.columns, Catalog.extractor] using here
        have found : column ∈ resolve (path ++ [field.name]) := resolved ▸ List.mem_cons_self
        exact ⟨_, column, found, same.symm⟩
      · exact induction name later
  | build _ _ _ _ ownInduction induction =>
      intro name member
      rw [ReadPlan.columnsOfParts, List.mem_append] at member
      rcases member with nested | later
      · exact ownInduction name nested
      · exact induction name later

theorem columns_ne_nil (planned : Planned catalog resolve path fields parts)
    (some : fields ≠ []) : ReadPlan.columnsOfParts parts ≠ [] := by
  induction planned with
  | nil => exact (some rfl).elim
  | read => simp [ReadPlan.columnsOfParts, ReadPlan.columns, Catalog.extractor]
  | @build path field rest parts others _ composite _ _ ownInduction _ =>
      -- A value object is composite, so the plan of its own fields reads a column.
      have nested := ownInduction (ClassDecl.fields_ne_nil composite)
      intro empty
      rw [ReadPlan.columnsOfParts, List.append_eq_nil_iff] at empty
      exact nested empty.1

end Planned

/-! ## Projections -/

namespace Catalog

variable {catalog : Catalog} {function : String} {view : ClassDecl}
  {columns used : List Column} {plan : ReadPlan}

theorem mem_of_mem_columnsMatching {path : List String} {column : Column}
    (member : column ∈ columnsMatching columns path) : column ∈ columns := by
  unfold columnsMatching at member
  split at member
  case h_1 => exact (List.mem_filter.mp member).1
  case h_2 exact _ =>
    have exactly : column ∈ exactColumns columns path := member
    exact (List.mem_filter.mp exactly).1

/-- All that makes a projection succeed, and what comes with it. -/
theorem projectionPlan_eq_ok
    (success : catalog.projectionPlan function view columns = .ok (plan, used)) :
    ∃ parts, plan = .build none view.name parts ∧
      catalog.planFields (columnsMatching columns) [] view.fields = .ok parts ∧
      used = plan.columns.filterMap fun name =>
        columns.find? fun column => column.name == name := by
  unfold projectionPlan at success
  split at success
  case h_1 found planned =>
    cases success
    cases view
    rw [Catalog.plan] at planned
    obtain ⟨parts, partsPlanned, equality⟩ := bind_eq_ok_iff.mp planned
    cases equality
    exact ⟨parts, rfl, partsPlanned, rfl⟩
  case h_2 => cases success
  case h_3 => cases success

/-- A projection reads columns of the entity only. -/
theorem mem_columns_of_projectionPlan
    (success : catalog.projectionPlan function view columns = .ok (plan, used)) :
    ∀ name, name ∈ plan.columns → ∃ column, column ∈ columns ∧ column.name = name := by
  obtain ⟨parts, rfl, partsPlanned, _⟩ := projectionPlan_eq_ok success
  have planned := planned_of_planFields catalog _ _ _ _ partsPlanned
  intro name member
  rw [ReadPlan.columns] at member
  obtain ⟨path, column, resolved, named⟩ := planned.mem_columns name member
  exact ⟨column, mem_of_mem_columnsMatching resolved, named⟩

/-- The columns found under names that all belong to columns have these names. -/
theorem map_name_filterMap_find? {names : List String}
    (known : ∀ name, name ∈ names → ∃ column, column ∈ columns ∧ column.name = name) :
    (names.filterMap fun name => columns.find? fun column => column.name == name).map
      Column.name = names := by
  induction names with
  | nil => rfl
  | cons name rest induction =>
      have others := induction fun other member => known other (List.mem_cons_of_mem _ member)
      obtain ⟨column, inColumns, named⟩ := known name List.mem_cons_self
      cases found : columns.find? fun column => column.name == name with
      | none =>
          have other := List.find?_eq_none.mp found column inColumns
          simp [named] at other
      | some first =>
          have firstNamed : first.name = name := by
            simpa using List.find?_some found
          simp only [List.filterMap_cons, found, List.map_cons, firstNamed, others]

/-- The columns that come with a projection are those that its plan reads, in reading
order. -/
theorem map_name_used
    (success : catalog.projectionPlan function view columns = .ok (plan, used)) :
    used.map Column.name = plan.columns := by
  have known := mem_columns_of_projectionPlan success
  obtain ⟨_, _, _, rfl⟩ := projectionPlan_eq_ok success
  exact map_name_filterMap_find? known

theorem columns_of_projectionPlan_ne_nil
    (success : catalog.projectionPlan function view columns = .ok (plan, used))
    (composite : view.isComposite = true) : plan.columns ≠ [] := by
  obtain ⟨parts, rfl, partsPlanned, _⟩ := projectionPlan_eq_ok success
  apply (planned_of_planFields catalog _ _ _ _ partsPlanned).columns_ne_nil
  exact ClassDecl.fields_ne_nil composite

end Catalog

end RowPlan
