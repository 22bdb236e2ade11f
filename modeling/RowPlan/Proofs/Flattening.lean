import Mathlib.Data.List.Pairwise
import RowPlan.Proofs.Success
import RowPlan.Column

/-!
# Flattened fields

`Flattens` says which columns some fields have, one constructor for each kind of
field. It describes the same columns as `Catalog.columnsOfFields`. Where the
fields of each class have names of their own, no path of a column begins another.
-/

namespace RowPlan

/-- The columns of the fields found below a path, depth first. -/
inductive Flattens (catalog : Catalog) :
    List String → List FieldDecl → List Column → Prop where
  | nil {path : List String} : Flattens catalog path [] []
  | leaf {path : List String} {field : FieldDecl} {rest : List FieldDecl}
      {columnType : ColumnType} {others : List Column} :
      catalog.fieldColumnType field = some columnType →
      Flattens catalog path rest others →
      Flattens catalog path (field :: rest)
        (leafColumn (path ++ [field.name]) field columnType :: others)
  | composite {path : List String} {field : FieldDecl} {rest : List FieldDecl}
      {own others : List Column} :
      catalog.fieldColumnType field = none →
      field.type.target.isComposite = true →
      field.type.nullable = false →
      Flattens catalog (path ++ [field.name]) field.type.target.fields own →
      Flattens catalog path rest others →
      Flattens catalog path (field :: rest) (own ++ others)

mutual

theorem flattens_of_columnsBelow (catalog : Catalog) (path : List String)
    (cls : ClassDecl) (columns : List Column)
    (success : catalog.columnsBelow path cls = .ok columns) :
    Flattens catalog path cls.fields columns := by
  cases cls
  exact flattens_of_columnsOfFields catalog path _ columns success

theorem flattens_of_columnsOfFields (catalog : Catalog) (path : List String)
    (fields : List FieldDecl) (columns : List Column)
    (success : catalog.columnsOfFields path fields = .ok columns) :
    Flattens catalog path fields columns := by
  match fields with
  | [] =>
      simp only [Catalog.columnsOfFields, Except.ok.injEq] at success
      subst success
      exact .nil
  | ⟨name, ⟨target, nullable, arguments⟩, tags⟩ :: rest =>
      rw [Catalog.columnsOfFields] at success
      cases known : catalog.fieldColumnType ⟨name, ⟨target, nullable, arguments⟩, tags⟩ with
      | some columnType =>
          simp only [known, bind_eq_ok_iff, Except.ok.injEq] at success
          obtain ⟨own, rfl, others, othersSuccess, equality⟩ := success
          cases equality
          exact .leaf known (flattens_of_columnsOfFields catalog path rest others othersSuccess)
      | none =>
          simp only [known] at success
          split at success
          case isFalse => simp [bind_eq_ok_iff] at success
          case isTrue composite =>
            split at success
            case isTrue => simp [bind_eq_ok_iff] at success
            case isFalse present =>
              simp only [bind_eq_ok_iff] at success
              obtain ⟨own, ownSuccess, others, othersSuccess, equality⟩ := success
              cases equality
              have ownFlattens :=
                flattens_of_columnsBelow catalog (path ++ [name]) target own ownSuccess
              exact .composite known composite (Bool.eq_false_iff.mpr present) ownFlattens
                (flattens_of_columnsOfFields catalog path rest others othersSuccess)

end

theorem columnsOfFields_of_flattens {catalog : Catalog} {path : List String}
    {fields : List FieldDecl} {columns : List Column}
    (flattens : Flattens catalog path fields columns) :
    catalog.columnsOfFields path fields = .ok columns := by
  induction flattens with
  | nil => rfl
  | @leaf path field rest columnType others known _ othersSuccess =>
      obtain ⟨name, ⟨target, nullable, arguments⟩, tags⟩ := field
      rw [Catalog.columnsOfFields, known, othersSuccess]
      rfl
  | @composite path field rest own others untyped composite present _ _
      ownSuccess othersSuccess =>
      obtain ⟨name, ⟨target, nullable, arguments⟩, tags⟩ := field
      have nested : catalog.columnsBelow (path ++ [name]) target = .ok own := by
        cases target
        exact ownSuccess
      simp only at composite present
      rw [Catalog.columnsOfFields, untyped]
      simp only [composite, present, nested, othersSuccess]
      rfl

theorem columns_eq_ok_iff {catalog : Catalog} {entity : ClassDecl} {columns : List Column} :
    catalog.columns entity = .ok columns ↔ Flattens catalog [] entity.fields columns := by
  constructor
  · intro success
    exact flattens_of_columnsBelow catalog [] entity columns success
  · intro flattens
    cases entity
    exact columnsOfFields_of_flattens flattens

/-! ## Paths of columns -/

namespace Flattens

variable {catalog : Catalog} {path : List String} {fields : List FieldDecl}
  {columns : List Column}

theorem path_below (flattens : Flattens catalog path fields columns) :
    ∀ column, column ∈ columns →
      ∃ field, field ∈ fields ∧ ∃ below, column.path = path ++ field.name :: below := by
  induction flattens with
  | nil => simp
  | @leaf path field rest columnType others _ _ induction =>
      intro column member
      rcases List.mem_cons.mp member with here | later
      · subst here
        exact ⟨field, List.mem_cons_self, [], rfl⟩
      · obtain ⟨other, otherMember, below, equality⟩ := induction column later
        exact ⟨other, List.mem_cons_of_mem _ otherMember, below, equality⟩
  | @composite path field rest own others _ _ _ _ _ ownInduction induction =>
      intro column member
      rcases List.mem_append.mp member with nested | later
      · obtain ⟨inner, _, below, equality⟩ := ownInduction column nested
        refine ⟨field, List.mem_cons_self, inner.name :: below, ?_⟩
        simp [equality]
      · obtain ⟨other, otherMember, below, equality⟩ := induction column later
        exact ⟨other, List.mem_cons_of_mem _ otherMember, below, equality⟩

theorem columns_ne_nil (flattens : Flattens catalog path fields columns)
    (some : fields ≠ []) : columns ≠ [] := by
  induction flattens with
  | nil => exact (some rfl).elim
  | leaf => simp
  | @composite path field rest own others _ composite _ _ _ ownInduction _ =>
      simp [ownInduction (ClassDecl.fields_ne_nil composite)]

/-- Below a path with fields stands some column. -/
theorem exists_below (flattens : Flattens catalog path fields columns) (some : fields ≠ []) :
    ∃ column, column ∈ columns ∧ ∃ name below, column.path = path ++ name :: below := by
  obtain ⟨column, member⟩ := List.exists_mem_of_ne_nil _ (flattens.columns_ne_nil some)
  obtain ⟨field, _, below, equality⟩ := flattens.path_below column member
  exact ⟨column, member, field.name, below, equality⟩

end Flattens

/-- Neither path begins the other. -/
def Incomparable (left right : List String) : Prop :=
  ¬ left <+: right ∧ ¬ right <+: left

instance : Std.Symm fun left right : Column => Incomparable left.path right.path :=
  ⟨fun _ _ both => both.symm⟩

theorem incomparable_of_names_ne {path : List String} {left right : String}
    (different : left ≠ right) (leftBelow rightBelow : List String) :
    Incomparable (path ++ left :: leftBelow) (path ++ right :: rightBelow) := by
  constructor
  · rw [List.prefix_append_right_inj, List.cons_prefix_cons]
    exact fun both => different both.1
  · rw [List.prefix_append_right_inj, List.cons_prefix_cons]
    exact fun both => different both.1.symm

section

variable {columns : List Column}
  (apart : columns.Pairwise fun left right => Incomparable left.path right.path)

include apart

theorem paths_nodup_of_apart : (columns.map Column.path).Nodup := by
  refine List.pairwise_map.mpr (apart.imp ?_)
  intro left right incomparable same
  exact incomparable.1 (same ▸ List.prefix_rfl)

theorem path_eq_of_prefix {column other : Column} (member : column ∈ columns)
    (otherMember : other ∈ columns) (begins : column.path <+: other.path) :
    column.path = other.path := by
  by_cases same : column = other
  · rw [same]
  · exact ((apart.forall member otherMember same).1 begins).elim

end

mutual

/-- The fields of a class have names of their own, and so do those of the classes
that its fields hold. -/
def ClassDecl.DistinctFields : ClassDecl → Prop
  | { fields, .. } => (fields.map FieldDecl.name).Nodup ∧ DistinctBelow fields

/-- The classes that some fields hold have distinct fields. -/
def DistinctBelow : List FieldDecl → Prop
  | [] => True
  | ⟨_, ⟨target, _, _⟩, _⟩ :: rest => target.DistinctFields ∧ DistinctBelow rest

end

theorem ClassDecl.DistinctFields.names {cls : ClassDecl} (distinct : cls.DistinctFields) :
    (cls.fields.map FieldDecl.name).Nodup := by
  cases cls
  exact distinct.1

theorem ClassDecl.DistinctFields.below {cls : ClassDecl} (distinct : cls.DistinctFields) :
    DistinctBelow cls.fields := by
  cases cls
  exact distinct.2

theorem distinctBelow_cons {field : FieldDecl} {rest : List FieldDecl} :
    DistinctBelow (field :: rest) ↔
      field.type.target.DistinctFields ∧ DistinctBelow rest := by
  obtain ⟨_, ⟨target, _, _⟩, _⟩ := field
  exact Iff.rfl

namespace Flattens

variable {catalog : Catalog} {path : List String} {fields : List FieldDecl}
  {columns : List Column}

/-- Columns of fields without a name stand below other names. -/
theorem path_below_other {name : String} (flattens : Flattens catalog path fields columns)
    (fresh : name ∉ fields.map FieldDecl.name) {column : Column} (member : column ∈ columns) :
    ∃ other, name ≠ other ∧ ∃ below, column.path = path ++ other :: below := by
  obtain ⟨field, fieldMember, below, equality⟩ := flattens.path_below column member
  refine ⟨field.name, ?_, below, equality⟩
  intro same
  exact fresh (same ▸ List.mem_map_of_mem fieldMember)

theorem incomparable (flattens : Flattens catalog path fields columns)
    (names : (fields.map FieldDecl.name).Nodup) (below : DistinctBelow fields) :
    columns.Pairwise fun left right => Incomparable left.path right.path := by
  induction flattens with
  | nil => exact .nil
  | @leaf path field rest columnType others _ restFlattens induction =>
      simp only [List.map_cons, List.nodup_cons] at names
      refine .cons ?_ (induction names.2 (distinctBelow_cons.mp below).2)
      intro other member
      obtain ⟨_, different, otherBelow, equality⟩ := restFlattens.path_below_other names.1 member
      rw [equality]
      exact incomparable_of_names_ne different [] otherBelow
  | @composite path field rest own others _ _ _ ownFlattens restFlattens
      ownInduction induction =>
      simp only [List.map_cons, List.nodup_cons] at names
      obtain ⟨targetDistinct, restBelow⟩ := distinctBelow_cons.mp below
      refine List.pairwise_append.mpr
        ⟨ownInduction targetDistinct.names targetDistinct.below,
          induction names.2 restBelow, ?_⟩
      intro nested nestedMember other member
      obtain ⟨inner, _, nestedBelow, nestedEquality⟩ :=
        ownFlattens.path_below nested nestedMember
      obtain ⟨_, different, otherBelow, equality⟩ := restFlattens.path_below_other names.1 member
      rw [nestedEquality, equality, List.append_assoc]
      exact incomparable_of_names_ne different (inner.name :: nestedBelow) otherBelow

end Flattens

end RowPlan
