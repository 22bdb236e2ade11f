import Mathlib.Data.List.Basic
import RowPlan.Proofs.BuiltTable
import RowPlan.Proofs.EntityPlan

/-!
# Faults of fields

Which fields an entity is flattened into is said here without the columns: a list of places,
each before those of the fields it holds. An entity has a table where every place can be
stored and all names of columns differ. The error is otherwise that of the first place or the
first name, and planning adds none.
-/

namespace RowPlan

/-! ## Places -/

/-- A field with the names that lead to it. -/
structure FieldPlace where
  path : List String
  field : FieldDecl

/-- A field has a column type: one of its own, that of its type in the catalog, or that of
enumerations. -/
def Catalog.isTyped (catalog : Catalog) (field : FieldDecl) : Bool :=
  (ColumnOverride.of field.tags).type.isSome || (catalog.resolve field.type).isSome
    || field.type.target.isEnum

mutual

/-- The places below a path that a class is flattened into, in the order of the declarations. -/
def Catalog.placesBelow (catalog : Catalog) (path : List String) : ClassDecl → List FieldPlace
  | { fields, .. } => catalog.placesOfFields path fields

/-- The places of some fields. Below a field without a column type are those of its class. -/
def Catalog.placesOfFields (catalog : Catalog) (path : List String) :
    List FieldDecl → List FieldPlace
  | [] => []
  | ⟨name, ⟨target, nullable, arguments⟩, tags⟩ :: rest =>
      let field : FieldDecl := ⟨name, ⟨target, nullable, arguments⟩, tags⟩
      let here := path ++ [name]
      let below :=
        if !catalog.isTyped field && target.isComposite then catalog.placesBelow here target
        else []
      ⟨here, field⟩ :: below ++ catalog.placesOfFields path rest

end

namespace Catalog

variable {catalog : Catalog}

/-- The places that an entity is flattened into. -/
def places (catalog : Catalog) (entity : ClassDecl) : List FieldPlace :=
  catalog.placesBelow [] entity

/-- A field can be stored: in its column, or in those of a value object that is there. -/
def Stores (catalog : Catalog) (field : FieldDecl) : Prop :=
  catalog.isTyped field = true ∨
    field.type.target.isComposite = true ∧ field.type.nullable = false

instance (catalog : Catalog) (field : FieldDecl) : Decidable (catalog.Stores field) :=
  inferInstanceAs (Decidable (_ ∨ _))

/-- The column of a place, if its field has one. -/
def columnAt? (catalog : Catalog) (place : FieldPlace) : Option Column :=
  (catalog.fieldColumnType place.field).map (leafColumn place.path place.field)

/-- The columns of the places that have one. -/
def placeColumns (catalog : Catalog) (entity : ClassDecl) : List Column :=
  (catalog.places entity).filterMap catalog.columnAt?

end Catalog

/-- What is wrong with a place that cannot be stored, with the names that lead to it. -/
def FieldPlace.fault (place : FieldPlace) : CompileError :=
  if place.field.type.target.isComposite then .nullableComposite (".".intercalate place.path)
  else .unmappableType (".".intercalate place.path)

/-! ## Flattening by places -/

/-- Lists gathered from some values. -/
def gather {ε α β : Type} (function : α → Except ε (List β)) (values : List α) :
    Except ε (List β) :=
  (values.mapM function).map List.flatten

section

variable {ε α β : Type} {function : α → Except ε (List β)}

theorem gather_cons (value : α) (rest : List α) :
    gather function (value :: rest) =
      (do return (← function value) ++ (← gather function rest)) := by
  unfold gather
  rw [List.mapM_cons]
  cases function value with
  | error fault => rfl
  | ok own =>
      cases rest.mapM function with
      | error fault => rfl
      | ok others => rfl

theorem gather_append (left right : List α) :
    gather function (left ++ right) =
      (do return (← gather function left) ++ (← gather function right)) := by
  induction left with
  | nil =>
      rw [List.nil_append]
      cases gather function right with
      | error fault => rfl
      | ok others => rfl
  | cons value rest induction =>
      rw [List.cons_append, gather_cons, gather_cons, induction]
      cases function value with
      | error fault => rfl
      | ok own =>
          cases gather function rest with
          | error fault => rfl
          | ok others =>
              cases gather function right with
              | error fault => rfl
              | ok last => simp [bind, Except.bind, pure, Except.pure]

end

namespace Catalog

variable {catalog : Catalog}

theorem isTyped_eq (field : FieldDecl) :
    catalog.isTyped field = (catalog.fieldColumnType field).isSome := by
  unfold isTyped fieldColumnType columnType
  cases (ColumnOverride.of field.tags).type with
  | some name => rfl
  | none =>
      cases catalog.resolve field.type with
      | some known => rfl
      | none =>
          cases field.type.target.isEnum with
          | true => rfl
          | false => rfl

/-- What a place adds to the columns by itself. -/
def ownColumns (catalog : Catalog) (place : FieldPlace) : Except CompileError (List Column) :=
  if catalog.Stores place.field then .ok (catalog.columnAt? place).toList
  else .error place.fault

section

variable {place : FieldPlace}

theorem ownColumns_of_typed {columnType : ColumnType}
    (known : catalog.fieldColumnType place.field = some columnType) :
    catalog.ownColumns place = .ok [leafColumn place.path place.field columnType] := by
  have stores : catalog.Stores place.field := by
    exact .inl (by rw [isTyped_eq, known]; rfl)
  rw [ownColumns, if_pos stores, columnAt?, known]
  rfl

/-- A value object has no column itself. -/
theorem ownColumns_of_composite (untyped : catalog.fieldColumnType place.field = none)
    (composite : place.field.type.target.isComposite = true)
    (present : place.field.type.nullable = false) : catalog.ownColumns place = .ok [] := by
  have stores : catalog.Stores place.field := .inr ⟨composite, present⟩
  rw [ownColumns, if_pos stores, columnAt?, untyped]
  rfl

theorem ownColumns_of_untyped (untyped : catalog.fieldColumnType place.field = none)
    (refused : place.field.type.target.isComposite = true → place.field.type.nullable = true) :
    catalog.ownColumns place = .error place.fault := by
  have unstorable : ¬ catalog.Stores place.field := by
    simpa [Stores, isTyped_eq, untyped] using refused
  rw [ownColumns, if_neg unstorable]

end

mutual

theorem columnsBelow_eq (catalog : Catalog) (path : List String) (cls : ClassDecl) :
    catalog.columnsBelow path cls = gather catalog.ownColumns (catalog.placesBelow path cls) := by
  cases cls
  exact columnsOfFields_eq catalog path _

/-- Fields are flattened place by place. -/
theorem columnsOfFields_eq (catalog : Catalog) (path : List String) (fields : List FieldDecl) :
    catalog.columnsOfFields path fields =
      gather catalog.ownColumns (catalog.placesOfFields path fields) := by
  match fields with
  | [] => rfl
  | ⟨name, ⟨target, nullable, arguments⟩, tags⟩ :: rest =>
      rw [columnsOfFields, placesOfFields, gather_append, gather_cons,
        columnsOfFields_eq catalog path rest, columnsBelow_eq catalog (path ++ [name]) target,
        isTyped_eq]
      -- The walk goes on within each of its branches, so the kinds of a field come first.
      cases known : catalog.fieldColumnType ⟨name, ⟨target, nullable, arguments⟩, tags⟩ with
      | some columnType =>
          rw [ownColumns_of_typed known]
          rfl
      | none =>
          cases composite : target.isComposite with
          | false =>
              rw [ownColumns_of_untyped known (by simp [composite])]
              simp only [FieldPlace.fault, composite]
              rfl
          | true =>
              cases nullable with
              | true =>
                  rw [ownColumns_of_untyped known fun _ => rfl]
                  simp only [FieldPlace.fault, composite]
                  rfl
              | false =>
                  rw [ownColumns_of_composite known composite rfl]
                  simp only [Option.isSome_none, Bool.not_false, Bool.true_and, if_true]
                  cases gather catalog.ownColumns (catalog.placesBelow (path ++ [name]) target) with
                  | error fault => rfl
                  | ok own => rfl

end

theorem columns_eq (entity : ClassDecl) :
    catalog.columns entity = gather catalog.ownColumns (catalog.places entity) :=
  columnsBelow_eq catalog [] entity

theorem exists_ownColumns_iff {place : FieldPlace} :
    (∃ columns, catalog.ownColumns place = .ok columns) ↔ catalog.Stores place.field := by
  unfold ownColumns
  split
  case isTrue stores => simp [stores]
  case isFalse unstorable => simp [unstorable]

/-- Where every place can be stored, the columns are those of the places. -/
theorem columns_of_stored {entity : ClassDecl}
    (stored : ∀ place, place ∈ catalog.places entity → catalog.Stores place.field) :
    catalog.columns entity = .ok (catalog.placeColumns entity) := by
  have own : (catalog.places entity).mapM catalog.ownColumns =
      .ok ((catalog.places entity).map fun place => (catalog.columnAt? place).toList) := by
    rw [mapM_eq_ok_iff, List.map_map]
    exact List.map_congr_left fun place member => if_pos (stored place member)
  rw [columns_eq, gather, own, placeColumns, List.filterMap_eq_flatMap_toList, List.flatMap_def]
  rfl

/-- Of the places that cannot be stored the first is the error. -/
theorem columns_of_unstored {entity : ClassDecl}
    (unstored : ∃ place, place ∈ catalog.places entity ∧ ¬ catalog.Stores place.field) :
    ∃ before place after, catalog.places entity = before ++ place :: after ∧
      (∀ earlier, earlier ∈ before → catalog.Stores earlier.field) ∧
      ¬ catalog.Stores place.field ∧ catalog.columns entity = .error place.fault := by
  rw [columns_eq, gather]
  cases gathered : (catalog.places entity).mapM catalog.ownColumns with
  | ok columns =>
      obtain ⟨place, member, unstorable⟩ := unstored
      have success := exists_mapM_iff.mp ⟨columns, gathered⟩ place member
      exact (unstorable (exists_ownColumns_iff.mp success)).elim
  | error fault =>
      obtain ⟨before, place, after, split, succeed, failed⟩ := mapM_eq_error_iff.mp gathered
      have unstorable : ¬ catalog.Stores place.field := by
        intro stores
        obtain ⟨columns, success⟩ := exists_ownColumns_iff.mpr stores
        cases success.symm.trans failed
      rw [ownColumns, if_neg unstorable] at failed
      cases failed
      exact ⟨before, place, after, split,
        fun earlier member => exists_ownColumns_iff.mp (succeed earlier member), unstorable, rfl⟩

theorem paths_columnAt? (places : List FieldPlace) :
    (places.filterMap catalog.columnAt?).map Column.path =
      (places.filter fun place => catalog.isTyped place.field).map FieldPlace.path := by
  induction places with
  | nil => rfl
  | cons place rest induction =>
      cases known : catalog.fieldColumnType place.field with
      | none => simpa [columnAt?, isTyped_eq, known] using induction
      | some columnType => simpa [columnAt?, isTyped_eq, known, leafColumn] using induction

end Catalog

/-! ## Built tables -/

namespace Table

/-- The first column that repeats a name, and those before it, whose names all differ. -/
theorem repeatedName_eq_some {seen : List String} {columns : List Column} {name : String}
    (found : repeatedName seen columns = some name) :
    ∃ before column after, columns = before ++ column :: after ∧ column.name = name ∧
      (before.map Column.name).Nodup ∧
      (∀ other, other ∈ before.map Column.name → other ∉ seen) ∧
      (name ∈ seen ∨ name ∈ before.map Column.name) := by
  induction columns generalizing seen with
  | nil => cases found
  | cons column rest induction =>
      by_cases known : column.name ∈ seen
      · have here : column.name = name := by
          simpa [repeatedName, known] using found
        exact ⟨[], column, rest, rfl, here, List.nodup_nil, by simp, .inl (here ▸ known)⟩
      · have later : repeatedName (column.name :: seen) rest = some name := by
          simpa [repeatedName, known] using found
        obtain ⟨before, other, after, rfl, here, distinct, apart, repeated⟩ := induction later
        have fresh : column.name ∉ before.map Column.name :=
          fun member => apart column.name member List.mem_cons_self
        refine ⟨column :: before, other, after, rfl, here, ?_, ?_, ?_⟩
        · exact List.nodup_cons.mpr ⟨fresh, distinct⟩
        · rw [List.map_cons, List.forall_mem_cons]
          exact ⟨known, fun name member old =>
            apart name member (List.mem_cons_of_mem _ old)⟩
        · rw [List.map_cons, List.mem_cons]
          rcases repeated with old | inBefore
          · rcases List.mem_cons.mp old with same | older
            · exact .inr (.inl same)
            · exact .inl older
          · exact .inr (.inr inBefore)

section

variable {options : Options} {catalog : Catalog} {entity : ClassDecl}
  {overrides : Option ClassDecl}

theorem build_of_fault {fault : CompileError} (proper : entity.name.isUnit = false)
    (failed : catalog.columns entity = .error fault) :
    build options catalog entity overrides = .error fault := by
  simp only [build, proper, Bool.false_eq_true, if_false, failed]
  rfl

theorem build_of_repeated {columns : List Column} {name : String}
    (proper : entity.name.isUnit = false) (flattened : catalog.columns entity = .ok columns)
    (repeated : repeatedName [] columns = some name) :
    build options catalog entity overrides =
      .error (.duplicateColumn
        ((param? entity overrides "name").getD (snakeCase entity.name.name)) name) := by
  simp only [build, proper, Bool.false_eq_true, if_false, flattened, ok_bind, repeated]
  rfl

theorem build_of_distinct {columns : List Column} {plan : ReadPlan}
    (proper : entity.name.isUnit = false) (flattened : catalog.columns entity = .ok columns)
    (distinct : repeatedName [] columns = none)
    (planned : catalog.entityPlan entity columns = .ok plan) :
    ∃ table, build options catalog entity overrides = .ok table := by
  simp only [build, proper, Bool.false_eq_true, if_false, flattened, ok_bind, distinct, planned]
  exact ⟨_, rfl⟩

end

/-- What building the table of an entity comes to. It succeeds where every place of the entity
can be stored and all names of columns differ, and the columns are those of the places with a
column type, in their order. Otherwise it fails with the first place that cannot be stored,
or else with the first name that an earlier column has. Planning always succeeds. -/
structure BuildsExactly (options : Options) (catalog : Catalog) (entity : ClassDecl)
    (overrides : Option ClassDecl) : Prop where
  succeeds : (∃ table, build options catalog entity overrides = .ok table) ↔
    (∀ place, place ∈ catalog.places entity → catalog.Stores place.field) ∧
      ((catalog.placeColumns entity).map Column.name).Nodup
  columns : ∀ table, build options catalog entity overrides = .ok table →
    table.columns = catalog.placeColumns entity ∧
      table.columns.map Column.path =
        ((catalog.places entity).filter fun place => catalog.isTyped place.field).map
          FieldPlace.path
  unstored : (∃ place, place ∈ catalog.places entity ∧ ¬ catalog.Stores place.field) →
    ∃ before place after, catalog.places entity = before ++ place :: after ∧
      (∀ earlier, earlier ∈ before → catalog.Stores earlier.field) ∧
      ¬ catalog.Stores place.field ∧
      build options catalog entity overrides = .error place.fault
  repeated : (∀ place, place ∈ catalog.places entity → catalog.Stores place.field) →
    ¬ ((catalog.placeColumns entity).map Column.name).Nodup →
    ∃ before column after, catalog.placeColumns entity = before ++ column :: after ∧
      (before.map Column.name).Nodup ∧ column.name ∈ before.map Column.name ∧
      build options catalog entity overrides =
        .error (.duplicateColumn
          ((param? entity overrides "name").getD (snakeCase entity.name.name)) column.name)
  planned : ∀ columns, catalog.columns entity = .ok columns →
    ∃ plan, catalog.entityPlan entity columns = .ok plan

/-- Where the fields of each class have names of their own, the table of an entity can be built
unless a field or the name of a column stands against it, and the error is the first of them. -/
theorem build_exactly {options : Options} {catalog : Catalog} {entity : ClassDecl}
    {overrides : Option ClassDecl} (proper : entity.name.isUnit = false)
    (distinct : entity.DistinctFields) : BuildsExactly options catalog entity overrides := by
  have planned : ∀ columns, catalog.columns entity = .ok columns →
      ∃ plan, catalog.entityPlan entity columns = .ok plan := by
    intro columns flattened
    obtain ⟨parts, planned, _⟩ := (columns_eq_ok_iff.mp flattened).entityPlan_mirrors distinct
    exact ⟨_, planned⟩
  have parts : ∀ table, build options catalog entity overrides = .ok table →
      (∀ place, place ∈ catalog.places entity → catalog.Stores place.field) ∧
        table.columns = catalog.placeColumns entity := by
    intro table built
    have flattened := columns_eq_ok_iff.mpr (build_parts built proper).1
    have stored : ∀ place, place ∈ catalog.places entity → catalog.Stores place.field := by
      by_contra unstored
      simp only [not_forall] at unstored
      obtain ⟨place, member, unstorable⟩ := unstored
      obtain ⟨_, _, _, _, _, _, failed⟩ :=
        Catalog.columns_of_unstored ⟨place, member, unstorable⟩
      cases failed.symm.trans flattened
    exact ⟨stored, Except.ok.inj (flattened.symm.trans (Catalog.columns_of_stored stored))⟩
  refine ⟨⟨?_, ?_⟩, ?_, ?_, ?_, planned⟩
  · rintro ⟨table, built⟩
    obtain ⟨stored, columns⟩ := parts table built
    exact ⟨stored, columns ▸ build_names_nodup built⟩
  · rintro ⟨stored, names⟩
    have flattened := Catalog.columns_of_stored stored
    obtain ⟨plan, success⟩ := planned _ flattened
    have unrepeated : repeatedName [] (catalog.placeColumns entity) = none :=
      repeatedName_eq_none_iff.mpr ⟨names, fun _ _ => List.not_mem_nil⟩
    exact build_of_distinct proper flattened unrepeated success
  · intro table built
    have columns := (parts table built).2
    exact ⟨columns, columns ▸ Catalog.paths_columnAt? _⟩
  · intro unstored
    obtain ⟨before, place, after, split, stored, unstorable, failed⟩ :=
      Catalog.columns_of_unstored unstored
    exact ⟨before, place, after, split, stored, unstorable, build_of_fault proper failed⟩
  · intro stored names
    cases found : repeatedName [] (catalog.placeColumns entity) with
    | none => exact (names (repeatedName_eq_none_iff.mp found).1).elim
    | some name =>
        obtain ⟨before, column, after, split, rfl, unrepeated, _, inBefore⟩ :=
          repeatedName_eq_some found
        exact ⟨before, column, after, split, unrepeated, inBefore.resolve_left List.not_mem_nil,
          build_of_repeated proper (Catalog.columns_of_stored stored) found⟩

end Table

namespace Shipment

/-- A field that is stored in a column of its own name. -/
def stored (name type : String) : FieldDecl :=
  ⟨name, .named type, [⟨TagName.column, [("name", name)]⟩]⟩

def address : ClassDecl where
  name := .bare "Address"
  fields := [stored "city" "String"]

/-- A shipment from one city to another, with the same name for the columns of both. -/
def entity : ClassDecl where
  name := .bare "Shipment"
  tags := [⟨TagName.table, [("name", "shipment")]⟩]
  fields := [stored "id" "i64", ⟨"sender", { target := address }, []⟩, stored "city" "String"]

theorem entity_distinctFields : entity.DistinctFields := by
  simp [entity, address, stored, TypeUse.named, ClassDecl.DistinctFields, DistinctBelow]

/-- A place on a map, of a type that no column has. -/
def goal : ClassDecl where
  name := .bare "Goal"
  fields := [⟨"street", .named "String", []⟩, ⟨"point", .named "Point", []⟩]

/-- A shipment that goes to a place on a map. -/
def mapped : ClassDecl where
  name := .bare "MappedShipment"
  fields := [⟨"id", .named "i64", []⟩, ⟨"goal", { target := goal }, []⟩,
    ⟨"area", .named "Area", []⟩]

theorem mapped_distinctFields : mapped.DistinctFields := by
  simp [mapped, goal, TypeUse.named, ClassDecl.DistinctFields, DistinctBelow]

end Shipment

/-- All fields of a shipment can be stored, but not two of them under one name. Of two fields
that cannot be stored the first is named, with the field that holds it. -/
theorem Table.build_exactly_shipment :
    Shipment.entity.name.isUnit = false ∧ Shipment.entity.DistinctFields ∧
      Shipment.mapped.name.isUnit = false ∧ Shipment.mapped.DistinctFields ∧
      Table.BuildsExactly {} .builtin Shipment.entity none ∧
      (∀ table, Table.build {} .builtin Shipment.entity none ≠ .ok table) ∧
      Table.build {} .builtin Shipment.entity none =
        .error (.duplicateColumn "shipment" "city") ∧
      Table.BuildsExactly {} .builtin Shipment.mapped none ∧
      Table.build {} .builtin Shipment.mapped none = .error (.unmappableType "goal.point") := by
  have exactly : Table.BuildsExactly {} .builtin Shipment.entity none :=
    Table.build_exactly rfl Shipment.entity_distinctFields
  have repeated : ¬ ((Catalog.builtin.placeColumns Shipment.entity).map Column.name).Nodup := by
    decide
  have unbuilt : ∀ table, Table.build {} .builtin Shipment.entity none ≠ .ok table := by
    intro table built
    exact repeated (exactly.succeeds.mp ⟨table, built⟩).2
  exact ⟨rfl, Shipment.entity_distinctFields, rfl, Shipment.mapped_distinctFields, exactly,
    unbuilt, rfl, Table.build_exactly rfl Shipment.mapped_distinctFields, rfl⟩

end RowPlan
