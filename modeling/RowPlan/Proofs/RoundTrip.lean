import RowPlan.Proofs.BaseFunctions
import RowPlan.Proofs.BuiltTable
import RowPlan.Proofs.Instance

/-!
# Saving and reading back

The save of an entity binds the value at the path of each column, and the plan of
the entity reads each column back into the field it came from. The columns and the
plan come from two walks over the same fields, so the induction is on the
description of the first with that of the second beside it.
-/

namespace RowPlan

section

variable {V : Type} {catalog : Catalog}

theorem HoldsSaved.split {plusOne : V → V} {row : List (String × V)}
    {columns others : List Column} {binds otherBinds : List V}
    (lengths : binds.length = columns.length)
    (holds : HoldsSaved plusOne row (columns ++ others) (binds ++ otherBinds)) :
    HoldsSaved plusOne row columns binds ∧ HoldsSaved plusOne row others otherBinds := by
  induction columns generalizing binds with
  | nil =>
      obtain rfl := List.eq_nil_of_length_eq_zero lengths
      exact ⟨.nil, holds⟩
  | cons column rest induction =>
      cases binds with
      | nil => cases lengths
      | cons bound more =>
          obtain ⟨held, restHeld⟩ := List.forall₂_cons.mp holds
          obtain ⟨left, right⟩ := induction (Nat.succ.inj lengths) restHeld
          exact ⟨.cons held left, right⟩

section

variable {plusOne : V → V} {row : List (String × V)} {field : FieldDecl}
  {rest : List FieldDecl} {values : List (String × Instance V)} {parts : List ReadPlan}

theorem evaluateParts_leaf {path : List String} {columnType : ColumnType} {stored : V}
    (held : row.lookup (leafColumn path field columnType).name =
      some ((leafColumn path field columnType).boundTerm.value plusOne stored))
    (others : ReadPlan.evaluateParts row parts =
      some (Instance.savedFields plusOne rest values)) :
    ReadPlan.evaluateParts row
        (.read (catalog.extractor (leafColumn path field columnType) field.name field.type)
          :: parts) =
      some (Instance.savedFields plusOne (field :: rest)
        ((field.name, .leaf stored) :: values)) := by
  have version : (leafColumn path field columnType).boundTerm =
      if field.has TagName.version then .plusOne else .asBound :=
    rfl
  have value : (if field.has TagName.version then BoundTerm.plusOne
      else .asBound).value plusOne stored =
        if field.has TagName.version then plusOne stored else stored := by
    cases field.has TagName.version with
    | true => rfl
    | false => rfl
  rw [version, value] at held
  simp [ReadPlan.evaluateParts, ReadPlan.evaluate, ReadPlan.field?, Catalog.extractor, held,
    others, Instance.savedFields, Instance.savedField, Instance.saved]

theorem evaluateParts_composite {nested : List (String × Instance V)}
    {nestedParts : List ReadPlan}
    (nestedRead : ReadPlan.evaluateParts row nestedParts =
      some (Instance.savedFields plusOne field.type.target.fields nested))
    (others : ReadPlan.evaluateParts row parts =
      some (Instance.savedFields plusOne rest values)) :
    ReadPlan.evaluateParts row
        (.build (some field.name) field.type.target.name nestedParts :: parts) =
      some (Instance.savedFields plusOne (field :: rest)
        ((field.name, .object field.type.target.name nested) :: values)) := by
  simp [ReadPlan.evaluateParts, ReadPlan.evaluate, ReadPlan.field?, nestedRead, others,
    Instance.savedFields, Instance.savedField, Instance.saved]

end

/-- The values of some fields are found at the paths of their columns, and a row that
holds them is read back as these values. -/
theorem Flattens.evaluateParts_saved {path : List String} {fields : List FieldDecl}
    {columns : List Column} {parts : List ReadPlan}
    {values : List (String × Instance V)} {root : Instance V}
    (plusOne : V → V)
    (flattens : Flattens catalog path fields columns)
    (names : (fields.map FieldDecl.name).Nodup)
    (distinct : DistinctBelow fields)
    (mirrors : Mirrors catalog path fields parts)
    (fieldValues : FieldValues catalog fields values)
    (located : ∀ name value, (name, value) ∈ values → ∀ below,
      root.at? (path ++ name :: below) = value.at? below) :
    ∃ binds, columns.mapM (fun column => root.at? column.path) = some binds ∧
      binds.length = columns.length ∧
      ∀ row, HoldsSaved plusOne row columns binds →
        ReadPlan.evaluateParts row parts =
          some (Instance.savedFields plusOne fields values) := by
  induction flattens generalizing parts values with
  | nil =>
      cases mirrors
      cases fieldValues
      exact ⟨[], rfl, rfl, fun _ _ => rfl⟩
  | @leaf path field rest columnType others known _ induction =>
      simp only [List.map_cons, List.nodup_cons] at names
      cases mirrors with
      | composite untyped => simp [untyped] at known
      | @leaf _ _ _ planType otherParts planKnown otherMirrors =>
      cases fieldValues with
      | composite untyped => simp [untyped] at known
      | @leaf _ _ _ stored otherValues _ otherFieldValues =>
      obtain rfl : columnType = planType := Option.some.inj (known.symm.trans planKnown)
      obtain ⟨binds, bound, length, evaluated⟩ :=
        induction names.2 (distinctBelow_cons.mp distinct).2 otherMirrors otherFieldValues
          fun name value member => located name value (List.mem_cons_of_mem _ member)
      have here : root.at? (path ++ [field.name]) = some stored :=
        located field.name (.leaf stored) List.mem_cons_self []
      refine ⟨stored :: binds, ?_, congrArg Nat.succ length, ?_⟩
      · simp [List.mapM_cons, leafColumn, here, bound]
      · intro row holds
        obtain ⟨held, othersHeld⟩ := List.forall₂_cons.mp holds
        exact evaluateParts_leaf held (evaluated row othersHeld)
  | @composite path field rest own others untyped _ _ ownFlattens _ ownInduction induction =>
      simp only [List.map_cons, List.nodup_cons] at names
      obtain ⟨targetDistinct, restDistinct⟩ := distinctBelow_cons.mp distinct
      cases mirrors with
      | leaf known => simp [untyped] at known
      | @composite _ _ _ nestedParts otherParts _ nestedMirrors otherMirrors =>
      cases fieldValues with
      | leaf known => simp [untyped] at known
      | @composite _ _ nested otherValues _ nestedValues otherFieldValues =>
      have nestedNames : (nested.map Prod.fst).Nodup :=
        nestedValues.names ▸ targetDistinct.names
      obtain ⟨nestedBinds, nestedBound, nestedLength, nestedEvaluated⟩ :=
        ownInduction targetDistinct.names targetDistinct.below nestedMirrors nestedValues
          fun name value member below => by
            have here := located field.name _ List.mem_cons_self (name :: below)
            rw [Instance.at?_object nestedNames member] at here
            simpa using here
      obtain ⟨binds, bound, length, evaluated⟩ :=
        induction names.2 restDistinct otherMirrors otherFieldValues
          fun name value member => located name value (List.mem_cons_of_mem _ member)
      refine ⟨nestedBinds ++ binds, ?_, ?_, ?_⟩
      · simp [List.mapM_append, nestedBound, bound]
      · simp [nestedLength, length]
      · intro row holds
        obtain ⟨nestedHeld, othersHeld⟩ := holds.split nestedLength
        exact evaluateParts_composite (nestedEvaluated row nestedHeld)
          (evaluated row othersHeld)

theorem Flattens.evaluate_saved {cls : ClassDecl} {columns : List Column}
    {parts : List ReadPlan} {root : Instance V}
    (plusOne : V → V)
    (flattens : Flattens catalog [] cls.fields columns)
    (distinct : cls.DistinctFields)
    (mirrors : Mirrors catalog [] cls.fields parts)
    (fits : root.Fits catalog cls) :
    ∃ binds, columns.mapM (fun column => root.at? column.path) = some binds ∧
      binds.length = columns.length ∧
      ∀ row, HoldsSaved plusOne row columns binds →
        (ReadPlan.build none cls.name parts).evaluate row =
          some (root.saved plusOne false cls.fields) := by
  cases fits with
  | object fieldValues =>
      have names : (List.map Prod.fst _).Nodup := fieldValues.names ▸ distinct.names
      obtain ⟨binds, bound, length, evaluated⟩ :=
        flattens.evaluateParts_saved plusOne distinct.names distinct.below mirrors
          fieldValues fun name value member => Instance.at?_object names member
      refine ⟨binds, bound, length, ?_⟩
      intro row holds
      simp [ReadPlan.evaluate, evaluated row holds, Instance.saved]

end

/-! ## The round trip -/

theorem mapM_columnSlots {V : Type} (parameter : ParameterDecl) (columns : List Column)
    (root : Instance V) :
    (columns.map (columnSlot .single parameter)).mapM
        (fun slot => (slot.below? parameter.name).bind fun path => root.at? path) =
      columns.mapM fun column => root.at? column.path := by
  rw [List.mapM_map]
  congr 1
  funext column
  simp [columnSlot, BindSlot.below?]

/-- The save of an entity and the query for all entities are about the same columns.
A row with the bound values of an instance, version columns one higher, is read back
as that instance with its version fields one higher. -/
theorem save_findAll_roundTrip {options : Options} {catalog : Catalog}
    {entity : ClassDecl} {overrides : Option ClassDecl} {table : Table}
    {saving finding : FunctionDecl} {save findAll : Method}
    (proper : entity.name.isUnit = false)
    (distinct : entity.DistinctFields)
    (lists : catalog.ReadsLists)
    (built : Table.build options catalog entity overrides = .ok table)
    (savingBase : saving ∈ Repository.baseFunctions entity)
    (savingName : saving.name = "save")
    (findingBase : finding ∈ Repository.baseFunctions entity)
    (findingName : finding.name = "find_all")
    (saveCompiled : Scope.compile ⟨options, catalog, table, entity⟩ saving = .ok save)
    (findCompiled : Scope.compile ⟨options, catalog, table, entity⟩ finding = .ok findAll) :
    save.sql =
        (table.saveCommand table.hasIds).text options (table.ref options) ∧
      findAll.archetype = .finder ∧
      findAll.sql =
        "SELECT " ++ ", ".intercalate ((table.columns.map Column.name).map options.quote)
          ++ " FROM " ++ table.ref options
          ++ (if findAll.returnsCollection then ""
            else s!" LIMIT {options.singleResultCap.toNat}") ∧
      ∃ plan, findAll.plan = some plan ∧
        ∀ {V : Type} (plusOne : V → V) (object : Instance V), object.Fits catalog entity →
          ∃ binds,
            save.slots.mapM (fun slot => (slot.below? "item").bind fun path => object.at? path) =
              some binds ∧
            plan.evaluate ((table.saveCommand table.hasIds).row plusOne binds) =
              some (object.saved plusOne false entity.fields) := by
  obtain ⟨flattens, names, tablePlan, planFound, planned⟩ :=
    Table.build_parts built proper
  obtain ⟨parts, mirrored, mirrors⟩ := flattens.entityPlan_mirrors distinct
  obtain rfl := Except.ok.inj (planned.symm.trans mirrored)
  -- The save binds one slot for each column.
  have saveKind : Scope.archetype ⟨options, catalog, table, entity⟩ saving = .save :=
    Scope.archetype_save savingBase savingName
  obtain ⟨parameter, parameters, execution, saveSql, saveSlots, _⟩ :=
    Scope.compiled_save saveCompiled (Scope.compile_archetype saveCompiled ▸ saveKind)
  obtain rfl := Repository.eq_save savingBase savingName
  obtain rfl : (⟨"item", { target := entity }, []⟩ : ParameterDecl) = parameter :=
    (List.cons.inj parameters).1
  have single : save.execution = .single := by
    simpa [Scope.execution?, TypeUse.name] using execution.symm
  rw [Scope.saveUpdates_save] at saveSql
  -- The query selects these columns and reads them with the plan of the table.
  obtain ⟨kind, findSql, _, findPlan⟩ :=
    Scope.compiled_findAll findingBase findingName lists findCompiled
  refine ⟨saveSql, kind, findSql, .build none entity.name parts,
    findPlan.trans planFound, ?_⟩
  intro V plusOne object fits
  obtain ⟨binds, bound, lengths, evaluated⟩ :=
    flattens.evaluate_saved plusOne distinct mirrors fits
  refine ⟨binds, ?_, ?_⟩
  · rw [saveSlots, single]
    exact (mapM_columnSlots ⟨"item", { target := entity }, []⟩ table.columns object).trans
      bound
  · exact evaluated _ (table.saveCommand_row_holds table.hasIds plusOne names lengths)

/-! ### A car -/

namespace Car

/-- A car with 90 horsepower, stored once. -/
def small : Instance Int :=
  .object (.bare "Car") [
    ("id", .leaf 7),
    ("engine", .object (.bare "Engine") [("power", .leaf 90)]),
    ("revision", .leaf 1)]

def findAll : FunctionDecl where
  name := "find_all"
  returnType := TypeUse.named "Vec" [{ target := entity }]

theorem small_fits : small.Fits .builtin entity :=
  .object (.leaf rfl (.composite rfl (.leaf rfl .nil) (.leaf rfl .nil)))

theorem entity_distinctFields : entity.DistinctFields := by
  simp [ClassDecl.DistinctFields, DistinctBelow, entity, engine, TypeUse.named]

end Car

theorem Catalog.readsLists_builtin : Catalog.builtin.ReadsLists := by
  intro known found bytes
  have list : Catalog.builtin.lookup (QualifiedName.ofPath "Vec") =
      some ⟨.jsonb, "json", false⟩ := by
    rfl
  cases list.symm.trans found
  cases bytes

/-- The car is read back with its revision one higher. -/
theorem save_findAll_roundTrip_car :
    ∃ save findAll plan binds,
      Car.scope.compile Car.save = .ok save ∧
      Car.scope.compile Car.findAll = .ok findAll ∧
      save.sql = "INSERT INTO \"car\" (\"id\", \"power\", \"revision\") VALUES (?, ?, ? + 1)" ++
        " ON CONFLICT (\"id\") DO UPDATE SET \"power\" = EXCLUDED.\"power\"," ++
        " \"revision\" = EXCLUDED.\"revision\"" ++
        " WHERE \"car\".\"revision\" = EXCLUDED.\"revision\" - 1" ∧
      findAll.sql = "SELECT \"id\", \"power\", \"revision\" FROM \"car\"" ∧
      findAll.plan = some plan ∧
      save.slots.mapM (fun slot => (slot.below? "item").bind fun path => Car.small.at? path) =
        some binds ∧
      plan.evaluate ((Car.table.saveCommand true).row (· + 1) binds) =
        some (.object (.bare "Car") [
          ("id", .leaf 7),
          ("engine", .object (.bare "Engine") [("power", .leaf 90)]),
          ("revision", .leaf 2)]) := by
  obtain ⟨save, saved⟩ : ∃ save, Car.scope.compile Car.save = .ok save := ⟨_, rfl⟩
  obtain ⟨findAll, found, select⟩ : ∃ findAll, Car.scope.compile Car.findAll = .ok findAll ∧
      findAll.sql = "SELECT \"id\", \"power\", \"revision\" FROM \"car\"" :=
    ⟨_, rfl, rfl⟩
  obtain ⟨insert, _, _, plan, planned, roundTrip⟩ :=
    save_findAll_roundTrip rfl Car.entity_distinctFields Catalog.readsLists_builtin
      Car.table_built
      (List.mem_of_find?_eq_some (p := fun function => function.name == "save") rfl) rfl
      (List.mem_of_find?_eq_some (p := fun function => function.name == "find_all") rfl) rfl
      saved found
  obtain ⟨binds, bound, evaluated⟩ := roundTrip (· + 1) Car.small Car.small_fits
  exact ⟨save, findAll, plan, binds, saved, found, insert.trans Car.saveCommand_text, select,
    planned, bound, evaluated⟩

/-- Where the catalog stores lists as bytes and reads them as numbers, the list of all
cars is taken for one number. -/
theorem findAll_counts_lists_of_bytes :
    let catalog := Catalog.builtin.register "Vec" ⟨.bytea, "i64", false⟩
    let scope : Scope := ⟨{}, catalog, Car.table, Car.entity⟩
    Car.entity.name.isUnit = false ∧ Car.entity.DistinctFields ∧
      Table.build {} catalog Car.entity none = .ok Car.table ∧
      (∃ save, scope.compile Car.save = .ok save) ∧
      ∃ findAll, scope.compile Car.findAll = .ok findAll ∧
        findAll.archetype = .count ∧
        findAll.sql = "SELECT count(*) FROM \"car\"" ∧
        ∀ plan, findAll.plan = some plan → plan.columns = [] := by
  refine ⟨rfl, Car.entity_distinctFields, rfl, ⟨_, rfl⟩, _, rfl, rfl, rfl, ?_⟩
  intro plan planned
  cases planned
  rfl

end RowPlan
