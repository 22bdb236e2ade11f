import RowPlan.Proofs.BaseFunctions
import RowPlan.Proofs.GuardedDelete

/-!
# Base methods

The functions that a repository does not declare itself are compiled like declared ones. With
the built-in catalog they compile for every entity that is not named like a list, a byte or
the type of no value, so that a repository compiles as soon as its own functions do.
-/

namespace RowPlan

namespace Method

/-- The method of a base function of an entity. -/
inductive IsBase (entity : ClassDecl) (method : Method) : Prop where
  | save :
      method.name = "save" → method.archetype = .save → method.execution = .single →
      IsBase entity method
  | saveAll :
      method.name = "save_all" → method.archetype = .save → method.execution = .batch →
      IsBase entity method
  | findAll :
      method.name = "find_all" → method.archetype = .finder →
      method.returnsCollection = true → method.rowType = { target := entity } →
      IsBase entity method
  | deleteAll :
      method.name = "delete_all" → method.archetype = .deleteByFields → method.slots = [] →
      IsBase entity method

end Method

/-! ## Lists of entities -/

theorem Catalog.builtin_collects {entity : ClassDecl} (noByte : entity.name.name ≠ "u8") :
    Catalog.builtin.isCollection (TypeUse.named "Vec" [{ target := entity }]) = true := by
  have list : (QualifiedName.ofPath "Vec").isList = true := by decide
  have known : Catalog.builtin.lookup (QualifiedName.ofPath "Vec") =
      some ⟨.jsonb, "json", false⟩ := rfl
  simp [isCollection, resolve, isByteList, TypeUse.named, TypeUse.name, TypeUse.element?,
    ClassDecl.isComposite, noByte, list, known]

namespace Scope

variable {scope : Scope} {function : FunctionDecl}

theorem execution?_entity : scope.execution? { target := scope.entity } = some .single := by
  simp [execution?, TypeUse.name]

theorem execution?_entities (noList : scope.entity.name.name ≠ "Vec")
    (collects : scope.catalog.isCollection
      (TypeUse.named "Vec" [{ target := scope.entity }]) = true) :
    scope.execution? (TypeUse.named "Vec" [{ target := scope.entity }]) = some .batch := by
  have other : (TypeUse.named "Vec" [{ target := scope.entity }]).name ≠ scope.entity.name := by
    intro same
    exact noList (congrArg QualifiedName.name same).symm
  rw [execution?, if_neg other, collects]
  simp [TypeUse.named, TypeUse.element?, TypeUse.name]

/-! ## Functions without tags -/

theorem compile_save_untagged {parameter : ParameterDecl} {execution : Execution}
    (untagged : function.tags = []) (saves : startsWith "save" function.name = true)
    (parameters : function.parameters = [parameter])
    (found : scope.execution? parameter.type = some execution) :
    ∃ method, scope.compile function = .ok method ∧ method.name = function.name ∧
      method.archetype = .save ∧ method.execution = execution := by
  have drafted := draft_of_save (archetype_of_save untagged saves) parameters found
  exact ⟨_, compile_eq_ok_iff.mpr ⟨_, drafted, rfl⟩, rfl, rfl, rfl⟩

section

variable (untagged : function.tags = []) (parameters : function.parameters = [])

include untagged parameters

/-- All entities are found by a function that asks for a list of them. -/
theorem compile_find_entities {plan : ReadPlan} (planned : scope.table.plan = some plan)
    (noSave : startsWith "save" function.name = false)
    (noDelete : startsWith "delete" function.name = false)
    (type : function.returnType = TypeUse.named "Vec" [{ target := scope.entity }])
    (collects : scope.catalog.isCollection function.returnType = true) :
    ∃ method, scope.compile function = .ok method ∧ method.name = function.name ∧
      method.archetype = .finder ∧ method.returnsCollection = true ∧
      method.rowType = { target := scope.entity } := by
  have noPage : function.returnType.name.isPage = false := type ▸ noPage_list _
  obtain ⟨many, row⟩ := ReturnShape.of_collection noPage collects
  replace row : (ReturnShape.of scope.catalog function.returnType).row =
      { target := scope.entity } := by
    rw [row, type]
    rfl
  have kind : scope.archetype function = .finder := by
    simp [archetype_of_reading untagged noSave noDelete, Catalog.readingArchetype, many]
  have rows : scope.rows function { target := scope.entity } =
      .ok (scope.table.columns.map Column.name, plan) := by
    simp [Scope.rows, planned, TypeUse.name]
  obtain ⟨suffix, suffixed⟩ : ∃ suffix,
      scope.suffix function (ReturnShape.of scope.catalog function.returnType) true = .ok suffix :=
    ⟨_, suffix_of_plain parameters untagged noPage⟩
  have drafted : scope.draft function = scope.find function := by
    simp only [draft, kind]
  simp only [find, row, rows, suffixed, condition_of_plain parameters untagged] at drafted
  exact ⟨_, compile_eq_ok_iff.mpr ⟨_, drafted, rfl⟩, rfl, rfl, many, rfl⟩

theorem compile_delete_untagged (noSave : startsWith "save" function.name = false)
    (deletes : startsWith "delete" function.name = true) :
    ∃ method, scope.compile function = .ok method ∧ method.name = function.name ∧
      method.archetype = .deleteByFields ∧ method.slots = [] := by
  have kind : scope.archetype function = .deleteByFields := by
    simp [archetype, deletingArchetype, FunctionDecl.has_of_untagged untagged, noSave, deletes,
      FunctionDecl.values, FunctionDecl.parametersOf_of_plain parameters]
  have valuesOnly : function.checkValuesOnly = .ok () := by
    rw [FunctionDecl.checkValuesOnly, parameters]
    rfl
  have drafted : scope.draft function = scope.deleteRows function .deleteByFields := by
    simp only [draft, kind, delete, valuesOnly]
    rfl
  simp only [deleteRows, condition_of_plain parameters untagged] at drafted
  exact ⟨_, compile_eq_ok_iff.mpr ⟨_, drafted, rfl⟩, rfl, rfl, (deletesAll_finish rfl).slots⟩

end

/-! ## Base functions -/

/-- Every base function of an entity compiles, to the method that its name promises. -/
theorem compile_base {plan : ReadPlan} (planned : scope.table.plan = some plan)
    (noList : scope.entity.name.name ≠ "Vec")
    (collects : scope.catalog.isCollection
      (TypeUse.named "Vec" [{ target := scope.entity }]) = true)
    (base : function ∈ Repository.baseFunctions scope.entity) :
    ∃ method, scope.compile function = .ok method ∧ method.IsBase scope.entity := by
  have untagged : function.tags = [] := Repository.untagged_of_base base
  simp only [Repository.baseFunctions, List.mem_cons, List.not_mem_nil, or_false] at base
  rcases base with base | base | base | base
  · have named : function.name = "save" := congrArg FunctionDecl.name base
    have saves : startsWith "save" function.name = true := by
      rw [named]
      decide
    obtain ⟨method, compiled, name, kind, execution⟩ :=
      compile_save_untagged untagged saves (congrArg FunctionDecl.parameters base)
        execution?_entity
    exact ⟨method, compiled, .save (name.trans named) kind execution⟩
  · have named : function.name = "save_all" := congrArg FunctionDecl.name base
    obtain ⟨method, compiled, name, kind, execution⟩ :=
      compile_save_untagged untagged (named ▸ by decide) (congrArg FunctionDecl.parameters base)
        (execution?_entities noList collects)
    exact ⟨method, compiled, .saveAll (name.trans named) kind execution⟩
  · have named : function.name = "find_all" := congrArg FunctionDecl.name base
    have type := congrArg FunctionDecl.returnType base
    obtain ⟨method, compiled, name, kind, collection, row⟩ :=
      compile_find_entities untagged (congrArg FunctionDecl.parameters base) planned
        (named ▸ by decide) (named ▸ by decide) type (type ▸ collects)
    exact ⟨method, compiled, .findAll (name.trans named) kind collection row⟩
  · have named : function.name = "delete_all" := congrArg FunctionDecl.name base
    obtain ⟨method, compiled, name, kind, slots⟩ :=
      compile_delete_untagged untagged (congrArg FunctionDecl.parameters base)
        (named ▸ by decide) (named ▸ by decide)
    exact ⟨method, compiled, .deleteAll (name.trans named) kind slots⟩

theorem name_of_compile {method : Method} (compiled : scope.compile function = .ok method) :
    method.name = function.name :=
  (declared_of_compile compiled).1

end Scope

/-! ## Repositories -/

namespace Repository

/-- The names of the base functions. -/
def baseNames : List String :=
  ["save", "save_all", "find_all", "delete_all"]

theorem undeclared_iff {interface : ClassDecl} {name : String} :
    (interface.function? name).isNone = true ↔
      name ∉ interface.functions.map FunctionDecl.name := by
  simp [ClassDecl.function?]

theorem names_of_undeclared (interface entity : ClassDecl) :
    ((baseFunctions entity).filter fun function =>
        (interface.function? function.name).isNone).map FunctionDecl.name =
      baseNames.filter fun name => name ∉ interface.functions.map FunctionDecl.name := by
  have names : (baseFunctions entity).map FunctionDecl.name = baseNames := rfl
  rw [← names, List.filter_map]
  congr 1
  apply List.filter_congr
  intro function _
  exact Bool.eq_iff_iff.mpr (undeclared_iff.trans decide_eq_true_iff.symm)

section

variable {scope : Scope} {interface : ClassDecl}

theorem entityOf_of_argument {argument : TypeUse} (stored : interface.argument = some argument)
    (proper : argument.name.isUnit = false) (composite : argument.target.isComposite = true) :
    entityOf interface = .ok argument.target := by
  have kept : (some argument).filter (fun type => !type.name.isUnit) = some argument := by
    simp [Option.filter, proper]
  simp only [entityOf, stored, kept, composite, if_true]

theorem compile_of_functions {methods : List Method}
    (found : entityOf interface = .ok scope.entity)
    (built : Table.build scope.options scope.catalog scope.entity (some interface) =
      .ok scope.table)
    (compiled : (functions interface scope.entity).mapM scope.compile = .ok methods) :
    ∃ repository, compile scope.options scope.catalog interface = .ok repository ∧
      repository.methods = methods := by
  refine ⟨⟨interface.name, databaseOf scope.options interface, scope.table, methods,
    SchemaCheck.of scope.options scope.table⟩, ?_, rfl⟩
  exact bind_eq_ok_iff.mpr ⟨scope.entity, found,
    bind_eq_ok_iff.mpr ⟨scope.table, built, bind_eq_ok_iff.mpr ⟨methods, compiled, rfl⟩⟩⟩

/-- The functions compile if the repository's own functions and the base functions do. -/
theorem compile_functions
    (own : ∀ function, function ∈ interface.functions → function.isAbstract = true →
      ∃ method, scope.compile function = .ok method)
    (base : ∀ function, function ∈ baseFunctions scope.entity →
      ∃ method, scope.compile function = .ok method) :
    ∃ declared added,
      (functions interface scope.entity).mapM scope.compile = .ok (declared ++ added) ∧
      (interface.functions.filter FunctionDecl.isAbstract).map scope.compile =
        declared.map .ok ∧
      ((baseFunctions scope.entity).filter fun function =>
        (interface.function? function.name).isNone).map scope.compile = added.map .ok := by
  obtain ⟨declared, ofOwn⟩ : ∃ declared,
      (interface.functions.filter FunctionDecl.isAbstract).mapM scope.compile = .ok declared := by
    apply exists_mapM_iff.mpr
    intro function member
    obtain ⟨among, isAbstract⟩ := List.mem_filter.mp member
    exact own function among isAbstract
  obtain ⟨added, ofBase⟩ : ∃ added,
      ((baseFunctions scope.entity).filter fun function =>
        (interface.function? function.name).isNone).mapM scope.compile = .ok added := by
    apply exists_mapM_iff.mpr
    intro function member
    exact base function (List.mem_filter.mp member).1
  rw [mapM_eq_ok_iff] at ofOwn ofBase
  refine ⟨declared, added, mapM_eq_ok_iff.mpr ?_, ofOwn, ofBase⟩
  rw [functions, List.map_append, List.map_append, ofOwn, ofBase]

theorem names_nodup_append {declared added : List String}
    (declaredNames : declared.Nodup)
    (addedNames : added =
      baseNames.filter fun name => name ∉ interface.functions.map FunctionDecl.name)
    (among : ∀ name, name ∈ declared → name ∈ interface.functions.map FunctionDecl.name) :
    (declared ++ added).Nodup := by
  have base : baseNames.Nodup := by decide
  rw [addedNames]
  refine List.nodup_append.mpr ⟨declaredNames, base.filter _, ?_⟩
  rintro name inDeclared _ inAdded rfl
  exact of_decide_eq_true (List.mem_filter.mp inAdded).2 (among name inDeclared)

end

/-- A repository compiles as soon as its own functions do. Its methods are those of the
functions, and after them a method for each base function that the repository does not
declare. -/
theorem compile_adds_base_methods {scope : Scope} {interface : ClassDecl} {argument : TypeUse}
    (catalog : scope.catalog = .builtin) (entity : scope.entity = argument.target)
    (stored : interface.argument = some argument)
    (composite : scope.entity.isComposite = true)
    (named : scope.entity.name.name ∉ ["Vec", "u8", "()"])
    (built : Table.build scope.options scope.catalog scope.entity (some interface) =
      .ok scope.table)
    (succeeds : ∀ function, function ∈ interface.functions → function.isAbstract = true →
      ∃ method, scope.compile function = .ok method) :
    ∃ repository declared added,
      compile scope.options scope.catalog interface = .ok repository ∧
      repository.methods = declared ++ added ∧
      (interface.functions.filter FunctionDecl.isAbstract).map scope.compile =
        declared.map .ok ∧
      added.map (fun method => method.name) =
        baseNames.filter (fun name => name ∉ interface.functions.map FunctionDecl.name) ∧
      (∀ method, method ∈ added → method.IsBase scope.entity) ∧
      (((interface.functions.filter FunctionDecl.isAbstract).map FunctionDecl.name).Nodup →
        (repository.methods.map fun method => method.name).Nodup) := by
  simp only [List.mem_cons, List.not_mem_nil, or_false, not_or] at named
  obtain ⟨noList, noByte, noUnit⟩ := named
  have proper : scope.entity.name.isUnit = false := by
    simp [QualifiedName.isUnit, noUnit]
  have found : entityOf interface = .ok scope.entity := by
    rw [entity] at proper composite ⊢
    exact entityOf_of_argument stored proper composite
  obtain ⟨_, _, plan, planned, _⟩ := Table.build_parts built proper
  have collects : scope.catalog.isCollection
      (TypeUse.named "Vec" [{ target := scope.entity }]) = true :=
    catalog ▸ Catalog.builtin_collects noByte
  have base : ∀ function, function ∈ baseFunctions scope.entity →
      ∃ method, scope.compile function = .ok method ∧ method.IsBase scope.entity :=
    fun function => Scope.compile_base planned noList collects
  have compiles : ∀ function, function ∈ baseFunctions scope.entity →
      ∃ method, scope.compile function = .ok method := by
    intro function member
    obtain ⟨method, success, _⟩ := base function member
    exact ⟨method, success⟩
  obtain ⟨declared, added, compiled, ofOwn, ofBase⟩ := compile_functions succeeds compiles
  obtain ⟨repository, success, methods⟩ := compile_of_functions found built compiled
  have ownNames := map_eq_of_map_ok (fun _ _ => Scope.name_of_compile) ofOwn
  have addedNames := (map_eq_of_map_ok (fun _ _ => Scope.name_of_compile) ofBase).trans
    (names_of_undeclared interface scope.entity)
  refine ⟨repository, declared, added, success, methods, ofOwn, addedNames, ?_, ?_⟩
  · exact forall_of_map_ok
      (fun function undeclared => base function (List.mem_filter.mp undeclared).1) ofBase
  · intro distinct
    rw [methods, List.map_append]
    apply names_nodup_append (ownNames ▸ distinct) addedNames
    intro name member
    rw [ownNames] at member
    obtain ⟨function, own, rfl⟩ := List.mem_map.mp member
    exact List.mem_map_of_mem (List.mem_filter.mp own).1

/-! ### A parcel -/

namespace Parcel

/-- An entity that is named like the sort orders of the runtime library. -/
def entity : ClassDecl where
  name := .bare "Order"
  tags := [⟨TagName.table, [("name", "parcel")]⟩]
  fields := [⟨"id", .named "i64", [⟨TagName.id, []⟩, Car.columnTag "id"]⟩]

def table : Table where
  entity := .bare "Order"
  name := "parcel"
  schema := none
  columns := [⟨["id"], .named "i64", "id", .bigInt, true, false⟩]
  plan := some (.build none (.bare "Order") [Car.readNumber "id" "i64"])

/-- Finds parcels in its own way, and does not delete them. -/
def orders : ClassDecl where
  name := .bare "Orders"
  isInterface := true
  argument := some { target := entity }
  functions := [
    { name := "find_all"
      returnType := .named "Vec" [{ target := entity }]
      tags := [⟨TagName.orderBy, [("value", "id DESC")]⟩] },
    { name := "delete_all", returnType := .unit, isAbstract := false }]

def scope : Scope where
  options := { markers := .numbered }
  catalog := .builtin
  table := table
  entity := entity

end Parcel

/-- Parcels are saved with the methods that are added. -/
theorem compile_adds_base_methods_parcel :
    ∃ repository, compile Parcel.scope.options .builtin Parcel.orders = .ok repository ∧
      repository.methods.map (fun method => method.name) = ["find_all", "save", "save_all"] ∧
      ∃ method, method ∈ repository.methods ∧ method.name = "save_all" ∧
        method.execution = .batch := by
  obtain ⟨repository, declared, added, compiled, methods, declaredEach, addedNames, base, _⟩ :=
    @compile_adds_base_methods Parcel.scope Parcel.orders { target := Parcel.entity } rfl rfl rfl
      rfl (by decide) rfl (by
        intro function member isAbstract
        simp only [Parcel.orders, List.mem_cons, List.not_mem_nil, or_false] at member
        rcases member with rfl | rfl
        · exact ⟨_, rfl⟩
        · cases isAbstract)
  have own : declared.map (fun method => method.name) = ["find_all"] :=
    map_eq_of_map_ok (fun _ _ => Scope.name_of_compile) declaredEach
  have others : added.map (fun method => method.name) = ["save", "save_all"] := addedNames
  refine ⟨repository, compiled, ?_, ?_⟩
  · rw [methods, List.map_append, own, others]
    rfl
  · have named : "save_all" ∈ added.map (fun method => method.name) := by
      rw [others]
      decide
    obtain ⟨method, member, name⟩ := List.mem_map.mp named
    refine ⟨method, methods ▸ List.mem_append_right declared member, name, ?_⟩
    cases base method member with
    | saveAll _ _ batch => exact batch
    | save other => simp [name] at other
    | findAll other => simp [name] at other
    | deleteAll other => simp [name] at other

end Repository

end RowPlan
