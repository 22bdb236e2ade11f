import Mathlib.Data.List.Forall2
import Mathlib.Data.List.Nodup
import RowPlan.Proofs.StructReferences
import RowPlan.Reading.Model

/-!
# Classes of a source model

A struct is expanded anew wherever a type names it: in the class list, in the fields of other
structs, as the entity of a repository and in the types of its functions. Where names are distinct
and references form no cycle, all of these are the one class that the model lists.
-/

namespace RowPlan

theorem Checked.all_eq_ok_iff {α : Type} {results : List (Checked α)} {values : List α} :
    Checked.all results = .ok values ↔ results = values.map .ok := by
  induction results generalizing values with
  | nil => simp [Checked.all, eq_comm]
  | cons first rest induction =>
      rw [Checked.all, map_eq_ok_iff]
      constructor
      · rintro ⟨⟨value, others⟩, read, rfl⟩
        obtain ⟨found, restFound⟩ := Checked.both_eq_ok_iff.mp read
        rw [found, induction.mp restFound, List.map_cons]
      · intro equality
        obtain ⟨value, others, rfl, found, restFound⟩ := List.map_eq_cons_iff.mp equality.symm
        have read : Checked.both first (Checked.all rest) = .ok (value, others) :=
          Checked.both_eq_ok_iff.mpr ⟨found.symm, induction.mpr restFound.symm⟩
        exact ⟨(value, others), read, rfl⟩

/-- What is read of several sources comes from one of them. -/
theorem Checked.exists_of_mem_all {α β : Type} {sources : List β} {read : β → Checked α}
    {values : List α} (success : Checked.all (sources.map read) = .ok values) {value : α}
    (member : value ∈ values) : ∃ source, source ∈ sources ∧ read source = .ok value := by
  have found : Except.ok value ∈ sources.map read :=
    Checked.all_eq_ok_iff.mp success ▸ List.mem_map_of_mem member
  exact List.mem_map.mp found

/-- Each of several sources is read. -/
theorem Checked.mem_of_all {α β : Type} {sources : List β} {read : β → Checked α}
    {values : List α} (success : Checked.all (sources.map read) = .ok values) {source : β}
    (member : source ∈ sources) : ∃ value, value ∈ values ∧ read source = .ok value := by
  have found : read source ∈ values.map Except.ok :=
    Checked.all_eq_ok_iff.mp success ▸ List.mem_map_of_mem member
  obtain ⟨value, inValues, same⟩ := List.mem_map.mp found
  exact ⟨value, inValues, same.symm⟩

namespace Declarations

variable {declarations : Declarations}

/-! ## Types outside of structs -/

theorem declaresAll_of_typeUse (acyclic : declarations.Acyclic) {type : TypeTree} {use : TypeUse}
    (success : declarations.typeUse [] type = .ok use) : declarations.DeclaresAll use :=
  (Expansion.expands_typeUse [] type).declares acyclic (.nil _) use success

theorem declaresAll_of_structClass (acyclic : declarations.Acyclic) {item : StructTree}
    {cls : ClassDecl} (member : item ∈ declarations.structs)
    (success : declarations.structClass [] item = .ok cls) :
    declarations.DeclaresAll { target := cls } :=
  (Expansion.expands_structClass [] item).declares acyclic (.nil _) member cls success

theorem declaresAll_of_outerTypeUse (acyclic : declarations.Acyclic) {type : TypeTree}
    {use : TypeUse} (success : declarations.outerTypeUse type = .ok use) :
    declarations.DeclaresAll use :=
  declaresAll_of_typeUse acyclic (Checked.of_eq_ok_iff.mp success)

theorem declaresAll_of_returnType (acyclic : declarations.Acyclic) {type : Option TypeTree}
    {use : TypeUse} (success : declarations.returnType type = .ok use) :
    declarations.DeclaresAll use := by
  cases type with
  | none =>
      cases success
      exact declaresAll_of_fieldless rfl nofun
  | some type => exact declaresAll_of_outerTypeUse acyclic success

theorem declaresAll_of_parameter (acyclic : declarations.Acyclic) {tree : ParameterTree}
    {parameter : ParameterDecl} (success : declarations.parameter tree = .ok parameter) :
    declarations.DeclaresAll parameter.type := by
  unfold Declarations.parameter at success
  split at success
  · cases success
  · obtain ⟨⟨type, tags⟩, both, rfl⟩ := map_eq_ok_iff.mp success
    exact declaresAll_of_outerTypeUse acyclic (Checked.both_eq_ok_iff.mp both).1

theorem declaresAll_of_function (acyclic : declarations.Acyclic) {tree : FunctionTree}
    {function : FunctionDecl} (success : declarations.function tree = .ok function) :
    declarations.DeclaresAll function.returnType ∧
      ∀ parameter, parameter ∈ function.parameters →
        declarations.DeclaresAll parameter.type := by
  have read := Checked.together_eq_ok_iff.mp success
  obtain ⟨⟨returnType, tags, parameters⟩, both, rfl⟩ := map_eq_ok_iff.mp read
  obtain ⟨returns, others⟩ := Checked.both_eq_ok_iff.mp both
  obtain ⟨_, all⟩ := Checked.both_eq_ok_iff.mp others
  refine ⟨declaresAll_of_returnType acyclic returns, ?_⟩
  intro parameter member
  obtain ⟨tree, _, found⟩ := Checked.exists_of_mem_all all member
  exact declaresAll_of_parameter acyclic found

theorem declaresAll_of_repository (acyclic : declarations.Acyclic) {item : TraitTree}
    {cls : ClassDecl} (success : declarations.repository item = .ok cls) :
    (∀ type, cls.argument = some type → declarations.DeclaresAll type) ∧
      ∀ function, function ∈ cls.functions →
        declarations.DeclaresAll function.returnType ∧
          ∀ parameter, parameter ∈ function.parameters →
            declarations.DeclaresAll parameter.type := by
  have read := Checked.together_eq_ok_iff.mp success
  obtain ⟨⟨tags, argument, functions⟩, both, rfl⟩ := map_eq_ok_iff.mp read
  obtain ⟨_, others⟩ := Checked.both_eq_ok_iff.mp both
  obtain ⟨entity, all⟩ := Checked.both_eq_ok_iff.mp others
  constructor
  · rintro type rfl
    cases written : item.entity? with
    | none =>
        rw [written] at entity
        cases entity
    | some tree =>
        rw [written] at entity
        obtain ⟨use, found, same⟩ := map_eq_ok_iff.mp entity
        cases same
        exact declaresAll_of_outerTypeUse acyclic found
  · intro function member
    obtain ⟨tree, _, found⟩ := Checked.exists_of_mem_all all member
    exact declaresAll_of_function acyclic (Checked.of_eq_ok_iff.mp found)

/-! ## Fields of structs -/

theorem forall₂_of_fields {opened : List String} {trees : List FieldTree}
    {results : List FieldDecl} (success : declarations.fields opened trees = .ok results) :
    List.Forall₂ (fun tree field =>
      Expansion.fieldOf tree (declarations.typeUse opened tree.type) = .ok field)
      trees results := by
  induction trees generalizing results with
  | nil =>
      rw [Declarations.fields] at success
      cases success
      exact .nil
  | cons tree rest induction =>
      rw [Expansion.fields_cons] at success
      obtain ⟨⟨field, others⟩, both, rfl⟩ := map_eq_ok_iff.mp success
      obtain ⟨found, restFound⟩ := Checked.both_eq_ok_iff.mp both
      exact .cons found (induction restFound)

/-- Without cycles the fields of a struct are what they are outside of it. -/
theorem fields_of_structClass (acyclic : declarations.Acyclic) {item : StructTree}
    {trees : List FieldTree} {cls : ClassDecl} (member : item ∈ declarations.structs)
    (shape : item.fields = .named trees) (success : declarations.structClass [] item = .ok cls) :
    List.Forall₂ (fun tree field =>
      Expansion.fieldOf tree (declarations.typeUse [] tree.type) = .ok field)
      trees cls.fields := by
  have apart := (Expansion.Call.Apart.nil (.struct item)).fields acyclic member shape
  rw [Expansion.structClass_eq, shape] at success
  obtain ⟨tags, _, success⟩ := bind_eq_ok_iff.mp success
  obtain ⟨results, together, rfl⟩ := map_eq_ok_iff.mp success
  have within : declarations.fields [item.name] trees = .ok results :=
    Checked.together_eq_ok_iff.mp together
  have outside : declarations.fields [item.name] trees = declarations.fields [] trees :=
    apart.result_eq
  exact forall₂_of_fields (outside.symm.trans within)

end Declarations

/-! ## What a model is made of -/

namespace SourceModel

/-- A type stands in a model: it is a class of the list, the entity of a repository, or the type of
a parameter or of what a function returns. -/
inductive Names (model : SourceModel) : TypeUse → Prop where
  | cls {cls : ClassDecl} : cls ∈ model.classes → Names model { target := cls }
  | entity {repository : ClassDecl} {type : TypeUse} :
      repository ∈ model.repositories → repository.argument = some type → Names model type
  | parameter {repository : ClassDecl} {function : FunctionDecl} {parameter : ParameterDecl} :
      repository ∈ model.repositories → function ∈ repository.functions →
      parameter ∈ function.parameters → Names model parameter.type
  | result {repository : ClassDecl} {function : FunctionDecl} :
      repository ∈ model.repositories → function ∈ repository.functions →
      Names model function.returnType

/-- A class occurs in a type of the model, below whatever fields and arguments. -/
def Holds (model : SourceModel) (cls : ClassDecl) : Prop :=
  ∃ root use, model.Names root ∧ root.Reaches use ∧ use.target = cls

/-- The structs and enums of a file. -/
abbrev declared (items : List ItemTree) : Declarations :=
  Declarations.ofItems (ItemTree.leavesOfAll items)

/-- What the items of a file are read as, before the repositories are set apart. -/
def readLeaves (items : List ItemTree) : Checked (List ClassDecl) :=
  Checked.all (((ItemTree.leavesOfAll items).filterMap
    (classOfItem? (declared items))).map Checked.of)

theorem ofItems_eq (items : List ItemTree) :
    ofItems items = (readLeaves items).together.map fun found =>
      { classes := (found.partition fun cls => cls.isInterface).2
        repositories := (found.partition fun cls => cls.isInterface).1 } :=
  bind_pure_comp _ _

variable {items : List ItemTree} {model : SourceModel}

theorem ofItems_eq_ok (read : ofItems items = .ok model) :
    ∃ found,
      Checked.all (((ItemTree.leavesOfAll items).filterMap
        (classOfItem? (declared items))).map Checked.of) = .ok found ∧
      model.repositories = found.filter (fun cls => cls.isInterface) ∧
      model.classes = found.filter fun cls => !cls.isInterface := by
  obtain ⟨found, together, split⟩ := bind_eq_ok_iff.mp read
  rw [List.partition_eq_filter_filter] at split
  cases split
  exact ⟨found, Checked.together_eq_ok_iff.mp together, rfl, rfl⟩

theorem eq_of_structClass {declarations : Declarations} {item : StructTree} {cls : ClassDecl}
    (success : declarations.structClass [] item = .ok cls) :
    ∃ tags fields, cls = { name := .bare item.name, tags, fields } := by
  rw [Expansion.structClass_eq] at success
  obtain ⟨tags, _, success⟩ := bind_eq_ok_iff.mp success
  split at success
  · cases success
    exact ⟨tags, [], rfl⟩
  · cases success
  · obtain ⟨fields, _, rfl⟩ := map_eq_ok_iff.mp success
    exact ⟨tags, fields, rfl⟩

theorem isInterface_of_repository {declarations : Declarations} {item : TraitTree}
    {cls : ClassDecl} (success : declarations.repository item = .ok cls) :
    cls.isInterface = true := by
  obtain ⟨parts, _, rfl⟩ := map_eq_ok_iff.mp (Checked.together_eq_ok_iff.mp success)
  rfl

/-- What an item is read as is a struct, an enum or a repository. -/
theorem classOfItem?_cases {declarations : Declarations} {leaf : ItemTree} {cls : ClassDecl}
    (found : classOfItem? declarations leaf = some (.ok cls)) :
    (∃ item, leaf = .struct item ∧ declarations.structClass [] item = .ok cls) ∨
      (∃ item, leaf = .enum item ∧ item.toClass = cls) ∨
      ∃ item, leaf = .trait item ∧ declarations.repository item = .ok cls := by
  cases leaf with
  | struct item => exact .inl ⟨item, rfl, Option.some.inj found⟩
  | enum item => exact .inr (.inl ⟨item, rfl, Except.ok.inj (Option.some.inj found)⟩)
  | trait item =>
      simp only [classOfItem?] at found
      split at found
      · exact .inr (.inr ⟨item, rfl, Option.some.inj found⟩)
      · cases found
  | module items => cases found
  | other => cases found

theorem exists_leaf {found : List ClassDecl} {cls : ClassDecl}
    (all : Checked.all (((ItemTree.leavesOfAll items).filterMap
      (classOfItem? (declared items))).map Checked.of) = .ok found) (member : cls ∈ found) :
    ∃ leaf, leaf ∈ ItemTree.leavesOfAll items ∧
      classOfItem? (declared items) leaf = some (.ok cls) := by
  obtain ⟨result, among, success⟩ := Checked.exists_of_mem_all all member
  cases Checked.of_eq_ok_iff.mp success
  exact List.mem_filterMap.mp among

theorem mem_structs_iff {item : StructTree} :
    item ∈ (declared items).structs ↔ .struct item ∈ ItemTree.leavesOfAll items := by
  simp only [declared, Declarations.ofItems, List.mem_filterMap]
  constructor
  · rintro ⟨leaf, member, found⟩
    cases leaf with
    | struct other =>
        cases found
        exact member
    | enum | trait | module | other => cases found
  · intro member
    exact ⟨.struct item, member, rfl⟩

theorem mem_enums {item : EnumTree} (member : .enum item ∈ ItemTree.leavesOfAll items) :
    item ∈ (declared items).enums :=
  List.mem_filterMap.mpr ⟨.enum item, member, rfl⟩

/-- The classes are those of the structs and enums. -/
theorem of_mem_classes (read : ofItems items = .ok model) {cls : ClassDecl}
    (member : cls ∈ model.classes) :
    (∃ item, item ∈ (declared items).structs ∧
        (declared items).structClass [] item = .ok cls) ∨
      ∃ item, item ∈ (declared items).enums ∧ item.toClass = cls := by
  obtain ⟨found, all, _, classes⟩ := ofItems_eq_ok read
  rw [classes, List.mem_filter] at member
  obtain ⟨leaf, among, read⟩ := exists_leaf all member.1
  rcases classOfItem?_cases read with ⟨item, rfl, success⟩ | ⟨item, rfl, same⟩ |
    ⟨item, rfl, success⟩
  · exact .inl ⟨item, mem_structs_iff.mpr among, success⟩
  · exact .inr ⟨item, mem_enums among, same⟩
  · rw [isInterface_of_repository success] at member
    cases member.2

theorem of_mem_repositories (read : ofItems items = .ok model) {cls : ClassDecl}
    (member : cls ∈ model.repositories) :
    ∃ item, (declared items).repository item = .ok cls := by
  obtain ⟨found, all, repositories, _⟩ := ofItems_eq_ok read
  rw [repositories, List.mem_filter] at member
  obtain ⟨leaf, among, read⟩ := exists_leaf all member.1
  rcases classOfItem?_cases read with ⟨item, rfl, success⟩ | ⟨item, rfl, rfl⟩ |
    ⟨item, rfl, success⟩
  · obtain ⟨tags, fields, rfl⟩ := eq_of_structClass success
    cases member.2
  · cases member.2
  · exact ⟨item, success⟩

/-- Every struct has a class in the list. -/
theorem exists_class_of_struct (read : ofItems items = .ok model) {item : StructTree}
    (member : item ∈ (declared items).structs) :
    ∃ cls, cls ∈ model.classes ∧ (declared items).structClass [] item = .ok cls := by
  obtain ⟨found, all, _, classes⟩ := ofItems_eq_ok read
  have among : (declared items).structClass [] item ∈
      (ItemTree.leavesOfAll items).filterMap (classOfItem? (declared items)) :=
    List.mem_filterMap.mpr ⟨.struct item, mem_structs_iff.mp member, rfl⟩
  obtain ⟨cls, inFound, success⟩ := Checked.mem_of_all all among
  have success := Checked.of_eq_ok_iff.mp success
  refine ⟨cls, ?_, success⟩
  rw [classes, List.mem_filter]
  obtain ⟨tags, fields, rfl⟩ := eq_of_structClass success
  exact ⟨inFound, rfl⟩

theorem class?_eq_some (read : ofItems items = .ok model)
    (distinct : ((declared items).structs.map StructTree.name ++
      (declared items).enums.map EnumTree.name).Nodup)
    {item : StructTree} {cls : ClassDecl} (member : item ∈ (declared items).structs)
    (success : (declared items).structClass [] item = .ok cls) :
    model.class? item.name = some cls := by
  obtain ⟨structs, _, apart⟩ := List.nodup_append.mp distinct
  obtain ⟨listed, inClasses, again⟩ := exists_class_of_struct read member
  cases Except.ok.inj (success.symm.trans again)
  cases found : model.class? item.name with
  | none =>
      obtain ⟨tags, fields, rfl⟩ := eq_of_structClass success
      have unnamed := List.find?_eq_none.mp found _ inClasses
      exact (unnamed (beq_self_eq_true item.name)).elim
  | some other =>
      have passed := List.find?_some found
      have named : other.name.name = item.name := eq_of_beq passed
      rcases of_mem_classes read (List.mem_of_find?_eq_some found) with
        ⟨second, among, otherSuccess⟩ | ⟨second, among, rfl⟩
      · have same : second = item := by
          obtain ⟨tags, fields, rfl⟩ := eq_of_structClass otherSuccess
          exact List.inj_on_of_nodup_map structs among member named
        cases same
        exact congrArg some (Except.ok.inj (otherSuccess.symm.trans success))
      · have clash := apart _ (List.mem_map_of_mem member) _ (List.mem_map_of_mem among)
        exact absurd named.symm clash

/-! ## Agreement -/

theorem Names.declaresAll (read : ofItems items = .ok model) (acyclic : (declared items).Acyclic)
    {type : TypeUse} (names : model.Names type) : (declared items).DeclaresAll type := by
  cases names with
  | cls member =>
      rcases of_mem_classes read member with ⟨item, among, success⟩ | ⟨item, _, rfl⟩
      · exact Declarations.declaresAll_of_structClass acyclic among success
      · exact Declarations.declaresAll_of_fieldless rfl nofun
  | entity member argument =>
      obtain ⟨item, success⟩ := of_mem_repositories read member
      exact (Declarations.declaresAll_of_repository acyclic success).1 _ argument
  | parameter member function parameter =>
      obtain ⟨item, success⟩ := of_mem_repositories read member
      exact ((Declarations.declaresAll_of_repository acyclic success).2 _ function).2 _ parameter
  | result member function =>
      obtain ⟨item, success⟩ := of_mem_repositories read member
      exact ((Declarations.declaresAll_of_repository acyclic success).2 _ function).1

/-- In a file whose structs and enums have distinct names and whose structs do not refer to
themselves, each class with fields is the one that the model lists for a struct, wherever it
occurs. The fields of a listed class are what their types are outside of all structs. -/
theorem ofItems_expands_alike {items : List ItemTree} {model : SourceModel}
    (distinct : ((declared items).structs.map StructTree.name ++
      (declared items).enums.map EnumTree.name).Nodup)
    (acyclic : (declared items).Acyclic) (read : ofItems items = .ok model) :
    (∀ cls, model.Holds cls → cls.fields ≠ [] →
      ∃ item, item ∈ (declared items).structs ∧ cls.name = .bare item.name ∧
        model.class? item.name = some cls) ∧
    (∀ cls other, model.Holds cls → model.Holds other → cls.fields ≠ [] → other.fields ≠ [] →
      cls.name = other.name → cls = other) ∧
    ∀ item trees, item ∈ (declared items).structs → item.fields = .named trees →
      ∃ cls, model.class? item.name = some cls ∧
        List.Forall₂ (fun tree field =>
          Expansion.fieldOf tree ((declared items).typeUse [] tree.type) = .ok field)
          trees cls.fields := by
  have listed : ∀ cls, model.Holds cls → cls.fields ≠ [] →
      ∃ item, item ∈ (declared items).structs ∧ cls.name = .bare item.name ∧
        model.class? item.name = some cls := by
    rintro _ ⟨root, use, names, chain, rfl⟩ some
    obtain ⟨item, member, named, success⟩ := names.declaresAll read acyclic use chain some
    exact ⟨item, member, named, class?_eq_some read distinct member success⟩
  refine ⟨listed, ?_, ?_⟩
  · intro cls other holds otherHolds some otherSome same
    obtain ⟨item, _, named, found⟩ := listed cls holds some
    obtain ⟨second, _, otherNamed, otherFound⟩ := listed other otherHolds otherSome
    have sameItem : item.name = second.name :=
      congrArg QualifiedName.name (named.symm.trans (same.trans otherNamed))
    rw [sameItem, otherFound] at found
    exact Option.some.inj found.symm
  · intro item trees member shape
    obtain ⟨cls, _, success⟩ := exists_class_of_struct read member
    refine ⟨cls, class?_eq_some read distinct member success, ?_⟩
    exact Declarations.fields_of_structClass acyclic member shape success

end SourceModel

/-! ### Parcels -/

namespace Parcels

def address : StructTree where
  attributes := []
  name := "Address"
  fields := .named [⟨[], "city", .named "String" []⟩]

/-- A parcel, which may not be addressed yet. -/
def parcel : StructTree where
  attributes := []
  name := "Parcel"
  fields := .named [⟨[], "sender", .named "Address" []⟩,
    ⟨[], "receiver", .named "Option" [.named "Address" []]⟩]

/-- A repository of parcels that finds them by address. -/
def parcels : TraitTree where
  attributes := []
  name := "Parcels"
  bounds := [.trait [.segment "Repository" (some [.type (.named "Parcel" [])])]]
  functions := [⟨[], "find", [⟨[], some "address", .enclosed (.named "Address" [])⟩],
    some (.named "Vec" [.named "Parcel" []]), false⟩]

def file : List ItemTree :=
  [.module [.struct parcel, .struct address], .trait parcels]

def addressClass : ClassDecl where
  name := .bare "Address"
  fields := [⟨"city", .named "String", []⟩]

def parcelClass : ClassDecl where
  name := .bare "Parcel"
  fields := [⟨"sender", { target := addressClass }, []⟩,
    ⟨"receiver", { target := addressClass, nullable := true }, []⟩]

def find : FunctionDecl where
  name := "find"
  parameters := [⟨"address", { target := addressClass }, []⟩]
  returnType := .named "Vec" [{ target := parcelClass }]

def parcelsClass : ClassDecl where
  name := .bare "Parcels"
  functions := [find]
  isInterface := true
  argument := some { target := parcelClass }

def model : SourceModel where
  classes := [parcelClass, addressClass]
  repositories := [parcelsClass]

theorem mentions_named {name other : String} (mentions : (TypeTree.named name []).Mentions other) :
    name = other := by
  cases mentions with
  | argument _ member => cases member
  | path _ _ named => exact named

/-- Parcels refer to addresses, and addresses to no struct. -/
def rank (name : String) : Nat :=
  if name = "Parcel" then 2 else if name = "Address" then 1 else 0

theorem acyclic : (SourceModel.declared file).Acyclic := by
  apply @Declarations.acyclic_of_rank _ rank
  rintro _ other ⟨item, member, rfl, trees, tree, shape, among, mentions⟩
  rcases List.mem_cons.mp member with rfl | member
  · cases shape
    have toAddress : "Address" = other := by
      rcases List.mem_cons.mp among with rfl | among
      · exact mentions_named mentions
      · cases List.mem_singleton.mp among
        cases mentions with
        | argument _ inner mentions =>
            cases List.mem_singleton.mp inner
            exact mentions_named mentions
        | path _ unwrapped => cases unwrapped
    subst toAddress
    decide
  · cases List.mem_singleton.mp member
    cases shape
    cases List.mem_singleton.mp among
    cases mentions_named mentions
    decide

end Parcels

/-- The address below what the function returns is the one that the model lists. -/
theorem SourceModel.ofItems_expands_alike_parcels :
    ((declared Parcels.file).structs.map StructTree.name ++
        (declared Parcels.file).enums.map EnumTree.name).Nodup ∧
      (declared Parcels.file).Acyclic ∧
      ofItems Parcels.file = .ok Parcels.model ∧
      Parcels.model.Holds Parcels.addressClass ∧
      ∃ item, item ∈ (declared Parcels.file).structs ∧
        Parcels.addressClass.name = .bare item.name ∧
        Parcels.model.class? item.name = some Parcels.addressClass := by
  have distinct : ((declared Parcels.file).structs.map StructTree.name ++
      (declared Parcels.file).enums.map EnumTree.name).Nodup := by
    decide
  have read : ofItems Parcels.file = .ok Parcels.model := by cbv
  have member : Parcels.parcelsClass ∈ Parcels.model.repositories := List.mem_cons_self
  have result : Parcels.model.Names Parcels.find.returnType := .result member List.mem_cons_self
  have sender : TypeUse.Step { target := Parcels.parcelClass } { target := Parcels.addressClass } :=
    @TypeUse.Step.field _ ⟨"sender", { target := Parcels.addressClass }, []⟩ List.mem_cons_self
  have chain : Parcels.find.returnType.Reaches { target := Parcels.addressClass } :=
    .head (.argument List.mem_cons_self) (.single sender)
  have holds : Parcels.model.Holds Parcels.addressClass := ⟨_, _, result, chain, rfl⟩
  obtain ⟨listed, _, _⟩ := ofItems_expands_alike distinct Parcels.acyclic read
  exact ⟨distinct, Parcels.acyclic, read, holds, listed _ holds (List.cons_ne_nil _ _)⟩

end RowPlan
