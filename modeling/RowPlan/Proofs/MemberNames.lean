import RowPlan.Proofs.CheckedParts
import RowPlan.Proofs.ModelClasses

/-!
# Names of members

Fields, functions and parameters keep the names that they are written with. Nothing in the reading
of a file looks at these names, so to spell them otherwise in the file is to spell them otherwise
in its model.
-/

namespace RowPlan

/-! ## Spelling in a file -/

/-- The field with its name spelled by a function. -/
def FieldTree.respell (spell : String → String) (tree : FieldTree) : FieldTree :=
  { tree with name := spell tree.name }

def FieldsTree.respell (spell : String → String) : FieldsTree → FieldsTree
  | .named trees => .named (trees.map (FieldTree.respell spell))
  | .unnamed => .unnamed
  | .none => .none

/-- The struct with the names of its fields spelled by a function. -/
def StructTree.respell (spell : String → String) (item : StructTree) : StructTree :=
  { item with fields := item.fields.respell spell }

def ParameterTree.respell (spell : String → String) (tree : ParameterTree) : ParameterTree :=
  { tree with name := tree.name.map spell }

/-- The function with its name and those of its parameters spelled by a function. -/
def FunctionTree.respell (spell : String → String) (tree : FunctionTree) : FunctionTree :=
  { tree with
    name := spell tree.name
    parameters := tree.parameters.map (ParameterTree.respell spell) }

def TraitTree.respell (spell : String → String) (item : TraitTree) : TraitTree :=
  { item with functions := item.functions.map (FunctionTree.respell spell) }

section

variable (spell : String → String)

theorem FieldTree.respell_type (tree : FieldTree) : (tree.respell spell).type = tree.type :=
  rfl

theorem FieldTree.respell_attributes (tree : FieldTree) :
    (tree.respell spell).attributes = tree.attributes :=
  rfl

theorem StructTree.respell_attributes (item : StructTree) :
    (item.respell spell).attributes = item.attributes :=
  rfl

end

mutual

/-- The item with the names of all fields, functions and parameters spelled by a function. -/
def ItemTree.respell (spell : String → String) : ItemTree → ItemTree
  | .struct item => .struct (item.respell spell)
  | .enum item => .enum item
  | .trait item => .trait (item.respell spell)
  | .module items => .module (ItemTree.respellAll spell items)
  | .other => .other

def ItemTree.respellAll (spell : String → String) : List ItemTree → List ItemTree
  | [] => []
  | item :: rest => item.respell spell :: ItemTree.respellAll spell rest

end

/-! ## Spelling in a model -/

mutual

/-- The class with the names of all fields, functions and parameters in it spelled by a
function. -/
def ClassDecl.respell (spell : String → String) : ClassDecl → ClassDecl
  | { name, fields, tags, functions, isInterface, isEnum, argument } =>
      { name, tags, isInterface, isEnum
        fields := respellFields spell fields
        functions := respellFunctions spell functions
        argument := match argument with
          | none => none
          | some type => some (type.respell spell) }

def TypeUse.respell (spell : String → String) : TypeUse → TypeUse
  | { target, nullable, arguments } =>
      { target := target.respell spell, nullable, arguments := respellTypes spell arguments }

def FieldDecl.respell (spell : String → String) : FieldDecl → FieldDecl
  | { name, type, tags } => { name := spell name, type := type.respell spell, tags }

def ParameterDecl.respell (spell : String → String) : ParameterDecl → ParameterDecl
  | { name, type, tags } => { name := spell name, type := type.respell spell, tags }

def FunctionDecl.respell (spell : String → String) : FunctionDecl → FunctionDecl
  | { name, parameters, returnType, tags, isAbstract } =>
      { name := spell name, tags, isAbstract
        parameters := respellParameters spell parameters
        returnType := returnType.respell spell }

def respellFields (spell : String → String) : List FieldDecl → List FieldDecl
  | [] => []
  | field :: rest => field.respell spell :: respellFields spell rest

def respellFunctions (spell : String → String) : List FunctionDecl → List FunctionDecl
  | [] => []
  | function :: rest => function.respell spell :: respellFunctions spell rest

def respellTypes (spell : String → String) : List TypeUse → List TypeUse
  | [] => []
  | type :: rest => type.respell spell :: respellTypes spell rest

def respellParameters (spell : String → String) : List ParameterDecl → List ParameterDecl
  | [] => []
  | parameter :: rest => parameter.respell spell :: respellParameters spell rest

end

/-- The model with the names of all fields, functions and parameters spelled by a function. -/
def SourceModel.respell (spell : String → String) (model : SourceModel) : SourceModel where
  classes := model.classes.map (ClassDecl.respell spell)
  repositories := model.repositories.map (ClassDecl.respell spell)

section

variable (spell : String → String)

theorem respellFunctions_eq (functions : List FunctionDecl) :
    respellFunctions spell functions = functions.map (FunctionDecl.respell spell) := by
  induction functions with
  | nil => rfl
  | cons function rest induction => rw [respellFunctions, induction, List.map_cons]

theorem respellParameters_eq (parameters : List ParameterDecl) :
    respellParameters spell parameters = parameters.map (ParameterDecl.respell spell) := by
  induction parameters with
  | nil => rfl
  | cons parameter rest induction => rw [respellParameters, induction, List.map_cons]

theorem ClassDecl.respell_isInterface (cls : ClassDecl) :
    (cls.respell spell).isInterface = cls.isInterface := by
  cases cls
  rfl

end

/-! ## Expansion -/

/-- The declarations with the names of all fields spelled by a function. -/
def Declarations.respell (spell : String → String) (declarations : Declarations) : Declarations :=
  { declarations with structs := declarations.structs.map (StructTree.respell spell) }

namespace Expansion

open Declarations (typeUse typeUses pathClass structClass fields)

variable {declarations : Declarations} {spell : String → String}

theorem struct?_respell (name : String) :
    (declarations.respell spell).struct? name =
      (declarations.struct? name).map (StructTree.respell spell) := by
  unfold Declarations.struct? Declarations.respell
  rw [← List.map_reverse, List.find?_map]
  rfl

theorem enum?_respell (name : String) :
    (declarations.respell spell).enum? name = declarations.enum? name :=
  rfl

/-- What a call yields on respelled declarations. -/
def Respells (declarations : Declarations) (spell : String → String) (opened : List String) :
    (call : Call) → call.Result → Prop
  | .type type, use =>
      typeUse (declarations.respell spell) opened type = use.map (TypeUse.respell spell)
  | .types types, uses =>
      typeUses (declarations.respell spell) opened types = uses.map (respellTypes spell)
  | .path segments, cls =>
      pathClass (declarations.respell spell) opened segments = cls.map (ClassDecl.respell spell)
  | .struct item, cls =>
      structClass (declarations.respell spell) opened (item.respell spell) =
        cls.map (ClassDecl.respell spell)
  | .fields trees, found =>
      fields (declarations.respell spell) opened (trees.map (FieldTree.respell spell)) =
        found.map (respellFields spell)

theorem fieldOf_respell (tree : FieldTree) (use : Except Fault TypeUse) :
    fieldOf (tree.respell spell) (use.map (TypeUse.respell spell)) =
      (fieldOf tree use).map (FieldDecl.respell spell) := by
  rw [fieldOf, fieldOf, FieldTree.respell_attributes, Checked.of_map, Checked.both_map_left]
  exact map_map_comm _ fun _ => rfl

theorem structClass_respell {opened : List String} {item : StructTree} {tags : List Tag}
    (tagged : AttributeTree.tags AttributeTree.classTag? item.attributes = .ok tags) :
    structClass (declarations.respell spell) opened (item.respell spell) =
      match item.fields.respell spell with
      | .none => .ok { name := QualifiedName.bare item.name, tags }
      | .unnamed => .error (Fault.of .tupleStruct)
      | .named trees =>
          (fields (declarations.respell spell) (item.name :: opened) trees).together.map
            fun fields => { name := QualifiedName.bare item.name, tags, fields } := by
  rw [structClass_eq, StructTree.respell_attributes, tagged]
  rfl

theorem Expands.respells {call : Call} {before after : List String} {result : call.Result}
    (run : Expands declarations call before result after) :
    Respells declarations spell before call result := by
  induction run with
  | enclosed _ respells => rw [Respells, typeUse, respells]
  | list _ respells =>
      rw [Respells, typeUse_list, respells]
      exact map_map_comm _ fun _ => rfl
  | unit =>
      rw [Respells, typeUse]
      rfl
  | unsupported unsupported =>
      rw [Respells, typeUse_unsupported unsupported]
      rfl
  | wrapped unqualified wrapper _ respells =>
      rw [Respells, typeUse_wrapped unqualified wrapper, respells]
      refine map_map_comm _ fun use => ?_
      cases use
      rfl
  | faultyArguments unqualified unwrapped _ respells =>
      rw [Respells, typeUse_named unqualified unwrapped, respells]
      rfl
  | named unqualified unwrapped first _ types respells =>
      cases first.restores
      rw [Respells, typeUse_named unqualified unwrapped, types, respells]
      exact map_map_comm _ fun _ => rfl
  | noTypes =>
      rw [Respells, typeUses]
      rfl
  | faultyType _ respells =>
      rw [Respells, typeUses_cons, respells]
      rfl
  | types first _ type respells =>
      cases first.restores
      rw [Respells, typeUses_cons, type, respells]
      exact map_map_comm _ fun _ => rfl
  | opened member =>
      rw [Respells, pathClass_opened member]
      rfl
  | declared closed found _ respells =>
      rw [Respells, pathClass_closed closed, struct?_respell, found]
      exact respells
  | enum closed undeclared found =>
      rw [Respells, pathClass_closed closed, struct?_respell, undeclared]
      rw [enum?_respell, found]
      rfl
  | undeclared closed undeclared unknown =>
      rw [Respells, pathClass_closed closed, struct?_respell, undeclared]
      rw [enum?_respell, unknown]
      rfl
  | foreign several =>
      rw [Respells, pathClass_foreign several]
      rfl
  | faultyTags faulty =>
      rw [Respells, structClass_eq, StructTree.respell_attributes, faulty]
      rfl
  | fieldless tagged shape =>
      rw [Respells, structClass_respell tagged, shape]
      rfl
  | tuple tagged shape =>
      rw [Respells, structClass_respell tagged, shape]
      rfl
  | struct tagged shape _ respells =>
      rw [Respells] at respells
      rw [Respells, structClass_respell tagged, shape, FieldsTree.respell]
      dsimp only
      rw [respells, Checked.together_map]
      exact map_map_comm _ fun _ => rfl
  | noFields =>
      rw [Respells, List.map_nil, fields]
      rfl
  | field first _ use others =>
      cases first.restores
      simp only [Respells] at use others
      rw [Respells, List.map_cons, fields_cons, FieldTree.respell_type, use, fieldOf_respell,
        others, Checked.both_map]
      exact map_map_comm _ fun _ => rfl

end Expansion

/-! ## Repositories -/

namespace Declarations

variable (declarations : Declarations) (spell : String → String)

theorem outerTypeUse_respell (type : TypeTree) :
    (declarations.respell spell).outerTypeUse type =
      (declarations.outerTypeUse type).map (TypeUse.respell spell) := by
  have respells : (declarations.respell spell).typeUse [] type =
      (declarations.typeUse [] type).map (TypeUse.respell spell) :=
    (Expansion.expands_typeUse [] type).respells
  rw [outerTypeUse, respells, Checked.of_map]
  rfl

theorem parameter_respell (tree : ParameterTree) :
    (declarations.respell spell).parameter (tree.respell spell) =
      (declarations.parameter tree).map (ParameterDecl.respell spell) := by
  obtain ⟨attributes, name, type⟩ := tree
  cases name with
  | none => rfl
  | some name =>
      simp only [parameter, ParameterTree.respell, Option.map_some, outerTypeUse_respell,
        Checked.both_map_left]
      exact map_map_comm _ fun _ => rfl

theorem returnType_respell (type : Option TypeTree) :
    (declarations.respell spell).returnType type =
      (declarations.returnType type).map (TypeUse.respell spell) := by
  cases type with
  | none => rfl
  | some type => exact outerTypeUse_respell declarations spell type.withoutError

theorem function_respell (tree : FunctionTree) :
    (declarations.respell spell).function (tree.respell spell) =
      (declarations.function tree).map (FunctionDecl.respell spell) := by
  have parameters : (tree.respell spell).parameters.map (declarations.respell spell).parameter =
      (tree.parameters.map declarations.parameter).map fun result =>
        result.map (ParameterDecl.respell spell) := by
    simp [FunctionTree.respell, parameter_respell]
  rw [function, parameters, Checked.all_map, Checked.both_map_right]
  change Checked.together ((Checked.both
    ((declarations.respell spell).returnType tree.returnType) _).map _) = _
  rw [returnType_respell, Checked.both_map, function, ← Checked.together_map]
  refine congrArg Checked.together (map_map_comm _ ?_)
  rintro ⟨returnType, tags, parameters⟩
  rw [FunctionDecl.respell, respellParameters_eq]
  rfl

theorem entity_respell (type : Option TypeTree) :
    (declarations.respell spell).entity type =
      (declarations.entity type).map (Option.map (TypeUse.respell spell)) := by
  cases type with
  | none => rfl
  | some type =>
      rw [entity, entity, outerTypeUse_respell]
      exact map_map_comm _ fun _ => rfl

theorem repository_respell (item : TraitTree) :
    (declarations.respell spell).repository (item.respell spell) =
      (declarations.repository item).map (ClassDecl.respell spell) := by
  have functions : ((item.respell spell).functions.map fun function =>
        Checked.of ((declarations.respell spell).function function)) =
      (item.functions.map fun function => Checked.of (declarations.function function)).map
        fun result => result.map (FunctionDecl.respell spell) := by
    simp [TraitTree.respell, function_respell, Checked.of_map]
  rw [repository, functions, Checked.all_map]
  change Checked.together ((Checked.both _ (Checked.both
    ((declarations.respell spell).entity item.entity?) _)).map _) = _
  rw [entity_respell, Checked.both_map, Checked.both_map_right, repository,
    ← Checked.together_map]
  refine congrArg Checked.together (map_map_comm _ ?_)
  rintro ⟨tags, argument, functions⟩
  cases argument with
  | none => simp [ClassDecl.respell, TraitTree.respell, respellFunctions_eq, respellFields]
  | some type => simp [ClassDecl.respell, TraitTree.respell, respellFunctions_eq, respellFields]

end Declarations

/-! ## Files -/

mutual

theorem ItemTree.leaves_respell (spell : String → String) (item : ItemTree) :
    (item.respell spell).leaves = item.leaves.map (ItemTree.respell spell) := by
  cases item with
  | module items =>
      rw [ItemTree.respell, ItemTree.leaves, ItemTree.leaves]
      exact ItemTree.leavesOfAll_respell spell items
  | struct | enum | trait | other => rfl

theorem ItemTree.leavesOfAll_respell (spell : String → String) (items : List ItemTree) :
    ItemTree.leavesOfAll (ItemTree.respellAll spell items) =
      (ItemTree.leavesOfAll items).map (ItemTree.respell spell) := by
  cases items with
  | nil => rfl
  | cons item rest =>
      rw [ItemTree.respellAll, ItemTree.leavesOfAll, ItemTree.leavesOfAll, List.map_append,
        ItemTree.leaves_respell spell item, ItemTree.leavesOfAll_respell spell rest]

end

namespace SourceModel

variable (spell : String → String)

theorem declarations_respell (leaves : List ItemTree) :
    Declarations.ofItems (leaves.map (ItemTree.respell spell)) =
      (Declarations.ofItems leaves).respell spell := by
  have structs : (fun leaf => (ItemTree.respell spell leaf).struct?) =
      fun leaf => leaf.struct?.map (StructTree.respell spell) := by
    funext leaf
    cases leaf with
    | struct | enum | trait | module | other => rfl
  have enums : (fun leaf => (ItemTree.respell spell leaf).enum?) = ItemTree.enum? := by
    funext leaf
    cases leaf with
    | struct | enum | trait | module | other => rfl
  simp only [Declarations.ofItems, Declarations.respell, List.filterMap_map, Function.comp_def,
    structs, enums, List.map_filterMap]

theorem classOfItem?_respell (declarations : Declarations) (leaf : ItemTree) :
    classOfItem? (declarations.respell spell) (leaf.respell spell) =
      (classOfItem? declarations leaf).map fun result =>
        result.map (ClassDecl.respell spell) := by
  cases leaf with
  | struct item =>
      have respells : (declarations.respell spell).structClass [] (item.respell spell) =
          (declarations.structClass [] item).map (ClassDecl.respell spell) :=
        (Expansion.expands_structClass [] item).respells
      rw [ItemTree.respell, classOfItem?, classOfItem?, respells]
      rfl
  | trait item =>
      rw [ItemTree.respell, classOfItem?, classOfItem?, Declarations.repository_respell]
      change (if item.isRepository then _ else _) = _
      cases item.isRepository with
      | true => rfl
      | false => rfl
  | enum | module | other => rfl

theorem readLeaves_respell (items : List ItemTree) :
    readLeaves (ItemTree.respellAll spell items) =
      (readLeaves items).map (List.map (ClassDecl.respell spell)) := by
  rw [readLeaves, declared, ItemTree.leavesOfAll_respell, declarations_respell,
    List.filterMap_map, readLeaves, ← Checked.all_map]
  congr 1
  simp only [Function.comp_def, classOfItem?_respell, List.map_filterMap, Option.map_map,
    Checked.of_map]

/-- To spell the names of members otherwise in a file is to spell them otherwise in its model. -/
theorem ofItems_respell (items : List ItemTree) :
    ofItems (ItemTree.respellAll spell items) =
      (ofItems items).map (SourceModel.respell spell) := by
  rw [ofItems_eq, readLeaves_respell, Checked.together_map, ofItems_eq]
  refine map_map_comm _ fun found => ?_
  simp [SourceModel.respell, List.partition_eq_filter_filter, List.filter_map,
    Function.comp_def, ClassDecl.respell_isInterface]

end SourceModel

end RowPlan
