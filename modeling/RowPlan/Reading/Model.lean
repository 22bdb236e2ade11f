import RowPlan.Reading.Expansion

/-!
# Class models of source texts

The structs and enums of a source text are classes, and its traits are
repositories if they extend the repository trait or are tagged as one. Inline
modules are searched; names stay as they are.
-/

namespace RowPlan

/-! ## Items -/

mutual

/-- The items of an item: those in a module, or the item itself. -/
def ItemTree.leaves : ItemTree → List ItemTree
  | .module items => leavesOfAll items
  | item => [item]

/-- The items outside of modules and within them, in their order. -/
def ItemTree.leavesOfAll : List ItemTree → List ItemTree
  | [] => []
  | item :: rest => item.leaves ++ leavesOfAll rest

end

/-- The struct that an item is. -/
def ItemTree.struct? : ItemTree → Option StructTree
  | .struct item => some item
  | _ => none

/-- The enum that an item is. -/
def ItemTree.enum? : ItemTree → Option EnumTree
  | .enum item => some item
  | _ => none

/-- The structs and enums among items. -/
def Declarations.ofItems (items : List ItemTree) : Declarations :=
  { structs := items.filterMap ItemTree.struct?, enums := items.filterMap ItemTree.enum? }

/-! ## Functions -/

/-- The value type of a result that may be an error, and every other type itself. -/
def TypeTree.withoutError : TypeTree → TypeTree
  | .path start segments =>
      match segments.getLast? with
      | some (.segment "Result" (some (.type value :: _))) => value
      | _ => .path start segments
  | type => type

namespace Declarations

/-- The use of a class that a type outside of structs is. -/
def outerTypeUse (declarations : Declarations) (type : TypeTree) : Checked TypeUse :=
  Checked.of (declarations.typeUse [] type)

/-- A parameter of a function. -/
def parameter (declarations : Declarations) (tree : ParameterTree) : Checked ParameterDecl :=
  match tree.name with
  | none => .error [Fault.of .patternParameter]
  | some name =>
      let tags := Checked.of (AttributeTree.tags AttributeTree.parameterTag? tree.attributes)
      (Checked.both (declarations.outerTypeUse tree.type) tags).map fun (type, tags) =>
        { name, type, tags }

/-- The type of the value that a function returns. -/
def returnType (declarations : Declarations) : Option TypeTree → Checked TypeUse
  | none => .ok TypeUse.unit
  | some type => declarations.outerTypeUse type.withoutError

/-- A function of a repository. -/
def function (declarations : Declarations) (tree : FunctionTree) : Except Fault FunctionDecl :=
  let returnType := declarations.returnType tree.returnType
  let tags := Checked.of (AttributeTree.tags AttributeTree.functionTag? tree.attributes)
  let parameters := Checked.all (tree.parameters.map declarations.parameter)
  Checked.together
    ((Checked.both returnType (Checked.both tags parameters)).map
      fun (returnType, tags, parameters) =>
        { name := tree.name, parameters, returnType, tags, isAbstract := !tree.hasBody })

end Declarations

/-! ## Repositories -/

namespace TraitTree

/-- The type that a trait is a repository of, if it extends the repository trait. -/
def entity? (item : TraitTree) : Option TypeTree :=
  item.bounds.findSome? fun
    | .trait path =>
        match path.getLast? with
        | some (.segment "Repository" (some arguments)) => (argumentTypes arguments).head?
        | _ => none
    | _ => none

/-- A trait that extends the repository trait or is tagged as a repository. -/
def isRepository (item : TraitTree) : Bool :=
  item.entity?.isSome || item.attributes.any fun attr => attr.name? == some "repository"

end TraitTree

namespace Declarations

/-- The type argument of a repository, if it has one. -/
def entity (declarations : Declarations) : Option TypeTree → Checked (Option TypeUse)
  | none => .ok none
  | some type => (declarations.outerTypeUse type).map some

/-- The class of a repository. -/
def repository (declarations : Declarations) (item : TraitTree) : Except Fault ClassDecl :=
  let tags := Checked.of (AttributeTree.tags AttributeTree.classTag? item.attributes)
  let argument := declarations.entity item.entity?
  let functions := Checked.all (item.functions.map fun function =>
    Checked.of (declarations.function function))
  Checked.together
    ((Checked.both tags (Checked.both argument functions)).map fun (tags, argument, functions) =>
      { name := QualifiedName.bare item.name, tags, functions, isInterface := true, argument })

end Declarations

/-! ## Models -/

/-- The classes and repositories of a source text, in the order of their declarations. -/
structure SourceModel where
  classes : List ClassDecl
  repositories : List ClassDecl

/-- Why a source text has no model. -/
inductive SourceError where
  /-- The text is not well formed. -/
  | unreadable
  /-- The declarations have faults. -/
  | faulty (fault : Fault)

namespace SourceModel

/-- The first class of a name. -/
def class? (model : SourceModel) (name : String) : Option ClassDecl :=
  model.classes.find? fun cls => cls.name.name == name

/-- The first repository of a name. -/
def repository? (model : SourceModel) (name : String) : Option ClassDecl :=
  model.repositories.find? fun cls => cls.name.name == name

/-- The class or repository that an item is. -/
def classOfItem? (declarations : Declarations) : ItemTree → Option (Except Fault ClassDecl)
  | .struct item => some (declarations.structClass [] item)
  | .enum item => some (.ok item.toClass)
  | .trait item => if item.isRepository then some (declarations.repository item) else none
  | _ => none

/-- The model of the items of a file. -/
def ofItems (items : List ItemTree) : Except Fault SourceModel := do
  let leaves := ItemTree.leavesOfAll items
  let declarations := Declarations.ofItems leaves
  let found ← Checked.together
    (Checked.all ((leaves.filterMap (classOfItem? declarations)).map Checked.of))
  let (repositories, classes) := found.partition fun cls => cls.isInterface
  return { classes, repositories }

/-- The model of a source text. -/
def ofText (text : String) : Except SourceError SourceModel :=
  match ItemTree.ofText? text.toList with
  | none => .error .unreadable
  | some items => (ofItems items).mapError SourceError.faulty

end SourceModel

end RowPlan
