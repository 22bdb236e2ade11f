import RowPlan.Method

/-!
# Signatures

What the signature of a repository function says: the role of each parameter,
the shape of the result, and from both what kind of method it is.
-/

namespace RowPlan

/-- What the methods of a repository are compiled against. -/
structure Scope where
  options : Options
  catalog : Catalog
  table : Table
  entity : ClassDecl

/-! ## Parameters -/

/-- What a parameter is for. -/
inductive Role where
  /-- A value that conditions compare with. -/
  | value
  /-- A request for a page. -/
  | pageable
  /-- A sort order. -/
  | order
  /-- A limit on the number of rows. -/
  | limit
  deriving DecidableEq, Repr

/-- The role of a parameter, by its type and tags. -/
def ParameterDecl.role (parameter : ParameterDecl) : Role :=
  if parameter.type.name.isPageable then .pageable
  else if parameter.type.name.isOrder then .order
  else if parameter.has TagName.limit then .limit
  else .value

namespace FunctionDecl

/-- The parameters of a role, as declared. -/
def parametersOf (function : FunctionDecl) (role : Role) : List ParameterDecl :=
  function.parameters.filter fun parameter => parameter.role == role

/-- The parameters that give values. -/
def values (function : FunctionDecl) : List ParameterDecl :=
  function.parametersOf .value

/-- Refuses value parameters that are not among the names used. -/
def checkUsed (function : FunctionDecl) (used : List String) : Except CompileError Unit :=
  match function.values.filter fun parameter => !used.contains parameter.name with
  | [] => .ok ()
  | unused => .error (.unusedParameters function.name (unused.map ParameterDecl.name))

/-- Refuses parameters other than values. -/
def checkValuesOnly (function : FunctionDecl) : Except CompileError Unit :=
  match function.parameters.filter fun parameter => parameter.role != .value with
  | [] => .ok ()
  | others => .error (.unusedParameters function.name (others.map ParameterDecl.name))

end FunctionDecl

/-- How a method that takes this type runs: once for the entity, in a batch for a
list of it. -/
def Scope.execution? (scope : Scope) (type : TypeUse) : Option Execution :=
  if type.name = scope.entity.name then some .single
  else if scope.catalog.isCollection type
      && (type.element?.map fun element => element.name == scope.entity.name).getD false then
    some .batch
  else none

/-! ## Results -/

/-- The shape of a declared result. -/
structure ReturnShape where
  /-- Element of a list or page, else the declared type. -/
  row : TypeUse
  isCollection : Bool
  isPage : Bool
  /-- A row is one value. -/
  isScalar : Bool
  /-- A row is nothing. -/
  isUnit : Bool

namespace ReturnShape

/-- The shape that a return type asks for; what is in a list or page is its row. -/
def of (catalog : Catalog) (type : TypeUse) : ReturnShape :=
  let isPage := type.name.isPage
  let isCollection := !isPage && catalog.isCollection type
  let row := if isPage || isCollection then type.element?.getD .unit else type
  let isUnit := row.name.isUnit
  { row, isCollection, isPage, isUnit
    isScalar := !isUnit && (row.target.isEnum || (catalog.resolve row).isSome) }

/-- A list or a page. -/
def isMany (shape : ReturnShape) : Bool :=
  shape.isCollection || shape.isPage

end ReturnShape

/-! ## Kinds of methods -/

/-- Whether a name starts with a word. -/
def startsWith (word name : String) : Bool :=
  word.toList.isPrefixOf name.toList

/-- The kind of a method that returns something and changes nothing. -/
def Catalog.readingArchetype (catalog : Catalog) (returnType : TypeUse) : Archetype :=
  let shape := ReturnShape.of catalog returnType
  if shape.isMany then .finder
  else match (catalog.resolve shape.row).map KnownType.accessor with
    | some "i32" | some "i64" => .count
    | some "bool" => .existence
    | _ => .finder

/-- The kind of a delete. -/
def Scope.deletingArchetype (scope : Scope) (function : FunctionDecl) : Archetype :=
  if function.has TagName.condition then .deleteWhere
  else match function.values with
    | [parameter] =>
        if (scope.execution? parameter.type).isSome then .deleteByEntity else .deleteByFields
    | _ => .deleteByFields

/-- The kind of a method. Given text comes first, then what the tags say, then
what the name says. -/
def Scope.archetype (scope : Scope) (function : FunctionDecl) : Archetype :=
  if function.has TagName.query || function.has TagName.statement then .custom
  else if function.has TagName.save
      || !function.has TagName.delete && startsWith "save" function.name then .save
  else if function.has TagName.delete || startsWith "delete" function.name then
    scope.deletingArchetype function
  else scope.catalog.readingArchetype function.returnType

end RowPlan
