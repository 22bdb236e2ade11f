import RowPlan.Tag
import RowPlan.Name

/-!
# Class models

Classes, their fields and functions, and the uses of classes as types. A type
use holds its class and a class the types of its fields, so an entity is a tree
that can be walked without looking names up.
-/

namespace RowPlan

mutual

/-- A class: an entity, a value object, an enumeration, a type of the catalog or a
repository interface. `argument` is the type argument of its declared supertype. -/
structure ClassDecl where
  name : QualifiedName
  fields : List FieldDecl := []
  tags : List Tag := []
  functions : List FunctionDecl := []
  isInterface : Bool := false
  isEnum : Bool := false
  argument : Option TypeUse := none

/-- A use of a class, with type arguments. -/
structure TypeUse where
  target : ClassDecl
  nullable : Bool := false
  arguments : List TypeUse := []

/-- A field of a class. -/
structure FieldDecl where
  name : String
  type : TypeUse
  tags : List Tag := []

/-- A parameter of a function. -/
structure ParameterDecl where
  name : String
  type : TypeUse
  tags : List Tag := []

/-- A function of a repository, abstract unless it has a body. -/
structure FunctionDecl where
  name : String
  parameters : List ParameterDecl := []
  returnType : TypeUse
  tags : List Tag := []
  isAbstract : Bool := true

end

namespace ClassDecl

/-- A class with fields, which are stored as columns of their own. -/
def isComposite (cls : ClassDecl) : Bool :=
  !cls.isEnum && !cls.fields.isEmpty

theorem fields_ne_nil {cls : ClassDecl} (composite : cls.isComposite = true) :
    cls.fields ≠ [] := by
  intro empty
  simp [isComposite, empty] at composite

/-- The first function of a name. -/
def function? (cls : ClassDecl) (name : String) : Option FunctionDecl :=
  cls.functions.find? fun function => function.name == name

/-- The first tag of a name. -/
def tag? (cls : ClassDecl) (name : String) : Option Tag :=
  Tag.named? name cls.tags

end ClassDecl

namespace TypeUse

/-- The use of a class without fields that a path names. -/
def named (path : String) (arguments : List TypeUse := []) : TypeUse :=
  { target := { name := QualifiedName.ofPath path }, arguments }

/-- The type of no value. -/
def unit : TypeUse :=
  named "()"

/-- The name of the class used. -/
def name (type : TypeUse) : QualifiedName :=
  type.target.name

/-- The first type argument. -/
def element? (type : TypeUse) : Option TypeUse :=
  type.arguments.head?

mutual

/-- The text of a type; nullable uses are wrapped in an option. -/
def text : TypeUse → String
  | { target := { name, .. }, nullable, arguments } =>
      let plain := match arguments with
        | [] => name.text
        | _ :: _ => name.text ++ "<" ++ ", ".intercalate (texts arguments) ++ ">"
      if nullable then "Option<" ++ plain ++ ">" else plain

/-- The texts of several types. -/
def texts : List TypeUse → List String
  | [] => []
  | type :: rest => text type :: texts rest

end

end TypeUse

namespace FieldDecl

/-- The field has a tag of a name. -/
def has (field : FieldDecl) (name : String) : Bool :=
  Tag.isNamed name field.tags

end FieldDecl

namespace ParameterDecl

/-- The parameter has a tag of a name. -/
def has (parameter : ParameterDecl) (name : String) : Bool :=
  Tag.isNamed name parameter.tags

end ParameterDecl

namespace FunctionDecl

/-- The function has a tag of a name. -/
def has (function : FunctionDecl) (name : String) : Bool :=
  Tag.isNamed name function.tags

/-- The first tag of a name. -/
def tag? (function : FunctionDecl) (name : String) : Option Tag :=
  Tag.named? name function.tags

end FunctionDecl

end RowPlan
