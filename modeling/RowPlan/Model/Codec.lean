import RowPlan.Json
import RowPlan.Model
import RowPlan.Options

/-!
# Class models and options as JSON

Every part of a record is written. In reading, parts that are lists, flags or
options may be left out and then have their defaults; parts that no record
declares are passed over.
-/

namespace RowPlan

open Json

/-! ## Writing -/

def QualifiedName.toJson (name : QualifiedName) : Json :=
  .object [("namespace", .string name.scope), ("name", .string name.name)]

def Tag.toJson (tag : Tag) : Json :=
  .object [("name", .string tag.name),
    ("params", .object (tag.params.map fun (key, value) => (key, .string value)))]

/-- The spelling of the nullability of a type use. -/
def nullabilityJson (nullable : Bool) : Json :=
  .string (if nullable then "nullable" else "non_nullable")

mutual

def ClassDecl.toJson : ClassDecl → Json
  | { name, fields, tags, functions, isInterface, isEnum, argument } =>
      .object [("name", name.toJson), ("fields", .array (fieldsJson fields)),
        ("annotations", .array (tags.map Tag.toJson)),
        ("functions", .array (functionsJson functions)),
        ("is_interface", .bool isInterface), ("is_enum", .bool isEnum),
        ("superclass_parameter", match argument with
          | none => .null
          | some type => type.toJson)]

def TypeUse.toJson : TypeUse → Json
  | { target, nullable, arguments } =>
      .object [("klass", target.toJson), ("nullability", nullabilityJson nullable),
        ("parameters", .array (typesJson arguments))]

def FieldDecl.toJson : FieldDecl → Json
  | { name, type, tags } =>
      .object [("name", .string name), ("type", type.toJson),
        ("annotations", .array (tags.map Tag.toJson))]

def ParameterDecl.toJson : ParameterDecl → Json
  | { name, type, tags } =>
      .object [("name", .string name), ("type", type.toJson),
        ("annotations", .array (tags.map Tag.toJson))]

def FunctionDecl.toJson : FunctionDecl → Json
  | { name, parameters, returnType, tags, isAbstract } =>
      .object [("name", .string name), ("parameters", .array (parametersJson parameters)),
        ("return_type", returnType.toJson),
        ("annotations", .array (tags.map Tag.toJson)),
        ("is_abstract", .bool isAbstract)]

def fieldsJson : List FieldDecl → List Json
  | [] => []
  | field :: rest => field.toJson :: fieldsJson rest

def functionsJson : List FunctionDecl → List Json
  | [] => []
  | function :: rest => function.toJson :: functionsJson rest

def typesJson : List TypeUse → List Json
  | [] => []
  | type :: rest => type.toJson :: typesJson rest

def parametersJson : List ParameterDecl → List Json
  | [] => []
  | parameter :: rest => parameter.toJson :: parametersJson rest

end

def MarkerStyle.toJson : MarkerStyle → Json
  | question => .string "question"
  | numbered => .string "numbered"

def Options.toJson (options : Options) : Json :=
  .object [("placeholders", options.markers.toJson),
    ("default_schema", ofOption .string options.defaultSchema),
    ("quote_identifiers", .bool options.quoteIdentifiers),
    ("single_result_cap", .integer options.singleResultCap.toNat),
    ("default_database", .string options.defaultDatabase)]

/-! ## Reading -/

/-- Reads a part that may be left out. -/
def readOr {α : Type} (default : α) (decode : Json → Option α) {whole : Json} :
    Option (Part whole) → Option α
  | none => some default
  | some part => decode part.val

def QualifiedName.ofJson? (json : Json) : Option QualifiedName := do
  let part ← json.record? ["namespace", "name"]
  let scope ← readOr "" string? (part "namespace")
  let name ← (← part "name").val.string?
  return { scope, name }

/-- Reads an object of texts. -/
def paramsOfJson? : Json → Option (List (String × String))
  | .object members => members.mapM fun (key, value) => do return (key, ← value.string?)
  | _ => none

def Tag.ofJson? (json : Json) : Option Tag := do
  let part ← json.record? ["name", "params"]
  let name ← (← part "name").val.string?
  let params ← readOr [] paramsOfJson? (part "params")
  return { name, params }

def nullabilityOfJson? (json : Json) : Option Bool :=
  match json.variant? with
  | some "nullable" => some true
  | some "non_nullable" => some false
  | _ => none

mutual

def ClassDecl.ofJson? (json : Json) : Option ClassDecl := do
  let part ← json.record? ["name", "fields", "annotations", "functions", "is_interface",
    "is_enum", "superclass_parameter"]
  let name ← QualifiedName.ofJson? (← part "name").val
  let fields ← match part "fields" with
    | none => some []
    | some ⟨list, _⟩ => do (← list.items?).mapM fun ⟨item, _⟩ => FieldDecl.ofJson? item
  let tags ← readOr [] (listOf? Tag.ofJson?) (part "annotations")
  let functions ← match part "functions" with
    | none => some []
    | some ⟨list, _⟩ => do (← list.items?).mapM fun ⟨item, _⟩ => FunctionDecl.ofJson? item
  let isInterface ← readOr false bool? (part "is_interface")
  let isEnum ← readOr false bool? (part "is_enum")
  let argument ← match part "superclass_parameter" with
    | none => some none
    | some ⟨type, _⟩ => match type with
      | .null => some none
      | _ => (TypeUse.ofJson? type).map some
  return { name, fields, tags, functions, isInterface, isEnum, argument }
termination_by sizeOf json

def TypeUse.ofJson? (json : Json) : Option TypeUse := do
  let part ← json.record? ["klass", "nullability", "parameters"]
  let target ← match part "klass" with
    | none => none
    | some ⟨cls, _⟩ => ClassDecl.ofJson? cls
  let nullable ← readOr false nullabilityOfJson? (part "nullability")
  let arguments ← match part "parameters" with
    | none => some []
    | some ⟨list, _⟩ => do (← list.items?).mapM fun ⟨item, _⟩ => TypeUse.ofJson? item
  return { target, nullable, arguments }
termination_by sizeOf json

def FieldDecl.ofJson? (json : Json) : Option FieldDecl := do
  let part ← json.record? ["name", "type", "annotations"]
  let name ← (← part "name").val.string?
  let type ← match part "type" with
    | none => none
    | some ⟨type, _⟩ => TypeUse.ofJson? type
  let tags ← readOr [] (listOf? Tag.ofJson?) (part "annotations")
  return { name, type, tags }
termination_by sizeOf json

def ParameterDecl.ofJson? (json : Json) : Option ParameterDecl := do
  let part ← json.record? ["name", "type", "annotations"]
  let name ← (← part "name").val.string?
  let type ← match part "type" with
    | none => none
    | some ⟨type, _⟩ => TypeUse.ofJson? type
  let tags ← readOr [] (listOf? Tag.ofJson?) (part "annotations")
  return { name, type, tags }
termination_by sizeOf json

def FunctionDecl.ofJson? (json : Json) : Option FunctionDecl := do
  let part ← json.record? ["name", "parameters", "return_type", "annotations", "is_abstract"]
  let name ← (← part "name").val.string?
  let parameters ← match part "parameters" with
    | none => some []
    | some ⟨list, _⟩ => do (← list.items?).mapM fun ⟨item, _⟩ => ParameterDecl.ofJson? item
  let returnType ← match part "return_type" with
    | none => none
    | some ⟨type, _⟩ => TypeUse.ofJson? type
  let tags ← readOr [] (listOf? Tag.ofJson?) (part "annotations")
  let isAbstract ← readOr true bool? (part "is_abstract")
  return { name, parameters, returnType, tags, isAbstract }
termination_by sizeOf json

end

def MarkerStyle.ofJson? (json : Json) : Option MarkerStyle :=
  match json.variant? with
  | some "question" => some .question
  | some "numbered" => some .numbered
  | _ => none

def Options.ofJson? (json : Json) : Option Options := do
  let part ← json.record? ["placeholders", "default_schema", "quote_identifiers",
    "single_result_cap", "default_database"]
  let defaults : Options := {}
  let markers ← readOr defaults.markers MarkerStyle.ofJson? (part "placeholders")
  let defaultSchema ← readOr defaults.defaultSchema optionalString? (part "default_schema")
  let quoteIdentifiers ← readOr defaults.quoteIdentifiers bool? (part "quote_identifiers")
  let singleResultCap ← readOr defaults.singleResultCap
    (fun json => (json.integerBetween? 0 (UInt32.size - 1)).map fun cap => UInt32.ofNat cap.toNat)
    (part "single_result_cap")
  let defaultDatabase ← readOr defaults.defaultDatabase string? (part "default_database")
  return { markers, defaultSchema, quoteIdentifiers, singleResultCap, defaultDatabase }

end RowPlan
