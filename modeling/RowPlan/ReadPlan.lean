import RowPlan.Column

/-!
# Read plans

A read plan says how an object is put together from a row: which column feeds
which field, through which accessor, and how value objects are nested. Plans
are made for entities, for projections onto other classes, and for single
values.
-/

namespace RowPlan

/-- Reads one value. -/
structure Extractor where
  /-- Column read from; none for a result that is a single value. -/
  column : Option String
  /-- Field the value is for; none at the root. -/
  field : Option String
  /-- Type of the value. -/
  type : TypeUse
  accessor : String
  /-- The value passes through a JSON codec. -/
  isJson : Bool
  /-- The value is an enumeration stored by name. -/
  isEnum : Bool
  /-- The accessor yields a zero value where there is none. -/
  isPrimitive : Bool

/-- Whether the reader has to ask for absence after the value has been read. -/
def Extractor.needsNullCheck (extractor : Extractor) : Bool :=
  extractor.isPrimitive && extractor.type.nullable

/-- How to put an object together from a row. -/
inductive ReadPlan where
  /-- Makes an instance of a class from its parts. -/
  | build (field : Option String) (target : QualifiedName) (parts : List ReadPlan)
  /-- Reads one value. -/
  | read (extractor : Extractor)

namespace ReadPlan

mutual

/-- The columns that a plan reads, in reading order. -/
def columns : ReadPlan → List String
  | build _ _ parts => columnsOfParts parts
  | read extractor => extractor.column.toList

/-- The columns that several plans read, in reading order. -/
def columnsOfParts : List ReadPlan → List String
  | [] => []
  | part :: rest => part.columns ++ columnsOfParts rest

end

end ReadPlan

/-- Why a field cannot be bound to a column. -/
inductive Unbound where
  /-- No column matches the path. -/
  | missing (path : List String)
  /-- Several columns match the path. -/
  | ambiguous (path : List String) (candidates : List String)

/-- The path of the field that cannot be bound. -/
def Unbound.path : Unbound → List String
  | missing path | ambiguous path _ => path

namespace Catalog

/-- The extractor of a field from a column. -/
def extractor (catalog : Catalog) (column : Column) (field : String) (type : TypeUse) :
    Extractor :=
  let known := catalog.resolve type
  let isJson := column.columnType.isJson
  let isEnum := !isJson && type.target.isEnum
  { column := some column.name
    field := some field
    type := type
    accessor :=
      if isJson then column.columnType.accessor
      else if isEnum then "string"
      else (known.map KnownType.accessor).getD column.columnType.accessor
    isJson := isJson
    isEnum := isEnum
    isPrimitive := !isJson && !isEnum && (known.map KnownType.primitive).getD false }

mutual

/-- The plan of a class whose fields are found below `path`, where `resolve` gives
all columns that a path may mean. -/
def plan (catalog : Catalog) (resolve : List String → List Column) (field : Option String)
    (path : List String) : ClassDecl → Except Unbound ReadPlan
  | { name, fields, .. } => do
      return .build field name (← catalog.planFields resolve path fields)

/-- The plans of some fields of a class. -/
def planFields (catalog : Catalog) (resolve : List String → List Column) (path : List String) :
    List FieldDecl → Except Unbound (List ReadPlan)
  | [] => .ok []
  | ⟨name, ⟨target, nullable, arguments⟩, _⟩ :: rest => do
      let here := path ++ [name]
      let own ←
        match resolve here with
        | [column] => .ok (.read (catalog.extractor column name ⟨target, nullable, arguments⟩))
        | [] =>
            if target.isComposite then catalog.plan resolve (some name) here target
            else .error (.missing here)
        | several => .error (.ambiguous here (several.map Column.name))
      return own :: (← catalog.planFields resolve path rest)

end

/-- The columns with a path. -/
def exactColumns (columns : List Column) (path : List String) : List Column :=
  columns.filter fun column => column.path == path

/-- The columns with a path, or where there are none, those whose path ends with it. -/
def columnsMatching (columns : List Column) (path : List String) : List Column :=
  match exactColumns columns path with
  | [] => columns.filter fun column => column.endsWith path
  | exact => exact

/-- The plan of an entity from its own columns. -/
def entityPlan (catalog : Catalog) (entity : ClassDecl) (columns : List Column) :
    Except CompileError ReadPlan :=
  (catalog.plan (exactColumns columns) none [] entity).mapError fun unbound =>
    .unmappableType (dotted unbound.path)

/-- The plan of a projection from the columns of an entity, with the columns it
reads in reading order. -/
def projectionPlan (catalog : Catalog) (function : String) (projection : ClassDecl)
    (columns : List Column) : Except CompileError (ReadPlan × List Column) :=
  match catalog.plan (columnsMatching columns) none [] projection with
  | .ok plan =>
      .ok (plan, plan.columns.filterMap fun name =>
        columns.find? fun column => column.name == name)
  | .error (.missing path) => .error (.unknownProjectionField function (dotted path))
  | .error (.ambiguous path candidates) =>
      .error (.ambiguousColumn function (dotted path) candidates)

/-- The plan of a result that is a single value. -/
def scalarPlan (catalog : Catalog) (type : TypeUse) : Except CompileError ReadPlan :=
  match catalog.resolve type with
  | some known =>
      let isJson := known.columnType.isJson
      .ok (.read {
        column := none, field := none, type := type, accessor := known.accessor,
        isJson := isJson, isEnum := type.target.isEnum && !isJson,
        isPrimitive := known.primitive })
  | none =>
      if type.target.isEnum then
        .ok (.read {
          column := none, field := none, type := type, accessor := "string",
          isJson := false, isEnum := true, isPrimitive := false })
      else .error (.unmappableType type.text)

end Catalog

end RowPlan
