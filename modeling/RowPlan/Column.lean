import RowPlan.Catalog
import RowPlan.CompileError
import RowPlan.Text.SnakeCase

/-!
# Columns of an entity

An entity is flattened into columns: a field whose type maps to one column is a
leaf, and the fields of a value object stand in place of the field that holds
it. Columns come in the order of the declarations, depth first.
-/

namespace RowPlan

/-- A column with the leaf field it stores. -/
structure Column where
  /-- Field names from the entity down to the leaf. -/
  path : List String
  /-- Type of the leaf field. -/
  type : TypeUse
  /-- Name of the column. -/
  name : String
  /-- Type of the column. -/
  columnType : ColumnType
  /-- Member of the primary key. -/
  isId : Bool
  /-- Counter for optimistic locking. -/
  isVersion : Bool

/-- A path of field names in text. -/
def dotted (path : List String) : String :=
  ".".intercalate path

namespace Column

/-- A column holds no value exactly where its field may be absent. -/
def nullable (column : Column) : Bool :=
  column.type.nullable

/-- The name of the leaf field. -/
def leaf (column : Column) : String :=
  column.path.getLast?.getD ""

/-- Whether the path of the column ends with the given names, at least one. -/
def endsWith (column : Column) (suffix : List String) : Bool :=
  !suffix.isEmpty && suffix.isSuffixOf column.path

end Column

/-- The name of a column that gives none itself: the names of its path in snake
case, joined by underscores. -/
def columnName (path : List String) : String :=
  "_".intercalate (path.map snakeCase)

/-- The column type of a field, if it maps to one column: the type its tag
gives, else the type its class has in the catalog. -/
def Catalog.fieldColumnType (catalog : Catalog) (field : FieldDecl) : Option ColumnType :=
  match (ColumnOverride.of field.tags).type with
  | some name => some (ColumnType.ofName name)
  | none => catalog.columnType field.type

/-- The column of a leaf field at a path. -/
def leafColumn (path : List String) (field : FieldDecl) (columnType : ColumnType) : Column where
  path := path
  type := field.type
  name := (ColumnOverride.of field.tags).name.getD (columnName path)
  columnType := columnType
  isId := field.has TagName.id
  isVersion := field.has TagName.version

mutual

/-- The columns of a class whose fields are found below `path`. -/
def Catalog.columnsBelow (catalog : Catalog) (path : List String) :
    ClassDecl → Except CompileError (List Column)
  | { fields, .. } => catalog.columnsOfFields path fields

/-- The columns of some fields of a class. -/
def Catalog.columnsOfFields (catalog : Catalog) (path : List String) :
    List FieldDecl → Except CompileError (List Column)
  | [] => .ok []
  | ⟨name, ⟨target, nullable, arguments⟩, tags⟩ :: rest => do
      let field : FieldDecl := ⟨name, ⟨target, nullable, arguments⟩, tags⟩
      let here := path ++ [name]
      let own ←
        match catalog.fieldColumnType field with
        | some columnType => .ok [leafColumn here field columnType]
        | none =>
            if target.isComposite then
              if nullable then .error (.nullableComposite (dotted here))
              else catalog.columnsBelow here target
            else .error (.unmappableType (dotted here))
      let others ← catalog.columnsOfFields path rest
      return own ++ others

end

/-- The columns of an entity. -/
def Catalog.columns (catalog : Catalog) (entity : ClassDecl) : Except CompileError (List Column) :=
  catalog.columnsBelow [] entity

end RowPlan
