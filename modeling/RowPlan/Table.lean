import RowPlan.Options
import RowPlan.ReadPlan

/-!
# The table of an entity

Name, schema, columns and read plan, worked out once for an entity and shared
by all methods of its repository.
-/

namespace RowPlan

/-- The table that stores an entity. -/
structure Table where
  /-- The class that is stored. -/
  entity : QualifiedName
  name : String
  schema : Option String
  /-- Columns in the order of the declarations. -/
  columns : List Column
  /-- How to put the entity together; none for the type of no value. -/
  plan : Option ReadPlan

namespace Table

/-- The key columns. -/
def ids (table : Table) : List Column :=
  table.columns.filter Column.isId

/-- There is a key. -/
def hasIds (table : Table) : Bool :=
  table.columns.any Column.isId

/-- The column for optimistic locking. -/
def version? (table : Table) : Option Column :=
  table.columns.find? Column.isVersion

/-- The table as it stands in SQL text. -/
def ref (table : Table) (options : Options) : String :=
  options.tableRef table.schema table.name

/-- The table as it stands in messages. -/
def displayName (table : Table) : String :=
  match table.schema with
  | some schema => schema ++ "." ++ table.name
  | none => table.name

/-- A parameter of the table tag, of the repository first and then of the
entity. -/
def param? (entity : ClassDecl) (overrides : Option ClassDecl) (key : String) : Option String :=
  let of (cls : ClassDecl) := (cls.tag? TagName.table).bind (·.param? key)
  (overrides.bind of).or (of entity)

/-- The first column whose name an earlier one has; `seen` are the names so far. -/
def repeatedName (seen : List String) : List Column → Option String
  | [] => none
  | column :: rest =>
      if seen.contains column.name then some column.name
      else repeatedName (column.name :: seen) rest

/-- Works out the table of an entity, which a repository may name differently. -/
def build (options : Options) (catalog : Catalog) (entity : ClassDecl)
    (overrides : Option ClassDecl) : Except CompileError Table := do
  let name := (param? entity overrides "name").getD (snakeCase entity.name.name)
  let schema := (param? entity overrides "schema").or options.defaultSchema
  if entity.name.isUnit then
    return { entity := entity.name, name, schema, columns := [], plan := none }
  let columns ← catalog.columns entity
  match repeatedName [] columns with
  | some column => throw (.duplicateColumn name column)
  | none => pure ()
  let plan ← catalog.entityPlan entity columns
  return { entity := entity.name, name, schema, columns, plan := some plan }

end Table

end RowPlan
