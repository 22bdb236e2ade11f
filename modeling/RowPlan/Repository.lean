import RowPlan.Method.Compilation
import RowPlan.Schema.Check

/-!
# Repositories

A repository is an interface whose supertype names the entity it stores. Its
abstract functions are compiled, and the base functions that it does not
declare are added. Repositories are grouped by their databases.
-/

namespace RowPlan

/-- A compiled repository. -/
structure Repository where
  name : QualifiedName
  database : String
  table : Table
  /-- Methods of the declared functions, then of the added ones. -/
  methods : List Method
  check : SchemaCheck

namespace Repository

/-- The class that the repository stores. -/
def entity (repository : Repository) : QualifiedName :=
  repository.table.entity

/-- The first method of a name. -/
def method? (repository : Repository) (name : String) : Option Method :=
  repository.methods.find? fun method => method.name == name

/-- The functions that every repository of an entity has. -/
def baseFunctions (entity : ClassDecl) : List FunctionDecl :=
  let item : TypeUse := { target := entity }
  let items := TypeUse.named "Vec" [item]
  [{ name := "save", parameters := [⟨"item", item, []⟩], returnType := .unit },
    { name := "save_all", parameters := [⟨"items", items, []⟩], returnType := .unit },
    { name := "find_all", returnType := items },
    { name := "delete_all", returnType := .unit }]

/-- The functions to compile: the abstract ones, then the base functions whose names
the repository does not declare. -/
def functions (interface entity : ClassDecl) : List FunctionDecl :=
  interface.functions.filter FunctionDecl.isAbstract
    ++ (baseFunctions entity).filter fun function => (interface.function? function.name).isNone

/-- The entity of a repository, which has to be a class with fields. -/
def entityOf (interface : ClassDecl) : Except CompileError ClassDecl :=
  match interface.argument.filter fun type => !type.name.isUnit with
  | none => .error (.missingEntity interface.name.text)
  | some type =>
      if type.target.isComposite then .ok type.target
      else .error (.unmappableType type.name.text)

/-- The database that a repository names, or the default one. -/
def databaseOf (options : Options) (interface : ClassDecl) : String :=
  ((interface.tag? TagName.repository).bind (·.param? "database")).getD
    options.defaultDatabase

/-- Compiles a repository. -/
def compile (options : Options) (catalog : Catalog) (interface : ClassDecl) :
    Except CompileError Repository := do
  let entity ← entityOf interface
  let table ← Table.build options catalog entity (some interface)
  let scope : Scope := { options, catalog, table, entity }
  let methods ← (functions interface entity).mapM scope.compile
  return {
    name := interface.name
    database := databaseOf options interface
    table := table
    methods := methods
    check := SchemaCheck.of options table }

end Repository

/-- The repositories of a database. -/
structure Database where
  name : String
  repositories : List Repository

namespace Database

/-- The first repository of a simple name. -/
def repository? (database : Database) (name : String) : Option Repository :=
  database.repositories.find? fun repository => repository.name.name == name

/-- Adds a repository to its database, which comes last if it is new. -/
def insert (repository : Repository) : List Database → List Database
  | [] => [{ name := repository.database, repositories := [repository] }]
  | database :: rest =>
      if database.name = repository.database then
        { database with repositories := database.repositories ++ [repository] } :: rest
      else database :: insert repository rest

/-- Groups repositories by database, in the order in which the databases first occur. -/
def group (repositories : List Repository) : List Database :=
  repositories.foldl (fun databases repository => insert repository databases) []

/-- Compiles repositories and groups them; the first error counts. -/
def compileAll (options : Options) (catalog : Catalog) (interfaces : List ClassDecl) :
    Except CompileError (List Database) :=
  (interfaces.mapM (Repository.compile options catalog)).map group

end Database

end RowPlan
