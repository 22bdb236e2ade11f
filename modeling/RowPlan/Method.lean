import RowPlan.Statement

/-!
# Compiled methods

A compiled method is SQL text with its bind slots, a plan for the rows it
returns, and what a caller has to know to run it. A draft is a method whose
statement has not been written as text yet.
-/

namespace RowPlan

/-- What a method does. -/
inductive Archetype where
  /-- Stores one entity or a list of them. -/
  | save
  /-- Deletes one entity or a list of them. -/
  | deleteByEntity
  /-- Deletes the rows whose columns have given values. -/
  | deleteByFields
  /-- Deletes the rows that satisfy a condition. -/
  | deleteWhere
  /-- Returns rows. -/
  | finder
  /-- Returns the number of rows. -/
  | count
  /-- Returns whether there are rows. -/
  | existence
  /-- Runs a given text. -/
  | custom
  deriving DecidableEq, Repr

/-- How often the statement of a method runs. -/
inductive Execution where
  | single
  /-- Once for every element of a list. -/
  | batch
  deriving DecidableEq, Repr

/-- What a method is, apart from its SQL text. -/
structure MethodFacts where
  name : String
  archetype : Archetype
  /-- Parameters as declared. -/
  parameters : List (String × TypeUse)
  /-- Type as declared. -/
  returnType : TypeUse
  /-- Element of a collection or page, else the declared type. -/
  rowType : TypeUse
  returnsCollection : Bool := false
  returnsScalar : Bool := false
  /-- How to read a row; none where nothing is returned. -/
  plan : Option ReadPlan := none
  /-- Parameter that asks for a page. -/
  pageable : Option String := none
  execution : Execution := .single
  /-- Parameter whose sort clause is put in when the method runs. -/
  orderParameter : Option String := none
  /-- The number of affected rows has to be verified. -/
  optimisticLock : Bool := false
  /-- The statement returns no rows. -/
  isStatement : Bool := false

/-- A method with its statement. -/
structure Draft extends MethodFacts where
  statement : Statement

/-- A method with markers for its bind slots. -/
structure Method extends MethodFacts where
  sql : String
  /-- Bind slots in binding order. -/
  slots : List BindSlot

namespace MethodFacts

/-- The facts that a declaration settles by itself. -/
def declared (function : FunctionDecl) (archetype : Archetype) : MethodFacts where
  name := function.name
  archetype := archetype
  parameters := function.parameters.map fun parameter => (parameter.name, parameter.type)
  returnType := function.returnType
  rowType := function.returnType

/-- At most one row is expected, and more are an error. -/
def isSingleResult (facts : MethodFacts) : Bool :=
  !facts.returnsCollection && !facts.isStatement && facts.plan.isSome
    && facts.archetype != .count && facts.archetype != .existence

end MethodFacts

/-- Writes the statement of a draft on a table as text. -/
def Draft.finish (options : Options) (table : Table) (draft : Draft) : Method :=
  let (sql, slots) := (draft.statement.text options table).layout options.markers
  { draft.toMethodFacts with sql, slots }

end RowPlan
