/-!
# Failures of running methods

What can go wrong when a compiled method runs, apart from what its caller does.
-/

namespace RowPlan

/-- Why running a method failed. -/
inductive Failure where
  /-- A row was required and none matched. -/
  | notFound
  /-- One row was expected and more matched. -/
  | tooManyResults
  /-- A guarded write affected another number of rows than it had to. -/
  | optimisticLock (expected actual : Nat)
  /-- A sort key names no field of the entity. -/
  | unknownSortField (field : String)
  /-- The database reported an error. -/
  | database (text : String)
  deriving DecidableEq, Repr

namespace Failure

/-- What is reported of a failure. -/
def message : Failure → String
  | notFound => "no row matched a query that requires exactly one result"
  | tooManyResults => "more than one row matched a query that expects a single result"
  | optimisticLock expected actual =>
      s!"optimistic lock failure: expected {expected} affected rows, got {actual}"
  | unknownSortField field => s!"cannot sort by unknown field `{field}`"
  | database text => text

/-- There was no row where one was required. -/
def isNotFound : Failure → Bool
  | notFound => true
  | _ => false

/-- There were several rows where one at most was expected. -/
def isTooManyResults : Failure → Bool
  | tooManyResults => true
  | _ => false

/-- A row had changed since it was read. -/
def isOptimisticLock : Failure → Bool
  | optimisticLock _ _ => true
  | _ => false

end Failure

end RowPlan
