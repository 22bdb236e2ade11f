import RowPlan.Execution.Failure

/-!
# Transactions

A unit of work runs between the beginning of a transaction and its end. It is
committed if it succeeds, and rolled back if it fails or asks for that. The
journal lists the statements that the database accepted.
-/

namespace RowPlan

/-- The isolation levels of a transaction. -/
inductive Isolation where
  | readUncommitted
  | readCommitted
  | repeatableRead
  | serializable
  deriving DecidableEq, Repr

/-- The keywords of a level. -/
def Isolation.sql : Isolation → String
  | readUncommitted => "READ UNCOMMITTED"
  | readCommitted => "READ COMMITTED"
  | repeatableRead => "REPEATABLE READ"
  | serializable => "SERIALIZABLE"

/-- What is chosen about a transaction. -/
structure TransactionOptions where
  /-- Isolation level; none for the one of the database. -/
  isolation : Option Isolation := none
  readOnly : Bool := false
  deriving DecidableEq, Repr

/-- The statement that sets the options, unless they are those of the database. -/
def TransactionOptions.statement? (options : TransactionOptions) : Option String :=
  let access := if options.readOnly then "READ ONLY" else "READ WRITE"
  match options.isolation with
  | some level => some ("SET TRANSACTION ISOLATION LEVEL " ++ level.sql ++ ", " ++ access)
  | none => if options.readOnly then some ("SET TRANSACTION " ++ access) else none

/-- The operations by which a transaction begins and ends. -/
inductive Boundary where
  | begin
  | commit
  | rollback
  deriving DecidableEq, Repr

namespace Boundary

/-- The statement of an operation. -/
def sql : Boundary → String
  | begin => "BEGIN"
  | commit => "COMMIT"
  | rollback => "ROLLBACK"

/-- What an operation does to the transaction. -/
def verb : Boundary → String
  | begin => "begin"
  | commit => "commit"
  | rollback => "rollback"

end Boundary

/-- A unit of work as it runs, up to the value it returns or its failure. -/
inductive Work (α : Type) where
  /-- Runs a statement and goes on. -/
  | execute (sql : String) (rest : Work α)
  /-- Asks for a rollback at the end and goes on. -/
  | rollbackOnly (rest : Work α)
  /-- Does something that leaves no trace and goes on. -/
  | proceed (rest : Work α)
  | succeed (value : α)
  | fail (failure : Failure)

/-- What a unit of work did. -/
structure WorkDone (α : Type) where
  outcome : Except Failure α
  /-- Statements run. -/
  executed : List String := []
  /-- Whether a rollback had been asked for, after each step. -/
  flags : List Bool := []
  /-- Whether a rollback was asked for in the end. -/
  rollbackOnly : Bool

/-- Runs a unit of work; `flag` tells whether a rollback has been asked for. -/
def Work.run {α : Type} (flag : Bool) : Work α → WorkDone α
  | .execute sql rest =>
      let done := rest.run flag
      { done with executed := sql :: done.executed, flags := flag :: done.flags }
  | .rollbackOnly rest =>
      let done := rest.run true
      { done with flags := true :: done.flags }
  | .proceed rest =>
      let done := rest.run flag
      { done with flags := flag :: done.flags }
  | .succeed value => { outcome := .ok value, rollbackOnly := flag }
  | .fail failure => { outcome := .error failure, rollbackOnly := flag }

/-- Why a transaction did not yield the value of its work. -/
inductive TransactionFailure where
  /-- The work failed. -/
  | work (failure : Failure)
  /-- The database refused an operation. -/
  | refused (operation : Boundary) (reason : String)

/-- The message of a refused operation. -/
def Boundary.message (operation : Boundary) (reason : String) : String :=
  "failed to " ++ operation.verb ++ " transaction: " ++ reason

/-- What running a transaction came to. -/
structure TransactionDone (α : Type) where
  outcome : Except TransactionFailure α
  /-- Statements that the database accepted. -/
  journal : List String := []
  /-- Whether a rollback had been asked for, after each step of the work. -/
  flags : List Bool := []

/-- What happens at the end: which operation is due, and what is returned if the
database accepts it and if it refuses it for a reason. -/
def WorkDone.ending {α : Type} (done : WorkDone α) :
    Boundary × Except TransactionFailure α × (String → Except TransactionFailure α) :=
  match done.outcome with
  | .ok value =>
      let operation := if done.rollbackOnly then .rollback else .commit
      (operation, .ok value, fun reason => .error (.refused operation reason))
  | .error failure =>
      (.rollback, .error (.work failure), fun _ => .error (.work failure))

/-- Runs a unit of work in a transaction. `refusal?` gives the reason for which the
database refuses an operation, if it does. -/
def transact {α : Type} (refusal? : Boundary → Option String) (options : TransactionOptions)
    (work : Work α) : TransactionDone α :=
  match refusal? .begin with
  | some reason => { outcome := .error (.refused .begin reason) }
  | none =>
      let done := work.run false
      let (operation, accepted, refused) := done.ending
      let journal := Boundary.begin.sql :: options.statement?.toList ++ done.executed
      match refusal? operation with
      | none => { outcome := accepted, journal := journal ++ [operation.sql], flags := done.flags }
      | some reason => { outcome := refused reason, journal := journal, flags := done.flags }

end RowPlan
