import RowPlan.Execution.Failure

/-!
# Rows of a single result

A single result is read from rows that come one after the other: the first is
the result, and asking for a second shows whether there are too many. No row
after the second is asked for.
-/

namespace RowPlan

/-- Rows that come one after the other, and the number of rows that came. -/
structure RowSource (α : Type) where
  rest : List α
  pulled : Nat := 0

/-- The next row, if there is one. -/
def RowSource.next {α : Type} (source : RowSource α) : Option α × RowSource α :=
  match source.rest with
  | [] => (none, source)
  | row :: rest => (some row, { rest, pulled := source.pulled + 1 })

/-- An outcome, and the number of rows that were read for it. -/
structure RowsRead (α : Type) where
  outcome : Except Failure α
  pulled : Nat

/-- At most one row. -/
def single {α : Type} (rows : List α) : RowsRead (Option α) :=
  match RowSource.next { rest := rows } with
  | (none, source) => { outcome := .ok none, pulled := source.pulled }
  | (some row, source) =>
      match source.next with
      | (none, source) => { outcome := .ok (some row), pulled := source.pulled }
      | (some _, source) => { outcome := .error .tooManyResults, pulled := source.pulled }

/-- Exactly one row. -/
def singleRequired {α : Type} (rows : List α) : RowsRead α :=
  let read := single rows
  { outcome := read.outcome.bind fun
      | some row => .ok row
      | none => .error .notFound
    pulled := read.pulled }

end RowPlan
