/-!
# Retrying

An operation that fails is run again while retries are left and its failure is
one that may pass.
-/

namespace RowPlan

/-- What running an operation with retries came to. -/
structure Retried (ε α : Type) where
  /-- Outcome of the last run. -/
  outcome : Except ε α
  /-- Number of runs. -/
  calls : Nat
  /-- Failures that were judged as to whether they may pass, in order. -/
  asked : List ε

/-- Runs an operation, `attempt` giving the outcome of each run from the run of number
`run` on, with so many retries left. -/
def retryFrom {ε α : Type} (mayPass : ε → Bool) (attempt : Nat → Except ε α)
    (run : Nat) : Nat → Retried ε α
  | 0 => { outcome := attempt run, calls := 1, asked := [] }
  | retries + 1 =>
      match attempt run with
      | .ok value => { outcome := .ok value, calls := 1, asked := [] }
      | .error failure =>
          if mayPass failure then
            let later := retryFrom mayPass attempt (run + 1) retries
            { later with calls := later.calls + 1, asked := failure :: later.asked }
          else { outcome := .error failure, calls := 1, asked := [failure] }

/-- Runs an operation with so many retries. -/
def retry {ε α : Type} (retries : Nat) (mayPass : ε → Bool)
    (attempt : Nat → Except ε α) : Retried ε α :=
  retryFrom mayPass attempt 0 retries

end RowPlan
