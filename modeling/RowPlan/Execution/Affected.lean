import RowPlan.Execution.Failure

/-!
# Affected rows

A guarded write that finds another version than the one that was read affects
no row. The number of affected rows shows it.
-/

namespace RowPlan

/-- Fails unless as many rows were affected as expected. -/
def verifyAffected (expected actual : Nat) : Except Failure Unit :=
  if actual = expected then .ok () else .error (.optimisticLock expected actual)

/-- Fails unless the statements of a batch affected as many rows as it has statements. -/
def verifyBatchAffected (counts : List Nat) (batchSize : Nat) : Except Failure Unit :=
  verifyAffected batchSize (counts.foldr (· + ·) 0)

end RowPlan
