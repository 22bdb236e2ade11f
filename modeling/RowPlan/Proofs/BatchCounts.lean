import RowPlan.Execution.Affected
import RowPlan.Proofs.Upsert

/-!
# Counts of batches

Each statement of a batch of guarded writes affects one row, or none where what it was to write is
stale. Only the sum of these counts is verified. That is enough: as no statement affects two rows,
none can make up for another that affected none.
-/

namespace RowPlan

/-- Every statement affected one row or none. -/
def AtMostOneEach (counts : List Nat) : Prop :=
  ∀ count, count ∈ counts → count = 0 ∨ count = 1

/-- The number of statements that took effect. -/
def effective (counts : List Nat) : Nat :=
  counts.countP fun count => count != 0

/-! ## Writes under a key -/

namespace InsertCommand

variable {A : Type} [DecidableEq A] {command : InsertCommand} {key : List String}

theorem affected_of_execute {binds : List (Cell A)} {rows : List (Row A)} {outcome : Outcome A}
    (executed : command.execute key binds rows = some outcome) :
    outcome.affected = 0 ∨ outcome.affected = 1 := by
  have attempted := (Option.filter_eq_some_iff.mp executed).1
  unfold attempt at attempted
  split at attempted
  case h_1 =>
    cases attempted
    exact .inr rfl
  case h_2 rule _ =>
    split at attempted
    case isTrue =>
      split at attempted
      case h_1 =>
        cases attempted
        exact .inr rfl
      case h_2 stored _ =>
        cases attempted
        unfold ConflictRule.resolve
        split
        · exact .inl rfl
        · split
          · exact .inr rfl
          · exact .inl rfl
    case isFalse => cases attempted

/-- Executes a command for one element of a batch after the other: the rows at the end, and how
many each statement affected. -/
def executeAll (command : InsertCommand) (key : List String) :
    List (List (Cell A)) → List (Row A) → Option (List (Row A) × List Nat)
  | [], rows => some (rows, [])
  | binds :: others, rows => do
      let outcome ← command.execute key binds rows
      let (last, counts) ← command.executeAll key others outcome.rows
      return (last, outcome.affected :: counts)

theorem atMostOneEach_of_executeAll {elements : List (List (Cell A))} {rows last : List (Row A)}
    {counts : List Nat} (executed : command.executeAll key elements rows = some (last, counts)) :
    AtMostOneEach counts ∧ counts.length = elements.length := by
  induction elements generalizing rows counts with
  | nil =>
      cases executed
      exact ⟨nofun, rfl⟩
  | cons binds others induction =>
      obtain ⟨outcome, first, executed⟩ := Option.bind_eq_some_iff.mp executed
      obtain ⟨⟨rest, restCounts⟩, continued, equality⟩ := Option.bind_eq_some_iff.mp executed
      cases equality
      obtain ⟨single, length⟩ := induction continued
      exact ⟨List.forall_mem_cons.mpr ⟨affected_of_execute first, single⟩, congrArg (· + 1) length⟩

end InsertCommand

/-! ## Sums of counts -/

section

variable {counts : List Nat}

theorem sum_eq_effective (single : AtMostOneEach counts) :
    counts.foldr (· + ·) 0 = effective counts := by
  induction counts with
  | nil => rfl
  | cons count rest induction =>
      obtain ⟨here, others⟩ := List.forall_mem_cons.mp single
      rw [List.foldr_cons, induction others, effective, effective, List.countP_cons]
      rcases here with rfl | rfl
      · exact Nat.zero_add _
      · exact Nat.add_comm _ _

theorem effective_eq_length_iff (single : AtMostOneEach counts) :
    effective counts = counts.length ↔ ∀ count, count ∈ counts → count = 1 := by
  rw [effective, List.countP_eq_length]
  constructor
  · intro all count member
    have took : count ≠ 0 := by simpa using all count member
    exact (single count member).resolve_left took
  · intro all count member
    rw [all count member]
    rfl

end

theorem verifyAffected_eq_ok_iff {expected actual : Nat} :
    verifyAffected expected actual = .ok () ↔ actual = expected := by
  unfold verifyAffected
  split
  case isTrue same => exact iff_of_true rfl same
  case isFalse differs => exact iff_of_false nofun differs

theorem verifyAffected_of_ne {expected actual : Nat} (differs : actual ≠ expected) :
    verifyAffected expected actual = .error (.optimisticLock expected actual) :=
  if_neg differs

section

variable {counts : List Nat}

theorem verifyBatchAffected_eq (single : AtMostOneEach counts) (batchSize : Nat) :
    verifyBatchAffected counts batchSize = verifyAffected batchSize (effective counts) := by
  rw [verifyBatchAffected, sum_eq_effective single]

theorem verifyBatchAffected_length_iff (single : AtMostOneEach counts) :
    verifyBatchAffected counts counts.length = .ok () ↔ ∀ count, count ∈ counts → count = 1 := by
  rw [verifyBatchAffected_eq single, verifyAffected_eq_ok_iff, effective_eq_length_iff single]

end

/-- A batch passes if as many statements took effect as it has elements, and otherwise the failure
has both numbers. With one count for each element, it passes only if all of them took effect. -/
theorem verifyBatchAffected_stale {counts : List Nat} (single : AtMostOneEach counts)
    (batchSize : Nat) :
    (verifyBatchAffected counts batchSize = .ok () ↔ effective counts = batchSize) ∧
    (effective counts ≠ batchSize →
      verifyBatchAffected counts batchSize =
        .error (.optimisticLock batchSize (effective counts))) ∧
    (counts.length = batchSize →
      (verifyBatchAffected counts batchSize = .ok () ↔ ∀ count, count ∈ counts → count = 1) ∧
      ((∃ count, count ∈ counts ∧ count ≠ 1) →
        verifyBatchAffected counts batchSize =
          .error (.optimisticLock batchSize (effective counts)))) := by
  have verified := verifyBatchAffected_eq single batchSize
  rw [verified]
  refine ⟨verifyAffected_eq_ok_iff, verifyAffected_of_ne, ?_⟩
  rintro rfl
  rw [← verified]
  refine ⟨verifyBatchAffected_length_iff single, ?_⟩
  rintro ⟨count, member, stale⟩
  rw [verified]
  apply verifyAffected_of_ne
  intro same
  exact stale ((effective_eq_length_iff single).mp same count member)

namespace Fleet

/-- Stores the power of a car under its number, where the revision is the one that was read. -/
def store : InsertCommand where
  columns := ["id", "power", "revision"]
  values := [.asBound, .asBound, .plusOne]
  conflict := some
    { target := ["id"]
      update := some
        { assignments := [("power", .proposed "power"), ("revision", .proposed "revision")]
          guard := some (.stored "revision", .proposedLessOne "revision") } }

def car (id power revision : Int) : Row Unit
  | "id" => .integer id
  | "power" => .integer power
  | "revision" => .integer revision
  | _ => .null

/-- Two of three cars are stored with the revision that was read. -/
def rows : List (Row Unit) :=
  [car 1 90 4, car 2 75 6]

def elements : List (List (Cell Unit)) :=
  [[.integer 1, .integer 95, .integer 4], [.integer 2, .integer 80, .integer 5],
    [.integer 3, .integer 60, .integer 1]]

theorem executeAll_elements :
    ∃ last, store.executeAll ["id"] elements rows = some (last, [1, 0, 1]) := by
  exact ⟨_, rfl⟩

end Fleet

/-- Of three statements the second found another revision than the one that was read. -/
theorem verifyBatchAffected_stale_second :
    ∃ last, Fleet.store.executeAll ["id"] Fleet.elements Fleet.rows = some (last, [1, 0, 1]) ∧
      AtMostOneEach [1, 0, 1] ∧
      verifyBatchAffected [1, 0, 1] 3 = .error (.optimisticLock 3 2) ∧
      verifyBatchAffected [1, 0, 1] 2 = .ok () := by
  obtain ⟨last, executed⟩ := Fleet.executeAll_elements
  obtain ⟨single, _⟩ := InsertCommand.atMostOneEach_of_executeAll executed
  have stale : ∃ count, count ∈ [1, 0, 1] ∧ count ≠ 1 := ⟨0, by decide, by decide⟩
  obtain ⟨_, _, each⟩ := verifyBatchAffected_stale single 3
  obtain ⟨sum, _, _⟩ := verifyBatchAffected_stale single 2
  exact ⟨last, executed, single, (each rfl).2 stale, sum.mpr rfl⟩

end RowPlan
