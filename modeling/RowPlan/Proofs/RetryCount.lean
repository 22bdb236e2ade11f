import Mathlib.Data.ENat.Lattice
import RowPlan.Execution.Retry

/-!
# The runs of a retried operation

The loop counts the retries that it has made, up to those allowed. An outcome settles it that is
a value or a failure that does not pass. The operation runs up to the first outcome that settles
the loop, unless the retries are used up before, and failures are judged only while they are not.
-/

namespace RowPlan

/-- The failure of an outcome. -/
def failure? {ε α : Type} : Except ε α → Option ε
  | .ok _ => none
  | .error failure => some failure

/-- An outcome after which no run follows, whatever retries are left. -/
def Settles {ε α : Type} (mayPass : ε → Bool) : Except ε α → Prop
  | .ok _ => True
  | .error failure => mayPass failure = false

/-- The number of the first run whose outcome settles the loop; infinite if there is none. -/
noncomputable def firstSettled {ε α : Type} (mayPass : ε → Bool) (attempt : Nat → Except ε α) :
    ℕ∞ :=
  sInf ((fun run : Nat => (run : ℕ∞)) '' {run | Settles mayPass (attempt run)})

/-- The loop goes on with a count of retries and the failures judged so far, and ends. -/
inductive Retrying {ε α : Type} (retries : Nat) (mayPass : ε → Bool)
    (attempt : Nat → Except ε α) : Nat → List ε → Retried ε α → Prop where
  | succeeds {count : Nat} {asked : List ε} {value : α} :
      attempt count = .ok value →
      Retrying retries mayPass attempt count asked ⟨.ok value, count + 1, asked⟩
  | again {count : Nat} {asked : List ε} {failure : ε} {done : Retried ε α} :
      attempt count = .error failure → count < retries → mayPass failure = true →
      Retrying retries mayPass attempt (count + 1) (asked ++ [failure]) done →
      Retrying retries mayPass attempt count asked done
  | refuses {count : Nat} {asked : List ε} {failure : ε} :
      attempt count = .error failure → count < retries → mayPass failure = false →
      Retrying retries mayPass attempt count asked
        ⟨.error failure, count + 1, asked ++ [failure]⟩
  | usedUp {count : Nat} {asked : List ε} {failure : ε} :
      attempt count = .error failure → retries ≤ count →
      Retrying retries mayPass attempt count asked ⟨.error failure, count + 1, asked⟩

section

variable {ε α : Type} {retries : Nat} {mayPass : ε → Bool} {attempt : Nat → Except ε α}

/-! ## The loop -/

theorem Retrying.unique {count : Nat} {asked : List ε} {done other : Retried ε α}
    (first : Retrying retries mayPass attempt count asked done)
    (second : Retrying retries mayPass attempt count asked other) : done = other := by
  induction first with
  | succeeds succeeds =>
      cases second with
      | succeeds again =>
          cases succeeds.symm.trans again
          rfl
      | again fails => cases succeeds.symm.trans fails
      | refuses fails => cases succeeds.symm.trans fails
      | usedUp fails => cases succeeds.symm.trans fails
  | again fails left passes _ induction =>
      cases second with
      | succeeds succeeds => cases succeeds.symm.trans fails
      | again again _ _ rest =>
          cases fails.symm.trans again
          exact induction rest
      | refuses again _ refuses =>
          cases fails.symm.trans again
          cases passes.symm.trans refuses
      | usedUp _ none => exact absurd left (Nat.not_lt.mpr none)
  | refuses fails left refuses =>
      cases second with
      | succeeds succeeds => cases succeeds.symm.trans fails
      | again again _ passes =>
          cases fails.symm.trans again
          cases passes.symm.trans refuses
      | refuses again =>
          cases fails.symm.trans again
          rfl
      | usedUp _ none => exact absurd left (Nat.not_lt.mpr none)
  | usedUp fails none =>
      cases second with
      | succeeds succeeds => cases succeeds.symm.trans fails
      | again _ left => exact absurd left (Nat.not_lt.mpr none)
      | refuses _ left => exact absurd left (Nat.not_lt.mpr none)
      | usedUp again =>
          cases fails.symm.trans again
          rfl

/-- With retries left for what the count still allows, the loop ends with what the recursion comes
to. -/
theorem retrying_retryFrom {count left : Nat} (allowed : count + left = retries)
    (asked : List ε) :
    let later := retryFrom mayPass attempt count left
    Retrying retries mayPass attempt count asked
      ⟨later.outcome, count + later.calls, asked ++ later.asked⟩ := by
  induction left generalizing count asked with
  | zero =>
      cases outcome : attempt count with
      | ok value => simpa [retryFrom, outcome] using Retrying.succeeds outcome
      | error failure =>
          simpa [retryFrom, outcome] using Retrying.usedUp outcome (Nat.le_of_eq allowed.symm)
  | succ left induction =>
      have some : count < retries := by omega
      cases outcome : attempt count with
      | ok value => simpa [retryFrom, outcome] using Retrying.succeeds outcome
      | error failure =>
          cases judged : mayPass failure with
          | false => simpa [retryFrom, outcome, judged] using Retrying.refuses outcome some judged
          | true =>
              have rest := induction (by omega : count + 1 + left = retries) (asked ++ [failure])
              have step := Retrying.again outcome some judged rest
              simpa [retryFrom, outcome, judged, Nat.add_assoc, Nat.add_comm 1] using step

/-! ## The last run -/

/-- The failures of so many outcomes from the run of number `first` on. -/
def failuresFrom (attempt : Nat → Except ε α) (first runs : Nat) : List ε :=
  (List.range' first runs).filterMap fun run => failure? (attempt run)

theorem failuresFrom_failure {first : Nat} {failure : ε} (fails : attempt first = .error failure)
    (runs : Nat) :
    failuresFrom attempt first (runs + 1) = failure :: failuresFrom attempt (first + 1) runs := by
  simp [failuresFrom, List.range'_succ, fails, failure?]

theorem failuresFrom_value {first runs : Nat} {value : α} (succeeds : attempt first = .ok value)
    (one : runs ≤ 1) : failuresFrom attempt first runs = [] := by
  obtain rfl | rfl : runs = 0 ∨ runs = 1 := by omega
  · rfl
  · simp [failuresFrom, succeeds, failure?]

/-- The loop has ended with the run of number `last`: no run before settled it, this one does or
none is left, and the failures were judged of those runs after which retries were left. -/
structure Retried.EndsAt (done : Retried ε α) (retries : Nat) (mayPass : ε → Bool)
    (attempt : Nat → Except ε α) (count : Nat) (asked : List ε) (last : Nat) : Prop where
  allowed : last ≤ retries
  calls : done.calls = last + 1
  outcome : done.outcome = attempt last
  unsettled : ∀ run, count ≤ run → run < last → ¬ Settles mayPass (attempt run)
  settled : last < retries → Settles mayPass (attempt last)
  asked : done.asked = asked ++ failuresFrom attempt count (min (last + 1) retries - count)

/-- The loop may end with the run that it has come to. -/
theorem Retried.EndsAt.now {done : Retried ε α} {count : Nat} {asked : List ε}
    (allowed : count ≤ retries) (calls : done.calls = count + 1)
    (outcome : done.outcome = attempt count)
    (settled : count < retries → Settles mayPass (attempt count))
    (judged : done.asked = asked ++ failuresFrom attempt count (min (count + 1) retries - count)) :
    ∃ last, count ≤ last ∧ done.EndsAt retries mayPass attempt count asked last := by
  refine ⟨count, Nat.le_refl count, allowed, calls, outcome, ?_, settled, judged⟩
  intro run here before
  exact absurd before (Nat.not_lt.mpr here)

theorem Retrying.endsAt {count : Nat} {asked : List ε} {done : Retried ε α}
    (run : Retrying retries mayPass attempt count asked done) (allowed : count ≤ retries) :
    ∃ last, count ≤ last ∧ done.EndsAt retries mayPass attempt count asked last := by
  induction run with
  | @succeeds count asked value succeeds =>
      apply Retried.EndsAt.now allowed rfl succeeds.symm
      · rw [succeeds]
        exact fun _ => trivial
      · have one : min (count + 1) retries - count ≤ 1 := by omega
        rw [failuresFrom_value succeeds one, List.append_nil]
  | @again count asked failure done fails left passes _ induction =>
      obtain ⟨last, later, ends⟩ := induction left
      refine ⟨last, Nat.le_of_succ_le later, ends.allowed, ends.calls, ends.outcome, ?_,
        ends.settled, ?_⟩
      · intro run here before
        rcases Nat.eq_or_lt_of_le here with rfl | after
        · rw [fails]
          simp [Settles, passes]
        · exact ends.unsettled run after before
      · have runs : min (last + 1) retries - count =
            min (last + 1) retries - (count + 1) + 1 := by omega
        rw [ends.asked, runs, failuresFrom_failure fails, List.append_assoc]
        rfl
  | @refuses count asked failure fails left refuses =>
      apply Retried.EndsAt.now allowed rfl fails.symm
      · rw [fails]
        exact fun _ => refuses
      · have runs : min (count + 1) retries - count = 0 + 1 := by omega
        rw [runs, failuresFrom_failure fails]
        rfl
  | @usedUp count asked failure fails none =>
      apply Retried.EndsAt.now allowed rfl fails.symm
      · exact fun left => absurd left (Nat.not_lt.mpr none)
      · have runs : min (count + 1) retries - count = 0 := by omega
        rw [runs]
        exact (List.append_nil asked).symm

/-! ## The number of runs -/

theorem min_firstSettled {last : Nat} (allowed : last ≤ retries)
    (unsettled : ∀ run, run < last → ¬ Settles mayPass (attempt run))
    (settled : last < retries → Settles mayPass (attempt last)) :
    min (firstSettled mayPass attempt) retries = last := by
  have lower : (last : ℕ∞) ≤ firstSettled mayPass attempt := by
    apply le_sInf
    rintro _ ⟨run, settles, rfl⟩
    exact Nat.cast_le.mpr (Nat.not_lt.mp fun before => unsettled run before settles)
  rcases Nat.lt_or_eq_of_le allowed with left | rfl
  · have upper : firstSettled mayPass attempt ≤ last := sInf_le ⟨last, settled left, rfl⟩
    rw [le_antisymm upper lower]
    exact min_eq_left (Nat.cast_le.mpr allowed)
  · exact min_eq_right lower

end

/-- The loop started with no retry made ends, and in one way only: it runs the operation once more
than there are outcomes that do not settle it before the first that does, or than retries are
allowed. -/
theorem retry_runs_as_allowed {ε α : Type} (retries : Nat) (mayPass : ε → Bool)
    (attempt : Nat → Except ε α) :
    let done := retry retries mayPass attempt
    (∀ other, Retrying retries mayPass attempt 0 [] other ↔ other = done) ∧
      (done.calls : ℕ∞) = min (firstSettled mayPass attempt) retries + 1 ∧
      done.outcome = attempt (done.calls - 1) ∧
      done.asked = failuresFrom attempt 0 (min done.calls retries) := by
  intro done
  have runs : Retrying retries mayPass attempt 0 [] done := by
    have loop : Retrying retries mayPass attempt 0 []
        ⟨done.outcome, 0 + done.calls, [] ++ done.asked⟩ :=
      retrying_retryFrom (Nat.zero_add retries) []
    rwa [Nat.zero_add, List.nil_append] at loop
  obtain ⟨last, -, ends⟩ := runs.endsAt (Nat.zero_le retries)
  have first : min (firstSettled mayPass attempt) retries = last :=
    min_firstSettled ends.allowed (fun run => ends.unsettled run (Nat.zero_le run)) ends.settled
  refine ⟨fun other => ⟨?_, ?_⟩, ?_, ?_, ?_⟩
  · exact fun again => again.unique runs
  · rintro rfl
    exact runs
  · rw [first, ends.calls]
    exact Nat.cast_succ last
  · rw [ends.calls]
    exact ends.outcome
  · rw [ends.calls]
    exact ends.asked

end RowPlan
