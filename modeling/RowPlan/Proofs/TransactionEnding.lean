import RowPlan.Execution.Transaction

/-!
# How transactions end

A unit of work is told as a script: its steps, the first of which that fails ends it,
and the result that it has otherwise. The journal and the outcome of a transaction are
read off the script and off what the database refuses.
-/

namespace RowPlan

/-- A step of a unit of work. -/
inductive WorkStep where
  | execute (sql : String)
  | rollbackOnly
  | proceed
  | fail (failure : Failure)
  deriving DecidableEq, Repr

namespace WorkStep

def failure? : WorkStep → Option Failure
  | fail failure => some failure
  | execute _ | rollbackOnly | proceed => none

def statement? : WorkStep → Option String
  | execute sql => some sql
  | rollbackOnly | proceed | fail _ => none

end WorkStep

/-- The steps of a unit of work in their order, and its result if none of them fails. -/
structure Script (α : Type) where
  steps : List WorkStep
  result : Except Failure α

/-- The unit of work that takes some steps and then has a result. -/
def Work.ofSteps {α : Type} (result : Except Failure α) : List WorkStep → Work α
  | [] =>
      match result with
      | .ok value => .succeed value
      | .error failure => .fail failure
  | .execute sql :: rest => .execute sql (ofSteps result rest)
  | .rollbackOnly :: rest => .rollbackOnly (ofSteps result rest)
  | .proceed :: rest => .proceed (ofSteps result rest)
  | .fail failure :: _ => .fail failure

namespace Script

variable {α : Type}

def work (script : Script α) : Work α :=
  .ofSteps script.result script.steps

/-- The steps before the first one that fails. -/
def performed (script : Script α) : List WorkStep :=
  script.steps.takeWhile fun step => step.failure?.isNone

/-- The failure of the first step that fails, else the result. -/
def outcome (script : Script α) : Except Failure α :=
  match script.steps.findSome? WorkStep.failure? with
  | some failure => .error failure
  | none => script.result

/-- The statements that are run. -/
def executed (script : Script α) : List String :=
  script.performed.filterMap WorkStep.statement?

/-- A rollback is asked for before any step fails. -/
def RequestsRollback (script : Script α) : Prop :=
  .rollbackOnly ∈ script.performed

instance (script : Script α) : Decidable script.RequestsRollback :=
  inferInstanceAs (Decidable (.rollbackOnly ∈ script.performed))

/-- Scripts tell of every unit of work. -/
theorem exists_work_eq (work : Work α) : ∃ script : Script α, script.work = work := by
  induction work with
  | execute sql rest induction =>
      obtain ⟨⟨steps, result⟩, rfl⟩ := induction
      exact ⟨⟨.execute sql :: steps, result⟩, rfl⟩
  | rollbackOnly rest induction =>
      obtain ⟨⟨steps, result⟩, rfl⟩ := induction
      exact ⟨⟨.rollbackOnly :: steps, result⟩, rfl⟩
  | proceed rest induction =>
      obtain ⟨⟨steps, result⟩, rfl⟩ := induction
      exact ⟨⟨.proceed :: steps, result⟩, rfl⟩
  | succeed value => exact ⟨⟨[], .ok value⟩, rfl⟩
  | fail failure => exact ⟨⟨[], .error failure⟩, rfl⟩

end Script

/-! ## Running a script -/

namespace Script

variable {α : Type} {steps : List WorkStep} {result : Except Failure α} {step : WorkStep}

theorem performed_cons (goesOn : step.failure? = none) :
    performed ⟨step :: steps, result⟩ = step :: performed ⟨steps, result⟩ := by
  simp [performed, goesOn]

theorem outcome_cons (goesOn : step.failure? = none) :
    outcome ⟨step :: steps, result⟩ = outcome ⟨steps, result⟩ := by
  simp [outcome, goesOn]

theorem executed_cons (goesOn : step.failure? = none) :
    executed ⟨step :: steps, result⟩ =
      step.statement?.toList ++ executed ⟨steps, result⟩ := by
  rw [executed, performed_cons goesOn]
  cases statement : step.statement? with
  | none => exact List.filterMap_cons_none statement
  | some sql => exact List.filterMap_cons_some statement

theorem requestsRollback_cons (goesOn : step.failure? = none) :
    RequestsRollback ⟨step :: steps, result⟩ ↔
      step = .rollbackOnly ∨ RequestsRollback ⟨steps, result⟩ := by
  rw [RequestsRollback, performed_cons goesOn, List.mem_cons]
  exact or_congr_left eq_comm

end Script

/-- A unit of work did what its script says, after a rollback had been asked for or not. -/
structure WorkDone.Follows {α : Type} (done : WorkDone α) (script : Script α) (flag : Bool) :
    Prop where
  outcome : done.outcome = script.outcome
  executed : done.executed = script.executed
  rollbackOnly : done.rollbackOnly = true ↔ flag = true ∨ script.RequestsRollback

section

variable {α : Type} {steps : List WorkStep} {result : Except Failure α} {step : WorkStep}
  {done : WorkDone α} {flag later : Bool}

/-- What a step does before the others is what it adds to the script. -/
theorem WorkDone.Follows.cons (follows : done.Follows ⟨steps, result⟩ later)
    (step : WorkStep) (goesOn : step.failure? = none)
    (asked : later = true ↔ flag = true ∨ step = .rollbackOnly) (flags : List Bool) :
    WorkDone.Follows { done with executed := step.statement?.toList ++ done.executed, flags }
      ⟨step :: steps, result⟩ flag where
  outcome := follows.outcome.trans (Script.outcome_cons goesOn).symm
  executed := by
    rw [Script.executed_cons goesOn, follows.executed]
  rollbackOnly := by
    rw [Script.requestsRollback_cons goesOn, follows.rollbackOnly, asked, or_assoc]

/-- Whatever comes after a request for a rollback, the request stays. -/
theorem Script.follows_run (script : Script α) (flag : Bool) :
    (script.work.run flag).Follows script flag := by
  obtain ⟨steps, result⟩ := script
  induction steps generalizing flag with
  | nil =>
      have unasked : ¬ RequestsRollback ⟨[], result⟩ := List.not_mem_nil
      cases result with
      | ok value => exact ⟨rfl, rfl, (or_iff_left unasked).symm⟩
      | error failure => exact ⟨rfl, rfl, (or_iff_left unasked).symm⟩
  | cons step rest induction =>
      cases step with
      | execute sql => exact (induction flag).cons (.execute sql) rfl (by simp) _
      | rollbackOnly => exact (induction true).cons .rollbackOnly rfl (by simp) _
      | proceed => exact (induction flag).cons .proceed rfl (by simp) _
      | fail failure =>
          have unasked : ¬ RequestsRollback ⟨.fail failure :: rest, result⟩ :=
            List.not_mem_nil
          exact ⟨rfl, rfl, (or_iff_left unasked).symm⟩

end

/-! ## The end of a transaction -/

/-- The keywords of an isolation level. -/
inductive Isolation.Spelled : Isolation → String → Prop where
  | readUncommitted : Spelled .readUncommitted "READ UNCOMMITTED"
  | readCommitted : Spelled .readCommitted "READ COMMITTED"
  | repeatableRead : Spelled .repeatableRead "REPEATABLE READ"
  | serializable : Spelled .serializable "SERIALIZABLE"

/-- The statement that sets options other than those of the database. -/
inductive TransactionOptions.SetBy : TransactionOptions → String → Prop where
  | readOnly : SetBy { readOnly := true } "SET TRANSACTION READ ONLY"
  | isolated {level : Isolation} {keywords : String} {readOnly : Bool} :
      level.Spelled keywords →
      SetBy { isolation := some level, readOnly }
        ("SET TRANSACTION ISOLATION LEVEL " ++ keywords ++ ", " ++
          if readOnly then "READ ONLY" else "READ WRITE")

/-- The operation that is due after a script. -/
def Script.due {α : Type} (script : Script α) : Boundary :=
  match script.outcome with
  | .ok _ => if script.RequestsRollback then .rollback else .commit
  | .error _ => .rollback

/-- What a transaction that has begun came to. `last` is the statement that the database
accepted at its end, if it did. The value of the work is returned where it did, and the
failure of the work in any case. -/
structure TransactionDone.Ends {α : Type} (done : TransactionDone α)
    (refusal? : Boundary → Option String) (options : TransactionOptions) (script : Script α)
    (last : Option String) : Prop where
  journal : done.journal =
    "BEGIN" :: options.statement?.toList ++ script.executed ++ last.toList
  ends : last = none ∨ last = some "COMMIT" ∨ last = some "ROLLBACK"
  commits : last = some "COMMIT" ↔
    (∃ value, script.outcome = .ok value) ∧ ¬ script.RequestsRollback ∧
      refusal? .commit = none
  rollsBack : last = some "ROLLBACK" ↔
    ((∃ failure, script.outcome = .error failure) ∨ script.RequestsRollback) ∧
      refusal? .rollback = none
  returns : ∀ value, done.outcome = .ok value ↔ script.outcome = .ok value ∧ last ≠ none
  fails : ∀ failure, done.outcome = .error (.work failure) ↔ script.outcome = .error failure
  refused : ∀ operation reason, done.outcome = .error (.refused operation reason) ↔
    (∃ value, script.outcome = .ok value) ∧ operation = script.due ∧
      refusal? operation = some reason

section

variable {options : TransactionOptions} {level : Isolation} {sql : String}

theorem Isolation.spelled_iff : level.Spelled sql ↔ sql = level.sql := by
  constructor
  · rintro ⟨⟩ <;> rfl
  · rintro rfl
    cases level <;> constructor

theorem TransactionOptions.statement?_eq_none_iff (options : TransactionOptions) :
    options.statement? = none ↔ options = {} := by
  obtain ⟨isolation, readOnly⟩ := options
  cases isolation with
  | some level => simp [statement?]
  | none =>
      cases readOnly with
      | true => simp [statement?]
      | false => simp [statement?]

theorem TransactionOptions.statement?_eq_some_iff :
    options.statement? = some sql ↔ options.SetBy sql := by
  constructor
  · intro set
    obtain ⟨isolation, readOnly⟩ := options
    cases isolation with
    | some level =>
        cases set
        exact .isolated (Isolation.spelled_iff.mpr rfl)
    | none =>
        cases readOnly with
        | true =>
            cases set
            exact .readOnly
        | false => cases set
  · intro set
    cases set with
    | readOnly => rfl
    | isolated spelled =>
        obtain rfl := Isolation.spelled_iff.mp spelled
        rfl

end

section

variable {α : Type} {refusal? : Boundary → Option String} {options : TransactionOptions}
  {script : Script α} {value : α} {failure : Failure} {reason : String}

theorem Boundary.sql_eq_commit_iff {operation : Boundary} :
    operation.sql = "COMMIT" ↔ operation = .commit := by
  cases operation <;> decide

theorem Boundary.sql_eq_rollback_iff {operation : Boundary} :
    operation.sql = "ROLLBACK" ↔ operation = .rollback := by
  cases operation <;> decide

theorem Script.due_of_ok (succeeds : script.outcome = .ok value) :
    script.due = if script.RequestsRollback then .rollback else .commit := by
  rw [due, succeeds]

theorem Script.due_of_error (fails : script.outcome = .error failure) :
    script.due = .rollback := by
  rw [due, fails]

theorem Script.due_eq_commit_iff :
    script.due = .commit ↔
      (∃ value, script.outcome = .ok value) ∧ ¬ script.RequestsRollback := by
  cases outcome : script.outcome with
  | error failure => simp [due_of_error outcome]
  | ok value => simp [due_of_ok outcome]

theorem Script.due_eq_rollback_iff :
    script.due = .rollback ↔
      (∃ failure, script.outcome = .error failure) ∨ script.RequestsRollback := by
  cases outcome : script.outcome with
  | error failure => simp [due_of_error outcome]
  | ok value => simp [due_of_ok outcome]

theorem Script.sql_due (script : Script α) :
    script.due.sql = "COMMIT" ∨ script.due.sql = "ROLLBACK" := by
  cases outcome : script.outcome with
  | error failure =>
      rw [due_of_error outcome]
      exact .inr rfl
  | ok value =>
      rw [due_of_ok outcome]
      split
      · exact .inr rfl
      · exact .inl rfl

theorem Script.ending_of_ok (succeeds : script.outcome = .ok value) :
    (script.work.run false).ending =
      (script.due, .ok value, fun reason => .error (.refused script.due reason)) := by
  obtain ⟨outcome, _, rollbackOnly⟩ := script.follows_run false
  have operation : (if (script.work.run false).rollbackOnly then Boundary.rollback
      else Boundary.commit) = script.due := by
    simp [due_of_ok succeeds, rollbackOnly]
  rw [WorkDone.ending, outcome, succeeds, ← operation]

theorem Script.ending_of_error (fails : script.outcome = .error failure) :
    (script.work.run false).ending =
      (script.due, .error (.work failure), fun _ => .error (.work failure)) := by
  obtain ⟨outcome, _, _⟩ := script.follows_run false
  rw [WorkDone.ending, outcome, fails, due_of_error fails]

theorem transact_of_accepted {accepted : Except TransactionFailure α}
    {refused : String → Except TransactionFailure α} (begun : refusal? .begin = none)
    (ending : (script.work.run false).ending = (script.due, accepted, refused))
    (accepts : refusal? script.due = none) :
    (transact refusal? options script.work).outcome = accepted ∧
      (transact refusal? options script.work).journal =
        "BEGIN" :: options.statement?.toList ++ script.executed ++ [script.due.sql] := by
  obtain ⟨_, executed, _⟩ := script.follows_run false
  simp [transact, begun, ending, accepts, executed, Boundary.sql]

theorem transact_of_refused {accepted : Except TransactionFailure α}
    {refused : String → Except TransactionFailure α} (begun : refusal? .begin = none)
    (ending : (script.work.run false).ending = (script.due, accepted, refused))
    (refuses : refusal? script.due = some reason) :
    (transact refusal? options script.work).outcome = refused reason ∧
      (transact refusal? options script.work).journal =
        "BEGIN" :: options.statement?.toList ++ script.executed := by
  obtain ⟨_, executed, _⟩ := script.follows_run false
  simp [transact, begun, ending, refuses, executed, Boundary.sql]

/-- The operation that is due was accepted. -/
theorem ends_of_accepted (begun : refusal? .begin = none)
    (accepts : refusal? script.due = none) :
    (transact refusal? options script.work).Ends refusal? options script
      (some script.due.sql) := by
  have ends : some script.due.sql = none ∨ some script.due.sql = some "COMMIT" ∨
      some script.due.sql = some "ROLLBACK" := by
    simpa using script.sql_due
  have commits : some script.due.sql = some "COMMIT" ↔
      (∃ value, script.outcome = .ok value) ∧ ¬ script.RequestsRollback ∧
        refusal? .commit = none := by
    rw [Option.some_inj, Boundary.sql_eq_commit_iff, ← and_assoc, ← Script.due_eq_commit_iff,
      iff_self_and]
    exact fun due => due ▸ accepts
  have rollsBack : some script.due.sql = some "ROLLBACK" ↔
      ((∃ failure, script.outcome = .error failure) ∨ script.RequestsRollback) ∧
        refusal? .rollback = none := by
    rw [Option.some_inj, Boundary.sql_eq_rollback_iff, ← Script.due_eq_rollback_iff,
      iff_self_and]
    exact fun due => due ▸ accepts
  cases result : script.outcome with
  | ok value =>
      obtain ⟨outcome, journal⟩ :=
        transact_of_accepted begun (Script.ending_of_ok result) accepts
      refine ⟨journal, ends, commits, rollsBack, ?_, ?_, ?_⟩
      · simp [outcome, result]
      · simp [outcome, result]
      · rintro operation reason
        simp only [outcome, reduceCtorEq, false_iff, not_and]
        rintro _ rfl
        simp [accepts]
  | error failure =>
      obtain ⟨outcome, journal⟩ :=
        transact_of_accepted begun (Script.ending_of_error result) accepts
      refine ⟨journal, ends, commits, rollsBack, ?_, ?_, ?_⟩
      · simp [outcome, result]
      · simp [outcome, result]
      · simp [outcome, result]

/-- The operation that is due was refused. -/
theorem ends_of_refused (begun : refusal? .begin = none)
    (refuses : refusal? script.due = some reason) :
    (transact refusal? options script.work).Ends refusal? options script none := by
  have commits : none = some "COMMIT" ↔
      (∃ value, script.outcome = .ok value) ∧ ¬ script.RequestsRollback ∧
        refusal? .commit = none := by
    rw [← and_assoc, ← Script.due_eq_commit_iff]
    simp only [reduceCtorEq, false_iff, not_and]
    intro due
    simp [← due, refuses]
  have rollsBack : none = some "ROLLBACK" ↔
      ((∃ failure, script.outcome = .error failure) ∨ script.RequestsRollback) ∧
        refusal? .rollback = none := by
    rw [← Script.due_eq_rollback_iff]
    simp only [reduceCtorEq, false_iff, not_and]
    intro due
    simp [← due, refuses]
  cases result : script.outcome with
  | ok value =>
      obtain ⟨outcome, journal⟩ :=
        transact_of_refused begun (Script.ending_of_ok result) refuses
      refine ⟨by simpa using journal, .inl rfl, commits, rollsBack, ?_, ?_, ?_⟩
      · simp [outcome]
      · simp [outcome, result]
      · intro operation other
        simp only [outcome, Except.error.injEq, TransactionFailure.refused.injEq, result]
        constructor
        · rintro ⟨rfl, rfl⟩
          exact ⟨⟨value, rfl⟩, rfl, refuses⟩
        · rintro ⟨_, rfl, same⟩
          exact ⟨rfl, Option.some.inj (refuses.symm.trans same)⟩
  | error failure =>
      obtain ⟨outcome, journal⟩ :=
        transact_of_refused begun (Script.ending_of_error result) refuses
      refine ⟨by simpa using journal, .inl rfl, commits, rollsBack, ?_, ?_, ?_⟩
      · simp [outcome]
      · simp [outcome, result]
      · simp [outcome, result]

/-- Where the beginning is refused the work does not run. A transaction that has begun
journals the options that are not those of the database, what was run and then the
operation that is due, unless the database refuses it. -/
theorem transact_ends (refusal? : Boundary → Option String) (options : TransactionOptions)
    (script : Script α) :
    let done := transact refusal? options script.work
    (∀ work : Work α, ∃ told : Script α, told.work = work) ∧
    (options.statement? = none ↔ options = {}) ∧
    (∀ sql, options.statement? = some sql ↔ options.SetBy sql) ∧
    (∀ reason, refusal? .begin = some reason →
      done.journal = [] ∧ done.flags = [] ∧ done.outcome = .error (.refused .begin reason)) ∧
    (refusal? .begin = none → ∃ last, done.Ends refusal? options script last) := by
  intro done
  refine ⟨Script.exists_work_eq, options.statement?_eq_none_iff,
    fun sql => options.statement?_eq_some_iff, ?_, ?_⟩
  · intro reason refused
    simp [done, transact, refused]
  · intro begun
    cases refusal : refusal? script.due with
    | none => exact ⟨_, ends_of_accepted begun refusal⟩
    | some reason => exact ⟨_, ends_of_refused begun refusal⟩

end

/-- Looks at what a change would do, and takes it back. -/
def dryRun : Script Nat where
  steps := [.execute "INSERT", .rollbackOnly, .execute "UPDATE"]
  result := .ok 7

/-- Changes a row. -/
def change : Script Nat where
  steps := [.execute "UPDATE", .proceed]
  result := .ok 1

/-- The database refuses an operation. -/
def refuses (refused : Boundary) (operation : Boundary) : Option String :=
  if operation = refused then some "read only" else none

/-- A change is committed, and one that may not be is not journaled as such. What comes after
the request for a rollback does not withdraw it. Nothing is done without a beginning. -/
theorem transact_ends_every_way :
    refuses .commit .begin = none ∧ refuses .rollback .begin = none ∧
      refuses .begin .begin = some "read only" ∧
      let dry := transact (refuses .commit) { readOnly := true } dryRun.work
      let kept := transact (refuses .rollback) { isolation := some .serializable } change.work
      let lost := transact (refuses .commit) {} change.work
      let unbegun := transact (refuses .begin) {} change.work
      ((∃ last, dry.Ends (refuses .commit) { readOnly := true } dryRun last) ∧
        dry.journal = ["BEGIN", "SET TRANSACTION READ ONLY", "INSERT", "UPDATE", "ROLLBACK"] ∧
        dry.outcome = .ok 7) ∧
      ((∃ last, kept.Ends (refuses .rollback) { isolation := some .serializable } change last) ∧
        kept.journal =
          ["BEGIN", "SET TRANSACTION ISOLATION LEVEL SERIALIZABLE, READ WRITE", "UPDATE",
            "COMMIT"] ∧
        kept.outcome = .ok 1) ∧
      ((∃ last, lost.Ends (refuses .commit) {} change last) ∧
        lost.journal = ["BEGIN", "UPDATE"] ∧
        lost.outcome = .error (.refused .commit "read only")) ∧
      unbegun.journal = [] ∧ unbegun.flags = [] ∧
        unbegun.outcome = .error (.refused .begin "read only") :=
  ⟨rfl, rfl, rfl,
    ⟨(transact_ends (refuses .commit) { readOnly := true } dryRun).2.2.2.2 rfl, rfl, rfl⟩,
    ⟨(transact_ends (refuses .rollback) { isolation := some .serializable } change).2.2.2.2 rfl,
      rfl, rfl⟩,
    ⟨(transact_ends (refuses .commit) {} change).2.2.2.2 rfl, rfl, rfl⟩,
    (transact_ends (refuses .begin) {} change).2.2.2.1 "read only" rfl⟩

end RowPlan
