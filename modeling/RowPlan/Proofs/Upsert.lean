import RowPlan.Proofs.InsertCommand

/-!
# What an insert command does

A table of the database is a list of rows under a primary key. An insert command
proposes a row; where the key is stored already, its conflict rule decides. A
command whose result would break the key, or whose conflict rule is not about the
key, is refused and changes nothing.
-/

namespace RowPlan

/-- What a row holds in a column. -/
inductive Cell (A : Type) where
  | null
  | integer (number : Int)
  | other (value : A)
  deriving DecidableEq

/-- A row, by the names of its columns. -/
abbrev Row (A : Type) :=
  String → Cell A

namespace Cell

variable {A : Type}

/-- Addition of the database: nothing is added to null. -/
def plus (amount : Int) : Cell A → Cell A
  | null => null
  | integer number => integer (number + amount)
  | other value => other value

/-- Comparison of the database: with null it is neither true nor false. -/
def equal? [DecidableEq A] : Cell A → Cell A → Option Bool
  | null, _ => none
  | _, null => none
  | left, right => some (decide (left = right))

end Cell

section

variable {A : Type}

/-- The values of the key columns. -/
def Row.keyOf (key : List String) (row : Row A) : List (Cell A) :=
  key.map row

/-- The primary key holds: no two rows have the same key, and no key has a null. -/
def WellKeyed (key : List String) (rows : List (Row A)) : Prop :=
  (rows.map (Row.keyOf key)).Nodup ∧
    ∀ values, values ∈ rows.map (Row.keyOf key) → Cell.null ∉ values

/-- The value of a term, from the stored and the proposed row. -/
def RowTerm.value (stored proposed : Row A) : RowTerm → Cell A
  | .stored column => stored column
  | .proposed column => proposed column
  | .proposedLessOne column => (proposed column).plus (-1)

/-- The stored row with the assigned columns replaced. -/
def ConflictUpdate.apply (update : ConflictUpdate) (stored proposed : Row A) : Row A :=
  fun column =>
    match update.assignments.lookup column with
    | some term => term.value stored proposed
    | none => stored column

/-- Rows after a command, and how many of them it inserted or updated. -/
structure Outcome (A : Type) where
  rows : List (Row A)
  affected : Nat

/-! ## Rows under a key -/

namespace WellKeyed

variable {key : List String} {left right : List (Row A)} {stored : Row A}

theorem apart (wellKeyed : WellKeyed key (left ++ stored :: right)) :
    ∀ row, row ∈ left ∨ row ∈ right → row.keyOf key ≠ stored.keyOf key := by
  have distinct := wellKeyed.1
  rw [List.map_append, List.map_cons, List.nodup_append] at distinct
  obtain ⟨_, storedDistinct, leftApart⟩ := distinct
  intro row member
  rcases member with inLeft | inRight
  · exact leftApart _ (List.mem_map_of_mem inLeft) _ List.mem_cons_self
  · intro same
    exact (List.nodup_cons.mp storedDistinct).1 (same ▸ List.mem_map_of_mem inRight)

theorem replace (wellKeyed : WellKeyed key (left ++ stored :: right)) {updated : Row A}
    (same : updated.keyOf key = stored.keyOf key) :
    WellKeyed key (left ++ updated :: right) := by
  have keys : (left ++ updated :: right).map (Row.keyOf key) =
      (left ++ stored :: right).map (Row.keyOf key) := by
    simp [same]
  rwa [WellKeyed, keys]

variable [DecidableEq A]

theorem find?_stored (wellKeyed : WellKeyed key (left ++ stored :: right)) :
    (left ++ stored :: right).find? (fun row => row.keyOf key = stored.keyOf key) =
      some stored := by
  have notLeft : left.find? (fun row => row.keyOf key = stored.keyOf key) = none := by
    rw [List.find?_eq_none]
    intro row member
    simpa using wellKeyed.apart row (.inl member)
  simp [List.find?_append, notLeft]

/-- An update of the rows with a stored key is one of the row that has it. -/
theorem map_stored (wellKeyed : WellKeyed key (left ++ stored :: right))
    (update : Row A → Row A) :
    (left ++ stored :: right).map
        (fun row => if row.keyOf key = stored.keyOf key then update row else row) =
      left ++ update stored :: right := by
  have unchanged : ∀ rows : List (Row A), (∀ row, row ∈ rows → row ∈ left ∨ row ∈ right) →
      rows.map (fun row => if row.keyOf key = stored.keyOf key then update row else row) =
        rows := by
    intro rows others
    refine (List.map_congr_left fun row member => ?_).trans (List.map_id rows)
    simp [wellKeyed.apart row (others row member)]
  simp [unchanged left fun _ => .inl, unchanged right fun _ => .inr]

end WellKeyed

/-! ## Execution -/

variable [DecidableEq A]

instance (key : List String) (rows : List (Row A)) : Decidable (WellKeyed key rows) :=
  inferInstanceAs (Decidable (_ ∧ _))

/-- The guard is true of the stored and the proposed row. -/
def ConflictUpdate.passes (update : ConflictUpdate) (stored proposed : Row A) : Bool :=
  match update.guard with
  | none => true
  | some (left, right) =>
      (left.value stored proposed).equal? (right.value stored proposed) == some true

/-- What is done with a row that conflicts with the proposed row. -/
def ConflictRule.resolve (rule : ConflictRule) (key : List String)
    (stored proposed : Row A) (rows : List (Row A)) : Outcome A :=
  match rule.update with
  | none => ⟨rows, 0⟩
  | some update =>
      if update.passes stored proposed then
        ⟨rows.map fun row =>
          if row.keyOf key = stored.keyOf key then update.apply row proposed else row, 1⟩
      else ⟨rows, 0⟩

namespace InsertCommand

/-- The row that is proposed for bound values; a column without a value is null. -/
def proposed (command : InsertCommand) (binds : List (Cell A)) : Row A := fun column =>
  ((command.row (Cell.plus 1) binds).lookup column).getD .null

/-- The effect of a command on rows, before the key is checked. -/
def attempt (command : InsertCommand) (key : List String) (proposed : Row A)
    (rows : List (Row A)) : Option (Outcome A) :=
  match command.conflict with
  | none => some ⟨rows ++ [proposed], 1⟩
  | some rule =>
      if rule.target.all key.contains && key.all rule.target.contains then
        match rows.find? fun stored => stored.keyOf key = proposed.keyOf key with
        | none => some ⟨rows ++ [proposed], 1⟩
        | some stored => some (rule.resolve key stored proposed rows)
      else none

/-- Executes a command as one step; none where it is refused. -/
def execute (command : InsertCommand) (key : List String) (binds : List (Cell A))
    (rows : List (Row A)) : Option (Outcome A) :=
  (command.attempt key (command.proposed binds) rows).filter fun outcome =>
    decide (WellKeyed key outcome.rows)

end InsertCommand

/-- What has been executed keeps the key. -/
theorem InsertCommand.wellKeyed_of_execute {command : InsertCommand} {key : List String}
    {binds : List (Cell A)} {rows : List (Row A)} {outcome : Outcome A}
    (executed : command.execute key binds rows = some outcome) :
    WellKeyed key outcome.rows := by
  simpa using (Option.filter_eq_some_iff.mp executed).2

end

end RowPlan
