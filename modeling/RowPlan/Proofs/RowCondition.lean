import RowPlan.Proofs.Upsert

/-!
# Conditions on a row

A `ColumnTest` is what one comparison of a WHERE clause says to the database: a column
of the row against the value of a bind slot. A condition is a list of tests with their
slots. Its text is written here from the SQL grammar alone, and it is true, false or
unknown of a row.
-/

namespace RowPlan

/-! ## Three-valued logic -/

/-- What a condition is of a row: true, false, or unknown, which is none. -/
abbrev Truth :=
  Option Bool

namespace Truth

/-- True where both are, and false where one is. -/
def and : Truth → Truth → Truth
  | some false, _ => some false
  | _, some false => some false
  | some true, some true => some true
  | _, _ => none

/-- True where one is, and false where both are. -/
def or : Truth → Truth → Truth
  | some true, _ => some true
  | _, some true => some true
  | some false, some false => some false
  | _, _ => none

theorem and_eq_true_iff {left right : Truth} :
    left.and right = some true ↔ left = some true ∧ right = some true := by
  match left, right with
  | some true, some true => decide
  | some true, some false => decide
  | some true, none => decide
  | some false, _ => simp [and]
  | none, some true => decide
  | none, some false => decide
  | none, none => decide

theorem or_eq_true_iff {left right : Truth} :
    left.or right = some true ↔ left = some true ∨ right = some true := by
  match left, right with
  | some true, _ => simp [or]
  | some false, some true => decide
  | some false, some false => decide
  | some false, none => decide
  | none, some true => decide
  | none, some false => decide
  | none, none => decide

/-- All of some hold. -/
def all (truths : List Truth) : Truth :=
  truths.foldr and (some true)

/-- Any of some holds. -/
def any (truths : List Truth) : Truth :=
  truths.foldr or (some false)

theorem all_eq_true_iff {truths : List Truth} :
    all truths = some true ↔ ∀ truth, truth ∈ truths → truth = some true := by
  induction truths with
  | nil => simp [all]
  | cons truth rest induction =>
      rw [List.forall_mem_cons, ← induction]
      exact and_eq_true_iff

theorem any_eq_true_iff {truths : List Truth} : any truths = some true ↔ some true ∈ truths := by
  induction truths with
  | nil => simp [any]
  | cons truth rest induction =>
      rw [List.mem_cons, ← induction, eq_comm (a := some true)]
      exact or_eq_true_iff

end Truth

/-! ## Tests -/

/-- A test of a column against a bound value. -/
inductive ColumnTest where
  | equals (column : String)
  | notDistinct (column : String)
  | equalsAny (column : String)
  deriving DecidableEq, Repr

namespace ColumnTest

/-- The column that is tested. -/
def column : ColumnTest → String
  | equals column | notDistinct column | equalsAny column => column

def text (options : Options) (marker : String) : ColumnTest → String
  | equals column => options.quote column ++ " = " ++ marker
  | notDistinct column => options.quote column ++ " IS NOT DISTINCT FROM " ++ marker
  | equalsAny column => options.quote column ++ " = ANY(" ++ marker ++ ")"

/-- The clause of some tests, of the first slots of a statement; without a test there is
no clause. -/
def clauseText (options : Options) (tests : List ColumnTest) : String :=
  if tests.isEmpty then ""
  else " WHERE " ++ " AND ".intercalate ((tests.zipIdx 1).map fun (test, number) =>
    test.text options (options.markers.marker number))

end ColumnTest

/-- What is bound to a slot: one value, or an array, which may be absent itself. -/
inductive Bound (A : Type) where
  | value (cell : Cell A)
  | array (members : Option (List (Cell A)))

/-- An argument of a call, as it is bound as one value and as it is bound as an array. -/
structure Argument (A : Type) where
  cell : Cell A
  members : Option (List (Cell A))

section

variable {A : Type}

def BindSlot.bound (slot : BindSlot) (argument : Argument A) : Bound A :=
  if slot.isArray then .array argument.members else .value argument.cell

variable [DecidableEq A]

/-- What a test is of a row. Between a value and an array nothing is true. -/
def ColumnTest.truth (row : Row A) : ColumnTest → Bound A → Truth
  | equals column, .value cell => (row column).equal? cell
  | notDistinct column, .value cell => some (decide (row column = cell))
  | equalsAny column, .array (some members) => Truth.any (members.map (row column).equal?)
  | _, _ => none

/-- What a condition is of a row, where `arguments` has the values at the paths of slots. -/
def conditionTruth (row : Row A) (tests : List (ColumnTest × BindSlot))
    (arguments : List String → Argument A) : Truth :=
  Truth.all (tests.map fun tested =>
    tested.1.truth row (tested.2.bound (arguments tested.2.path)))

theorem Cell.equal?_eq_true_iff {left right : Cell A} :
    left.equal? right = some true ↔ left ≠ .null ∧ left = right := by
  cases left with
  | null => simp [equal?]
  | integer number =>
      cases right with
      | null => simp [equal?]
      | integer other => simp [equal?]
      | other value => simp [equal?]
  | other value =>
      cases right with
      | null => simp [equal?]
      | integer number => simp [equal?]
      | other other => simp [equal?]

/-- Membership in an array of the database: an absent array has no members, and the
absent value is a member of none. -/
theorem ColumnTest.truth_equalsAny {row : Row A} {column : String}
    {members : Option (List (Cell A))} :
    (equalsAny column).truth row (.array members) = some true ↔
      row column ≠ .null ∧ ∃ listed, members = some listed ∧ row column ∈ listed := by
  cases members with
  | none => simp [truth]
  | some listed =>
      simp only [truth, Truth.any_eq_true_iff, List.mem_map, Cell.equal?_eq_true_iff]
      constructor
      · rintro ⟨member, inList, present, rfl⟩
        exact ⟨present, listed, rfl, inList⟩
      · rintro ⟨present, others, same, inList⟩
        cases same
        exact ⟨row column, inList, present, rfl⟩

end

end RowPlan
