import RowPlan.Execution.Rows
import RowPlan.Proofs.DeclaredClasses
import RowPlan.Proofs.RowLimit

/-!
# The cap on the rows of a single result

A query for a single row asks for a few rows only. Two are enough to see that there are too many,
so with a cap of at least two the rows that are cut off make no difference. A query for the first
of several rows asks for one, and never sees that there are more.
-/

namespace RowPlan

/-- The text of a method is a query, its sort clause and a limit on the rows. -/
def Scope.LimitsTo (scope : Scope) (function : FunctionDecl) (method : Method) (count : Nat) :
    Prop :=
  ∃ head, scope.QueryHead function head method.plan ∧
    method.sql = SqlText.written scope.options.markers {} head ++ function.sortText ++
      (" LIMIT " ++ toString count)

/-- What the matching rows come to where there is one at most. -/
inductive AtMostOne {α : Type} : List α → Except Failure (Option α) → Prop where
  | absent : AtMostOne [] (.ok none)
  | found {row : α} : AtMostOne [row] (.ok (some row))
  | several {rows : List α} : 1 < rows.length → AtMostOne rows (.error .tooManyResults)

/-- What the matching rows come to where there has to be exactly one. -/
inductive ExactlyOne {α : Type} : List α → Except Failure α → Prop where
  | absent : ExactlyOne [] (.error .notFound)
  | found {row : α} : ExactlyOne [row] (.ok row)
  | several {rows : List α} : 1 < rows.length → ExactlyOne rows (.error .tooManyResults)

/-- Reading the first rows, up to a cap, is reading all of them, which ends at the second row. -/
structure CapKeeps {α : Type} (cap : Nat) (rows : List α) : Prop where
  capped : single (rows.take cap) = single rows ∧
    singleRequired (rows.take cap) = singleRequired rows
  atMostOne : AtMostOne rows (single rows).outcome
  exactlyOne : ExactlyOne rows (singleRequired rows).outcome
  pulled : (single rows).pulled = min rows.length 2 ∧
    (singleRequired rows).pulled = min rows.length 2

/-- Reading one row finds the first one, whatever rows come after it. -/
structure FindsFirst {α : Type} (rows : List α) : Prop where
  atMostOne : (single (rows.take 1)).outcome = .ok rows.head?
  exactlyOne : (singleRequired (rows.take 1)).outcome = rows.head?.elim (.error .notFound) .ok

/-! ## Reading -/

section

variable {α : Type} {cap : Nat}

theorem single_atMostOne (rows : List α) : AtMostOne rows (single rows).outcome := by
  match rows with
  | [] => exact .absent
  | [row] => exact .found
  | row :: other :: rest => exact .several (by simp)

theorem single_pulled (rows : List α) : (single rows).pulled = min rows.length 2 := by
  match rows with
  | [] => rfl
  | [row] => rfl
  | row :: other :: rest =>
      rw [List.length_cons, List.length_cons, Nat.min_eq_right (by omega)]
      rfl

theorem singleRequired_exactlyOne (rows : List α) :
    ExactlyOne rows (singleRequired rows).outcome := by
  have read := single_atMostOne rows
  unfold singleRequired
  dsimp only
  generalize (single rows).outcome = outcome at read
  cases read with
  | absent => exact .absent
  | found => exact .found
  | several more => exact .several more

/-- No row after the second counts. -/
theorem single_take_two (rows : List α) : single (rows.take 2) = single rows := by
  match rows with
  | [] => rfl
  | [row] => rfl
  | row :: other :: rest => rfl

theorem single_take (two : 2 ≤ cap) (rows : List α) : single (rows.take cap) = single rows := by
  rw [← single_take_two, List.take_take, Nat.min_eq_left two, single_take_two]

theorem capKeeps (two : 2 ≤ cap) (rows : List α) : CapKeeps cap rows where
  capped := by
    have same := single_take two rows
    exact ⟨same, by rw [singleRequired, same, singleRequired]⟩
  atMostOne := single_atMostOne rows
  exactlyOne := singleRequired_exactlyOne rows
  pulled := ⟨single_pulled rows, single_pulled rows⟩

theorem findsFirst (rows : List α) : FindsFirst rows := by
  cases rows with
  | nil => exact ⟨rfl, rfl⟩
  | cons row rest => exact ⟨rfl, rfl⟩

end

/-! ## Limits -/

namespace Scope

variable {scope : Scope} {function : FunctionDecl} {method : Method} {shape : ReturnShape}
  {head : SqlText} {clause : Option LimitClause}

theorem LimitsRows.limitsTo {count : Nat}
    (limits : scope.LimitsRows function method head (some (.number count))) :
    scope.LimitsTo function method count :=
  ⟨head, limits.asks, limits.sql⟩

/-- A page has many rows, so a single result is no page. -/
theorem Limited.not_declares_page (limited : scope.Limited function shape clause)
    (single : shape.isMany = false) : ¬ function.Declares .page := by
  intro declared
  have page := limited.page.mp declared
  rw [ReturnShape.isMany, page, Bool.or_true] at single
  cases single

theorem Limited.clause_of_single (limited : scope.Limited function shape clause)
    (kind : scope.archetype function = .finder) (single : shape.isMany = false)
    (undeclared : ∀ source, source ≠ .page → ¬ function.Declares source) :
    clause = some (.number scope.options.singleResultCap.toNat) := by
  have none : ∀ source, ¬ function.Declares source := by
    intro source
    by_cases page : source = .page
    · exact page ▸ limited.not_declares_page single
    · exact undeclared source page
  exact limited.cap none (limited.present.mpr (.inl ⟨kind, single⟩))

theorem Limited.clause_of_first (limited : scope.Limited function shape clause)
    (first : function.Declares .first) : clause = some (.number 1) := by
  obtain ⟨limit, found, ofFirst⟩ := limited.source .first first
  cases ofFirst
  exact found

end Scope

/-- The cap of a query for a single row hides nothing if it is at least two: the rows that it
leaves are read like all that match, and a second row is reported. A query for the first row finds
that row and reports no others. -/
theorem compile_caps_single {scope : Scope} {function : FunctionDecl} {method : Method}
    (compiled : scope.compile function = .ok method) (kind : method.archetype = .finder)
    (single : method.isSingleResult = true) :
    (2 ≤ scope.options.singleResultCap.toNat →
      (∀ source, source ≠ .page → ¬ function.Declares source) →
        scope.LimitsTo function method scope.options.singleResultCap.toNat ∧
        ∀ {α : Type} (rows : List α), CapKeeps scope.options.singleResultCap.toNat rows) ∧
    (function.Declares .first →
      scope.LimitsTo function method 1 ∧ ∀ {α : Type} (rows : List α), FindsFirst rows) := by
  rw [Scope.compile_archetype compiled] at kind
  have one := Scope.isMany_of_isSingleResult kind compiled single
  obtain ⟨draft, success, finished⟩ := Scope.compile_eq_ok_iff.mp compiled
  obtain ⟨head, suffix, queries⟩ :=
    (Scope.drafted_of_draft success).queries (by rw [kind]; decide)
  have limits := queries.limitsRows
  rw [finished] at limits
  constructor
  · intro two undeclared
    refine ⟨?_, fun rows => capKeeps two rows⟩
    rw [limits.limited.clause_of_single kind one undeclared] at limits
    exact limits.limitsTo
  · intro first
    refine ⟨?_, fun rows => findsFirst rows⟩
    rw [limits.limited.clause_of_first first] at limits
    exact limits.limitsTo

namespace Car

/-- Finds the car of a power, or one of the cars of a power where the function is tagged so. -/
def findOfPower (tags : List Tag) : FunctionDecl where
  name := "find_of_power"
  parameters := [⟨"power", .named "i32", []⟩]
  returnType := { target := entity }
  tags := tags

end Car

/-- Two of three cars of a power are enough to see that there is more than one, and the first of
them is found where it is asked for. -/
theorem compile_caps_single_car :
    (∃ method, Car.scope.compile (Car.findOfPower []) = .ok method ∧
      method.archetype = .finder ∧ method.isSingleResult = true ∧
      method.sql = "SELECT \"id\", \"power\", \"revision\" FROM \"car\" " ++
        "WHERE \"power\" = ? LIMIT 2" ∧
      2 ≤ Car.scope.options.singleResultCap.toNat ∧
      Car.scope.LimitsTo (Car.findOfPower []) method Car.scope.options.singleResultCap.toNat ∧
      CapKeeps Car.scope.options.singleResultCap.toNat [7, 8, 9]) ∧
    ∃ method, Car.scope.compile (Car.findOfPower [⟨TagName.first, []⟩]) = .ok method ∧
      method.archetype = .finder ∧ method.isSingleResult = true ∧
      method.sql = "SELECT \"id\", \"power\", \"revision\" FROM \"car\" " ++
        "WHERE \"power\" = ? LIMIT 1" ∧
      Car.scope.LimitsTo (Car.findOfPower [⟨TagName.first, []⟩]) method 1 ∧
      FindsFirst [7, 8, 9] := by
  have two : 2 ≤ Car.scope.options.singleResultCap.toNat := by decide
  have undeclared : ∀ source, source ≠ .page → ¬ (Car.findOfPower []).Declares source := by
    intro source notPage declared
    cases source with
    | tag => cases declared
    | parameter =>
        obtain ⟨parameter, member, role⟩ := declared
        obtain rfl := List.mem_singleton.mp member
        cases role
    | first => cases declared
    | page => exact notPage rfl
  constructor
  · obtain ⟨method, compiled, kind, one, sql⟩ :
        ∃ method, Car.scope.compile (Car.findOfPower []) = .ok method ∧
          method.archetype = .finder ∧ method.isSingleResult = true ∧
          method.sql = "SELECT \"id\", \"power\", \"revision\" FROM \"car\" " ++
            "WHERE \"power\" = ? LIMIT 2" :=
      ⟨_, rfl, rfl, rfl, rfl⟩
    obtain ⟨limits, keeps⟩ := (compile_caps_single compiled kind one).1 two undeclared
    exact ⟨method, compiled, kind, one, sql, two, limits, keeps [7, 8, 9]⟩
  · obtain ⟨method, compiled, kind, one, sql⟩ :
        ∃ method, Car.scope.compile (Car.findOfPower [⟨TagName.first, []⟩]) = .ok method ∧
          method.archetype = .finder ∧ method.isSingleResult = true ∧
          method.sql = "SELECT \"id\", \"power\", \"revision\" FROM \"car\" " ++
            "WHERE \"power\" = ? LIMIT 1" :=
      ⟨_, rfl, rfl, rfl, rfl⟩
    obtain ⟨limits, finds⟩ := (compile_caps_single compiled kind one).2 rfl
    exact ⟨method, compiled, kind, one, sql, limits, finds [7, 8, 9]⟩

end RowPlan
