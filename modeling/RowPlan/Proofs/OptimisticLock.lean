import Mathlib.Data.List.Nodup
import RowPlan.Execution.Affected
import RowPlan.Proofs.BuiltTable
import RowPlan.Proofs.Saving
import RowPlan.Proofs.Upsert

/-!
# Optimistic locking

A save names the version that its object was read with. Over a stored row it takes
place only on that version and leaves the next one behind. `SaveStep` says all that
one execution can do.
-/

namespace RowPlan

/-- The values of an object at the paths of its fields. -/
abbrev Fields (A : Type) :=
  List String → Cell A

/-- A table with one version column, outside of its key. -/
structure Table.Locks (table : Table) (version : Column) : Prop where
  names : (table.columns.map Column.name).Nodup
  versions : table.columns.filter Column.isVersion = [version]
  notId : version.isId = false

namespace Table

/-- The names of the key columns. -/
def keyNames (table : Table) : List String :=
  table.ids.map Column.name

/-- The values of an object that a save binds. -/
def boundValues {A : Type} (table : Table) (object : Fields A) : List (Cell A) :=
  table.columns.map fun column => object column.path

/-- The row that a save of an object proposes. -/
def savedRow {A : Type} (table : Table) (object : Fields A) : Row A :=
  (table.saveCommand true).proposed (table.boundValues object)

/-- The update of a save on a table with a version. -/
def lockingUpdate (table : Table) (version : Column) : ConflictUpdate where
  assignments := (table.columns.filter fun column => !column.isId).map fun column =>
    (column.name, .proposed column.name)
  guard := some (.stored version.name, .proposedLessOne version.name)

end Table

namespace Table.Locks

variable {table : Table} {version : Column}

theorem version_mem (locks : table.Locks version) :
    version ∈ table.columns ∧ version.isVersion = true := by
  have member : version ∈ table.columns.filter Column.isVersion := by
    simp [locks.versions]
  exact List.mem_filter.mp member

theorem eq_version (locks : table.Locks version) {column : Column}
    (member : column ∈ table.columns) (isVersion : column.isVersion = true) :
    column = version := by
  have found : column ∈ table.columns.filter Column.isVersion :=
    List.mem_filter.mpr ⟨member, isVersion⟩
  simpa [locks.versions] using found

theorem version?_eq (locks : table.Locks version) : table.version? = some version := by
  rw [Table.version?, ← List.head?_filter, locks.versions]
  rfl

theorem conflictUpdate_eq (locks : table.Locks version) :
    table.conflictUpdate = some (table.lockingUpdate version) := by
  have others : (table.columns.filter fun column => !column.isId).isEmpty = false := by
    have member : version ∈ table.columns.filter fun column => !column.isId :=
      List.mem_filter.mpr ⟨locks.version_mem.1, by simp [locks.notId]⟩
    simpa using List.ne_nil_of_mem member
  simp [conflictUpdate, lockingUpdate, locks.version?_eq, others]

/-! ## The proposed row -/

section

variable {A : Type}

theorem savedRow_column (locks : table.Locks version) (object : Fields A) {column : Column}
    (member : column ∈ table.columns) :
    table.savedRow object column.name =
      column.boundTerm.value (Cell.plus 1) (object column.path) := by
  have holds := table.saveCommand_row_holds true (Cell.plus 1) locks.names
    (show (table.boundValues object).length = table.columns.length by simp [boundValues])
  rw [HoldsSaved, boundValues, List.forall₂_map_right_iff, List.forall₂_same] at holds
  simp [savedRow, InsertCommand.proposed, boundValues, holds column member]

theorem savedRow_id (locks : table.Locks version) (object : Fields A) {id : Column}
    (member : id ∈ table.ids) : table.savedRow object id.name = object id.path := by
  obtain ⟨inTable, isId⟩ := List.mem_filter.mp member
  have unversioned : id.isVersion = false := by
    cases isVersion : id.isVersion with
    | false => rfl
    | true =>
        have same := locks.eq_version inTable isVersion
        simp [same, locks.notId] at isId
  rw [locks.savedRow_column object inTable]
  simp [Column.boundTerm, unversioned, BoundTerm.value]

theorem savedRow_keyOf (locks : table.Locks version) (object : Fields A) :
    (table.savedRow object).keyOf table.keyNames =
      table.ids.map fun id => object id.path := by
  rw [Row.keyOf, keyNames, List.map_map]
  exact List.map_congr_left fun id member => locks.savedRow_id object member

theorem savedRow_version (locks : table.Locks version) (object : Fields A) :
    table.savedRow object version.name = (object version.path).plus 1 := by
  obtain ⟨member, isVersion⟩ := locks.version_mem
  rw [locks.savedRow_column object member]
  simp [Column.boundTerm, isVersion, BoundTerm.value]

/-! ## The update of a stored row -/

theorem apply_id (locks : table.Locks version) (stored proposed : Row A) {id : Column}
    (member : id ∈ table.ids) :
    (table.lockingUpdate version).apply stored proposed id.name = stored id.name := by
  obtain ⟨inTable, isId⟩ := List.mem_filter.mp member
  have unassigned :
      (table.lockingUpdate version).assignments.lookup id.name = none := by
    rw [List.lookup_eq_none_iff]
    intro assignment assigned
    obtain ⟨column, others, rfl⟩ := List.mem_map.mp assigned
    obtain ⟨columnInTable, notId⟩ := List.mem_filter.mp others
    have different : id.name ≠ column.name := by
      intro names
      have same := List.inj_on_of_nodup_map locks.names inTable columnInTable names
      simp [← same, isId] at notId
    simpa using different
  rw [ConflictUpdate.apply, unassigned]

theorem apply_other (locks : table.Locks version) (stored proposed : Row A)
    {column : Column} (member : column ∈ table.columns) (notId : column.isId = false) :
    (table.lockingUpdate version).apply stored proposed column.name =
      proposed column.name := by
  have assigned : (table.lockingUpdate version).assignments.lookup column.name =
      some (.proposed column.name) := by
    apply lookup_of_mem
    · rw [lockingUpdate, List.map_map]
      exact locks.names.sublist (List.filter_sublist.map Column.name)
    · exact List.mem_map.mpr ⟨column, List.mem_filter.mpr ⟨member, by simp [notId]⟩, rfl⟩
  rw [ConflictUpdate.apply, assigned]
  rfl

theorem apply_column (locks : table.Locks version) {object : Fields A} {stored : Row A}
    (same : stored.keyOf table.keyNames = table.ids.map fun id => object id.path)
    {column : Column} (member : column ∈ table.columns) :
    (table.lockingUpdate version).apply stored (table.savedRow object) column.name =
      table.savedRow object column.name := by
  cases isId : column.isId with
  | false => exact locks.apply_other stored _ member isId
  | true =>
      have id : column ∈ table.ids := List.mem_filter.mpr ⟨member, isId⟩
      rw [Row.keyOf, Table.keyNames, List.map_map] at same
      rw [locks.apply_id stored _ id, locks.savedRow_id object id]
      exact List.map_inj_left.mp same column id

theorem apply_keyOf (locks : table.Locks version) (stored proposed : Row A) :
    ((table.lockingUpdate version).apply stored proposed).keyOf table.keyNames =
      stored.keyOf table.keyNames := by
  rw [Row.keyOf, Row.keyOf, keyNames, List.map_map, List.map_map]
  exact List.map_congr_left fun id member => locks.apply_id stored proposed member

end

section

variable {A : Type} [DecidableEq A]

/-- The guard asks for the version that the object was read with. -/
theorem passes_iff (locks : table.Locks version) {object : Fields A} {number : Int}
    (counted : object version.path = .integer number) (stored : Row A) :
    (table.lockingUpdate version).passes stored (table.savedRow object) = true ↔
      stored version.name = object version.path := by
  have proposed : (table.savedRow object version.name).plus (-1) = .integer number := by
    rw [locks.savedRow_version, counted]
    simp only [Cell.plus, Int.add_neg_cancel_right]
  simp only [lockingUpdate, ConflictUpdate.passes, RowTerm.value, proposed, counted]
  cases stored version.name with
  | null => simp [Cell.equal?]
  | integer other => simp [Cell.equal?]
  | other value => simp [Cell.equal?]

/-! ## One execution -/

theorem attempt_save (locks : table.Locks version) (proposed : Row A)
    (rows : List (Row A)) :
    (table.saveCommand true).attempt table.keyNames proposed rows =
      match rows.find? fun stored =>
          stored.keyOf table.keyNames = proposed.keyOf table.keyNames with
      | none => some ⟨rows ++ [proposed], 1⟩
      | some stored =>
          some (ConflictRule.resolve
            { target := table.keyNames, update := some (table.lockingUpdate version) }
            table.keyNames stored proposed rows) := by
  have target : (table.keyNames.all table.keyNames.contains &&
      table.keyNames.all table.keyNames.contains) = true := by
    simp
  have rule : (table.saveCommand true).conflict =
      some { target := table.keyNames, update := some (table.lockingUpdate version) } := by
    simp [saveCommand, keyNames, locks.conflictUpdate_eq]
  unfold InsertCommand.attempt
  rw [rule]
  exact if_pos target

/-- Over a stored row a save takes place on the version that it names, and only on it. -/
theorem execute_stored (locks : table.Locks version) {object : Fields A} {number : Int}
    {left right : List (Row A)} {stored : Row A}
    (counted : object version.path = .integer number)
    (wellKeyed : WellKeyed table.keyNames (left ++ stored :: right))
    (same : stored.keyOf table.keyNames = table.ids.map fun id => object id.path) :
    (table.saveCommand true).execute table.keyNames (table.boundValues object)
        (left ++ stored :: right) =
      some (if stored version.name = object version.path then
        ⟨left ++ (table.lockingUpdate version).apply stored (table.savedRow object) :: right, 1⟩
      else ⟨left ++ stored :: right, 0⟩) := by
  have key : (table.savedRow object).keyOf table.keyNames = stored.keyOf table.keyNames :=
    (locks.savedRow_keyOf object).trans same.symm
  have attempted := locks.attempt_save (table.savedRow object) (left ++ stored :: right)
  rw [key, wellKeyed.find?_stored] at attempted
  have guard := locks.passes_iff counted stored
  by_cases sameVersion : stored version.name = object version.path
  · have resolved : ConflictRule.resolve
        { target := table.keyNames, update := some (table.lockingUpdate version) }
        table.keyNames stored (table.savedRow object) (left ++ stored :: right) =
          ⟨left ++ (table.lockingUpdate version).apply stored (table.savedRow object)
            :: right, 1⟩ := by
      simp only [ConflictRule.resolve, guard.mpr sameVersion, if_true,
        wellKeyed.map_stored]
    have kept := wellKeyed.replace (locks.apply_keyOf stored (table.savedRow object))
    rw [if_pos sameVersion, InsertCommand.execute]
    exact Option.filter_eq_some_iff.mpr
      ⟨attempted.trans (congrArg some resolved), decide_eq_true kept⟩
  · have resolved : ConflictRule.resolve
        { target := table.keyNames, update := some (table.lockingUpdate version) }
        table.keyNames stored (table.savedRow object) (left ++ stored :: right) =
          ⟨left ++ stored :: right, 0⟩ := by
      simp only [ConflictRule.resolve, Bool.eq_false_iff.mpr (mt guard.mp sameVersion),
        Bool.false_eq_true, if_false]
    rw [if_neg sameVersion, InsertCommand.execute]
    exact Option.filter_eq_some_iff.mpr
      ⟨attempted.trans (congrArg some resolved), decide_eq_true wellKeyed⟩

/-- A save of a new key adds its row. -/
theorem execute_absent (locks : table.Locks version) {object : Fields A}
    {rows : List (Row A)} {outcome : Outcome A}
    (absent : ∀ stored, stored ∈ rows →
      stored.keyOf table.keyNames ≠ table.ids.map fun id => object id.path)
    (executed : (table.saveCommand true).execute table.keyNames (table.boundValues object)
      rows = some outcome) :
    outcome = ⟨rows ++ [table.savedRow object], 1⟩ := by
  have unfound : rows.find? (fun stored => stored.keyOf table.keyNames =
      (table.savedRow object).keyOf table.keyNames) = none := by
    rw [List.find?_eq_none, locks.savedRow_keyOf]
    intro stored member
    simpa using absent stored member
  have attempted := locks.attempt_save (table.savedRow object) rows
  rw [unfound] at attempted
  exact (Option.some.inj
    (attempted.symm.trans (Option.filter_eq_some_iff.mp executed).1)).symm

end

end Table.Locks

/-- What one save of an object can do to rows. -/
inductive Table.SaveStep {A : Type} (table : Table) (version : Column) (object : Fields A) :
    List (Row A) → Option (Outcome A) → Prop where
  | refused {rows : List (Row A)} :
      (∀ stored, stored ∈ rows →
        stored.keyOf table.keyNames ≠ table.ids.map fun id => object id.path) →
      SaveStep table version object rows none
  | inserted {rows : List (Row A)} :
      (∀ stored, stored ∈ rows →
        stored.keyOf table.keyNames ≠ table.ids.map fun id => object id.path) →
      SaveStep table version object rows (some ⟨rows ++ [table.savedRow object], 1⟩)
  | updated {left right : List (Row A)} {stored : Row A} :
      (stored.keyOf table.keyNames = table.ids.map fun id => object id.path) →
      stored version.name = object version.path →
      SaveStep table version object (left ++ stored :: right)
        (some ⟨left ++ (table.lockingUpdate version).apply stored (table.savedRow object)
          :: right, 1⟩)
  | stale {left right : List (Row A)} {stored : Row A} :
      (stored.keyOf table.keyNames = table.ids.map fun id => object id.path) →
      stored version.name ≠ object version.path →
      SaveStep table version object (left ++ stored :: right)
        (some ⟨left ++ stored :: right, 0⟩)

theorem Table.Locks.saveStep {A : Type} [DecidableEq A] {table : Table} {version : Column}
    {object : Fields A} {number : Int} {rows : List (Row A)} (locks : table.Locks version)
    (counted : object version.path = .integer number)
    (wellKeyed : WellKeyed table.keyNames rows) :
    table.SaveStep version object rows
      ((table.saveCommand true).execute table.keyNames (table.boundValues object) rows) := by
  by_cases found : ∃ stored, stored ∈ rows ∧
      stored.keyOf table.keyNames = table.ids.map fun id => object id.path
  · obtain ⟨stored, member, same⟩ := found
    obtain ⟨left, right, rfl⟩ := List.append_of_mem member
    rw [locks.execute_stored counted wellKeyed same]
    by_cases sameVersion : stored version.name = object version.path
    · rw [if_pos sameVersion]
      exact .updated same sameVersion
    · rw [if_neg sameVersion]
      exact .stale same sameVersion
  · have absent : ∀ stored, stored ∈ rows →
        stored.keyOf table.keyNames ≠ table.ids.map fun id => object id.path :=
      fun stored member same => found ⟨stored, member, same⟩
    cases executed : (table.saveCommand true).execute table.keyNames
        (table.boundValues object) rows with
    | none => exact .refused absent
    | some outcome =>
        obtain rfl := locks.execute_absent absent executed
        exact .inserted absent

end RowPlan
