import Mathlib.Data.List.Forall2
import RowPlan.Proofs.ColumnDifferences

/-!
# Order and direction of a comparison

Where no list has two columns of one name, a comparison finds the same whatever order the columns
come in. Seen from the other side, missing columns and keys are extra ones, and the columns that
have another type or accept absent values elsewhere have the same names.
-/

namespace RowPlan

namespace Schema

/-- The columns that reports of a kind list. -/
def columnsOf (kind : Mismatch) (found : List Discrepancy) : List ColumnSpec :=
  (found.filter fun discrepancy => discrepancy.kind = kind).flatMap Discrepancy.columns

/-- Two reports say the same, their columns in any order. -/
structure SameReport (discrepancy other : Discrepancy) : Prop where
  kind : discrepancy.kind = other.kind
  table : discrepancy.table = other.table
  columns : discrepancy.columns.Perm other.columns

section

variable {expected live others seen : List ColumnSpec} {table : String}

/-! ## Columns in any order -/

theorem find?_eq_of_perm (same : live.Perm seen) (names : (live.map ColumnSpec.name).Nodup)
    (name : String) : find? live name = find? seen name :=
  find?_key_eq_of_perm same names name

/-- The columns of a kind are chosen by what is found under their names. -/
theorem mismatched_perm (expectedSame : expected.Perm others) (liveSame : live.Perm seen)
    (names : (expected.map ColumnSpec.name).Nodup) (liveNames : (live.map ColumnSpec.name).Nodup)
    (kind : Mismatch) : (mismatched expected live kind).Perm (mismatched others seen kind) := by
  have expectedFound := funext (find?_eq_of_perm expectedSame names)
  have liveFound := funext (find?_eq_of_perm liveSame liveNames)
  cases kind with
  | missingTable => exact .nil
  | missingColumns =>
      simp only [mismatched, absentFrom, liveFound]
      exact expectedSame.filter _
  | extraColumns =>
      simp only [mismatched, absentFrom, expectedFound]
      exact liveSame.filter _
  | invalidNullability =>
      simp only [mismatched, differingFrom, liveFound]
      exact expectedSame.filter _
  | invalidType =>
      simp only [mismatched, differingFrom, liveFound]
      exact expectedSame.filter _
  | extraKeys =>
      simp only [mismatched, keysNotIn, expectedFound]
      exact liveSame.filter _
  | missingKeys =>
      simp only [mismatched, keysNotIn, liveFound]
      exact expectedSame.filter _

/-- A kind is reported of both or of neither. -/
theorem compare_of_perm (expectedSame : expected.Perm others) (liveSame : live.Perm seen)
    (names : (expected.map ColumnSpec.name).Nodup)
    (liveNames : (live.map ColumnSpec.name).Nodup) :
    List.Forall₂ SameReport (compare table expected live) (compare table others seen) := by
  have absent : live.isEmpty = seen.isEmpty := by
    rw [Bool.eq_iff_iff, List.isEmpty_iff, List.isEmpty_iff]
    exact ⟨fun none => (none ▸ liveSame.symm).eq_nil, fun none => (none ▸ liveSame).eq_nil⟩
  unfold compare
  rw [← absent]
  split
  · exact .cons ⟨rfl, rfl, .nil⟩ .nil
  · induction columnMismatches with
    | nil => exact .nil
    | cons kind kinds induction =>
        have columns := mismatched_perm expectedSame liveSame names liveNames kind
        cases here : mismatched expected live kind with
        | nil =>
            rw [here] at columns
            rw [List.filterMap_cons_none (by rw [here]),
              List.filterMap_cons_none (by rw [columns.symm.eq_nil])]
            exact induction
        | cons column rest =>
            cases there : mismatched others seen kind with
            | nil =>
                rw [here, there] at columns
                exact absurd columns.eq_nil (List.cons_ne_nil _ _)
            | cons second more =>
                rw [here, there] at columns
                rw [List.filterMap_cons_some (by rw [here]),
                  List.filterMap_cons_some (by rw [there])]
                exact .cons ⟨rfl, rfl, columns⟩ induction

/-! ## Both directions -/

theorem columnsOf_cons (kind : Mismatch) (discrepancy : Discrepancy) (rest : List Discrepancy) :
    columnsOf kind (discrepancy :: rest) =
      (if discrepancy.kind = kind then discrepancy.columns else []) ++ columnsOf kind rest := by
  by_cases same : discrepancy.kind = kind
  · simp [columnsOf, same]
  · simp [columnsOf, same]

/-- Each kind is looked at once. -/
theorem flatMap_columnMismatches (kind : Mismatch) :
    (columnMismatches.filter fun other => other = kind).flatMap (mismatched expected live) =
      mismatched expected live kind := by
  cases kind with
  | missingTable => rfl
  | missingColumns | extraColumns | invalidNullability | invalidType | extraKeys | missingKeys =>
      exact List.append_nil _

/-- The reports on a table that exists list the columns of each kind. -/
theorem columnsOf_compare (present : live ≠ []) (kind : Mismatch) :
    columnsOf kind (compare table expected live) = mismatched expected live kind := by
  have nonempty : live.isEmpty = false := by simpa using present
  rw [← flatMap_columnMismatches]
  simp only [compare, nonempty, Bool.false_eq_true, if_false]
  induction columnMismatches with
  | nil => rfl
  | cons other kinds induction =>
      cases columns : mismatched expected live other with
      | nil =>
          rw [List.filterMap_cons_none (by rw [columns]), induction, List.filter_cons]
          split
          · rw [List.flatMap_cons, columns, List.nil_append]
          · rfl
      | cons column rest =>
          rw [List.filterMap_cons_some (by rw [columns]), columnsOf_cons, induction,
            List.filter_cons]
          by_cases same : other = kind
          · simp [same, ← columns]
          · simp [same]

/-- A difference that is one in both directions concerns the same names. -/
theorem mem_names_differingFrom_iff {differ : ColumnSpec → ColumnSpec → Bool}
    (symmetric : ∀ column other, differ column other = differ other column)
    (names : (expected.map ColumnSpec.name).Nodup) (liveNames : (live.map ColumnSpec.name).Nodup)
    {name : String} :
    name ∈ (differingFrom live differ expected).map ColumnSpec.name ↔
      name ∈ (differingFrom expected differ live).map ColumnSpec.name := by
  simp only [List.mem_map, mem_differingFrom_iff names, mem_differingFrom_iff liveNames]
  constructor
  · rintro ⟨column, ⟨here, other, there, same, differs⟩, rfl⟩
    exact ⟨other, ⟨there, column, here, same.symm, symmetric column other ▸ differs⟩, same⟩
  · rintro ⟨column, ⟨here, other, there, same, differs⟩, rfl⟩
    exact ⟨other, ⟨there, column, here, same.symm, symmetric column other ▸ differs⟩, same⟩

end

/-- Columns in another order are compared alike: the same kinds are reported, each with the same
columns. With the lists exchanged, the missing columns and keys are reported as extra ones, and
the columns of another nullability or type under the same names. -/
theorem compare_unordered {expected live others seen : List ColumnSpec}
    (names : (expected.map ColumnSpec.name).Nodup) (liveNames : (live.map ColumnSpec.name).Nodup)
    (expectedSame : expected.Perm others) (liveSame : live.Perm seen) (table other : String) :
    List.Forall₂ SameReport (compare table expected live) (compare table others seen) ∧
    (expected ≠ [] → live ≠ [] →
      let found := compare table expected live
      let reverse := compare other live expected
      columnsOf .missingColumns found = columnsOf .extraColumns reverse ∧
      columnsOf .missingKeys found = columnsOf .extraKeys reverse ∧
      (∀ name, name ∈ (columnsOf .invalidNullability found).map ColumnSpec.name ↔
        name ∈ (columnsOf .invalidNullability reverse).map ColumnSpec.name) ∧
      ∀ name, name ∈ (columnsOf .invalidType found).map ColumnSpec.name ↔
        name ∈ (columnsOf .invalidType reverse).map ColumnSpec.name) := by
  refine ⟨compare_of_perm expectedSame liveSame names liveNames, ?_⟩
  intro some present found reverse
  have columns : ∀ kind, columnsOf kind found = mismatched expected live kind :=
    columnsOf_compare present
  have back : ∀ kind, columnsOf kind reverse = mismatched live expected kind :=
    columnsOf_compare some
  simp only [columns, back]
  refine ⟨rfl, rfl, ?_, ?_⟩
  · intro name
    exact mem_names_differingFrom_iff (fun _ _ => bne_comm) names liveNames
  · intro name
    exact mem_names_differingFrom_iff (fun _ _ => bne_comm) names liveNames

/-- The columns of a person and of the table of nicknames, each the other way round. -/
theorem compare_unordered_person :
    (personColumns.map ColumnSpec.name).Nodup ∧ (nicknameColumns.map ColumnSpec.name).Nodup ∧
      personColumns.Perm personColumns.reverse ∧ nicknameColumns.Perm nicknameColumns.reverse ∧
      personColumns ≠ [] ∧ nicknameColumns ≠ [] ∧
      List.Forall₂ SameReport (compare "person" personColumns nicknameColumns)
        (compare "person" personColumns.reverse nicknameColumns.reverse) ∧
      columnsOf .missingKeys (compare "person" personColumns nicknameColumns) =
        columnsOf .extraKeys (compare "nickname" nicknameColumns personColumns) ∧
      columnsOf .missingKeys (compare "person" personColumns nicknameColumns) =
        [⟨"id", .uuid, false, true⟩] := by
  have names : (personColumns.map ColumnSpec.name).Nodup := by decide
  have liveNames : (nicknameColumns.map ColumnSpec.name).Nodup := by decide
  have same := (List.reverse_perm personColumns).symm
  have liveSame := (List.reverse_perm nicknameColumns).symm
  have some : personColumns ≠ [] := List.cons_ne_nil _ _
  have present : nicknameColumns ≠ [] := List.cons_ne_nil _ _
  obtain ⟨alike, mirrored⟩ := compare_unordered names liveNames same liveSame "person" "nickname"
  obtain ⟨_, keys, _, _⟩ := mirrored some present
  exact ⟨names, liveNames, same, liveSame, some, present, alike, keys, by decide⟩

end Schema

end RowPlan
