import RowPlan.Proofs.KeySearch
import RowPlan.Schema.Discrepancy

/-!
# Differences between two lists of columns

A comparison reports the names that two lists of columns differ on, and no other names.
Nothing is reported of a table that has the expected columns in whatever order.
-/

namespace RowPlan

/-- The place of a kind of mismatch among the reports. -/
def Mismatch.place : Mismatch → Nat
  | missingTable => 0
  | missingColumns => 1
  | extraColumns => 2
  | invalidNullability => 3
  | invalidType => 4
  | extraKeys => 5
  | missingKeys => 6

namespace Schema

/-- Two lists of columns differ on a name: only one of them has it, or both describe its
column differently. -/
inductive DiffersAt (expected live : List ColumnSpec) (name : String) : Prop where
  | missing {column : ColumnSpec} :
      column ∈ expected → column.name = name → name ∉ live.map ColumnSpec.name →
      DiffersAt expected live name
  | extra {column : ColumnSpec} :
      column ∈ live → column.name = name → name ∉ expected.map ColumnSpec.name →
      DiffersAt expected live name
  | changed {column other : ColumnSpec} :
      column ∈ expected → other ∈ live → column.name = name → other.name = name →
      column.nullable ≠ other.nullable ∨ column.type ≠ other.type ∨
        column.isKey ≠ other.isKey →
      DiffersAt expected live name

/-- A column of that name is reported. -/
def Reported (discrepancies : List Discrepancy) (name : String) : Prop :=
  ∃ discrepancy, discrepancy ∈ discrepancies ∧
    ∃ column, column ∈ discrepancy.columns ∧ column.name = name

section

variable {expected live columns others : List ColumnSpec} {column other : ColumnSpec}
  {name table : String}

/-! ## Columns by name -/

theorem find?_eq_none_iff : find? columns name = none ↔ name ∉ columns.map ColumnSpec.name := by
  simp [find?]

theorem find?_eq_some_iff (names : (columns.map ColumnSpec.name).Nodup) :
    find? columns name = some column ↔ column ∈ columns ∧ column.name = name :=
  find?_key_eq_some_iff names

theorem mem_absentFrom_iff :
    column ∈ absentFrom others columns ↔
      column ∈ columns ∧ column.name ∉ others.map ColumnSpec.name := by
  rw [absentFrom, List.mem_filter, Option.isNone_iff_eq_none, find?_eq_none_iff]

theorem mem_differingFrom_iff (names : (others.map ColumnSpec.name).Nodup)
    {differ : ColumnSpec → ColumnSpec → Bool} :
    column ∈ differingFrom others differ columns ↔
      column ∈ columns ∧ ∃ other, other ∈ others ∧ other.name = column.name ∧
        differ column other = true := by
  simp only [differingFrom, List.mem_filter, Option.any_eq_true, find?_eq_some_iff names,
    and_assoc]

theorem mem_keysNotIn_iff (names : (others.map ColumnSpec.name).Nodup) :
    column ∈ keysNotIn others columns ↔
      column ∈ columns ∧ column.isKey = true ∧
        ∀ other, other ∈ others → other.name = column.name → other.isKey = false := by
  simp only [keysNotIn, List.mem_filter, Bool.and_eq_true, Bool.not_eq_true',
    Option.any_eq_false, find?_eq_some_iff names, and_imp]

/-! ## Differing names -/

theorem differsAt_of_keys_ne (here : column ∈ expected) (there : other ∈ live)
    (same : other.name = column.name) (differ : column.isKey ≠ other.isKey) :
    DiffersAt expected live column.name :=
  .changed here there rfl same (.inr (.inr differ))

/-- A column is reported for its name. -/
theorem differsAt_of_mem_mismatched (expectedNames : (expected.map ColumnSpec.name).Nodup)
    (liveNames : (live.map ColumnSpec.name).Nodup) {kind : Mismatch}
    (member : column ∈ mismatched expected live kind) :
    DiffersAt expected live column.name := by
  cases kind with
  | missingTable => cases member
  | missingColumns =>
      obtain ⟨here, absent⟩ := mem_absentFrom_iff.mp member
      exact .missing here rfl absent
  | extraColumns =>
      obtain ⟨here, absent⟩ := mem_absentFrom_iff.mp member
      exact .extra here rfl absent
  | invalidNullability =>
      obtain ⟨here, other, there, same, differ⟩ := (mem_differingFrom_iff liveNames).mp member
      exact .changed here there rfl same (.inl (by simpa using differ))
  | invalidType =>
      obtain ⟨here, other, there, same, differ⟩ := (mem_differingFrom_iff liveNames).mp member
      exact .changed here there rfl same (.inr (.inl (by simpa using differ)))
  | extraKeys =>
      obtain ⟨here, isKey, noKey⟩ := (mem_keysNotIn_iff expectedNames).mp member
      by_cases known : column.name ∈ expected.map ColumnSpec.name
      · obtain ⟨other, there, same⟩ := List.mem_map.mp known
        rw [← same]
        apply differsAt_of_keys_ne there here same.symm
        simp [isKey, noKey other there same]
      · exact .extra here rfl known
  | missingKeys =>
      obtain ⟨here, isKey, noKey⟩ := (mem_keysNotIn_iff liveNames).mp member
      by_cases known : column.name ∈ live.map ColumnSpec.name
      · obtain ⟨other, there, same⟩ := List.mem_map.mp known
        apply differsAt_of_keys_ne here there same
        simp [isKey, noKey other there same]
      · exact .missing here rfl known

theorem mem_keysNotIn_of_mem (names : (others.map ColumnSpec.name).Nodup)
    (here : column ∈ columns) (there : other ∈ others) (same : column.name = other.name)
    (isKey : column.isKey = true) (noKey : other.isKey = false) :
    column ∈ keysNotIn others columns := by
  apply (mem_keysNotIn_iff names).mpr
  refine ⟨here, isKey, ?_⟩
  intro third member named
  have alike : third = other :=
    List.inj_on_of_nodup_map names member there (named.trans same)
  rw [alike, noKey]

/-- Each way to differ has a kind of mismatch that reports it. -/
theorem exists_mem_mismatched (expectedNames : (expected.map ColumnSpec.name).Nodup)
    (liveNames : (live.map ColumnSpec.name).Nodup) (differs : DiffersAt expected live name) :
    ∃ kind, kind ∈ columnMismatches ∧
      ∃ column, column ∈ mismatched expected live kind ∧ column.name = name := by
  cases differs with
  | @missing column here same absent =>
      refine ⟨.missingColumns, by decide, column, ?_, same⟩
      exact mem_absentFrom_iff.mpr ⟨here, same ▸ absent⟩
  | @extra column here same absent =>
      refine ⟨.extraColumns, by decide, column, ?_, same⟩
      exact mem_absentFrom_iff.mpr ⟨here, same ▸ absent⟩
  | @changed column other here there same otherSame differ =>
      have named : column.name = other.name := same.trans otherSame.symm
      rcases differ with nullability | type | key
      · refine ⟨.invalidNullability, by decide, column, ?_, same⟩
        apply (mem_differingFrom_iff liveNames).mpr
        exact ⟨here, other, there, named.symm, by simpa using nullability⟩
      · refine ⟨.invalidType, by decide, column, ?_, same⟩
        apply (mem_differingFrom_iff liveNames).mpr
        exact ⟨here, other, there, named.symm, by simpa using type⟩
      · cases isKey : column.isKey with
        | true =>
            refine ⟨.missingKeys, by decide, column, ?_, same⟩
            apply mem_keysNotIn_of_mem liveNames here there named isKey
            simpa [isKey] using key
        | false =>
            refine ⟨.extraKeys, by decide, other, ?_, otherSame⟩
            apply mem_keysNotIn_of_mem expectedNames there here named.symm ?_ isKey
            simpa [isKey] using key

/-- A column that both lists have is no difference. -/
theorem not_differsAt_of_mem (expectedNames : (expected.map ColumnSpec.name).Nodup)
    (liveNames : (live.map ColumnSpec.name).Nodup) (inExpected : column ∈ expected)
    (inLive : column ∈ live) : ¬ DiffersAt expected live column.name := by
  intro differs
  cases differs with
  | missing _ _ absent => exact absent (List.mem_map_of_mem inLive)
  | extra _ _ absent => exact absent (List.mem_map_of_mem inExpected)
  | @changed first second here there same otherSame differ =>
      obtain rfl : first = column :=
        List.inj_on_of_nodup_map expectedNames here inExpected same
      obtain rfl : second = first :=
        List.inj_on_of_nodup_map liveNames there inLive otherSame
      simp at differ

theorem DiffersAt.symm (differs : DiffersAt expected live name) :
    DiffersAt live expected name := by
  cases differs with
  | missing here same absent => exact .extra here same absent
  | extra here same absent => exact .missing here same absent
  | changed here there same otherSame differ =>
      exact .changed there here otherSame same
        (differ.imp Ne.symm (Or.imp Ne.symm Ne.symm))

theorem mem_of_not_differsAt (agree : ¬ DiffersAt expected live column.name)
    (inExpected : column ∈ expected) : column ∈ live := by
  by_cases known : column.name ∈ live.map ColumnSpec.name
  · obtain ⟨other, there, same⟩ := List.mem_map.mp known
    have alike : ¬ (column.nullable ≠ other.nullable ∨ column.type ≠ other.type ∨
        column.isKey ≠ other.isKey) :=
      fun differ => agree (.changed inExpected there rfl same differ)
    simp only [ne_eq, not_or, not_not] at alike
    obtain ⟨nullable, type, isKey⟩ := alike
    have equal : column = other := by
      obtain ⟨_, _, _, _⟩ := column
      obtain ⟨_, _, _, _⟩ := other
      exact ColumnSpec.mk.injEq _ _ _ _ _ _ _ _ ▸ ⟨same.symm, type, nullable, isKey⟩
    exact equal ▸ there
  · exact (agree (.missing inExpected rfl known)).elim

/-- Two lists that differ on no name have the same columns. -/
theorem perm_iff (expectedNames : (expected.map ColumnSpec.name).Nodup)
    (liveNames : (live.map ColumnSpec.name).Nodup) :
    live.Perm expected ↔ ∀ name, ¬ DiffersAt expected live name := by
  constructor
  · intro permutation name differs
    have differs' := differs
    cases differs with
    | missing here same absent =>
        exact absent (same ▸ List.mem_map_of_mem (permutation.mem_iff.mpr here))
    | extra here same absent =>
        exact absent (same ▸ List.mem_map_of_mem (permutation.mem_iff.mp here))
    | @changed column other here there same otherSame differ =>
        have agree := not_differsAt_of_mem expectedNames liveNames here
          (permutation.mem_iff.mpr here)
        exact agree (same ▸ differs')
  · intro agree
    apply (List.perm_ext_iff_of_nodup liveNames.of_map expectedNames.of_map).mpr
    intro column
    constructor
    · exact mem_of_not_differsAt fun differs => agree column.name differs.symm
    · exact mem_of_not_differsAt (agree column.name)

/-! ## Reports -/

/-- A report is of one kind, and lists all columns of that kind. -/
theorem mem_compare_iff (present : live ≠ []) {discrepancy : Discrepancy} :
    discrepancy ∈ compare table expected live ↔
      discrepancy.kind ∈ columnMismatches ∧ discrepancy.table = table ∧
        discrepancy.columns = mismatched expected live discrepancy.kind ∧
        discrepancy.columns ≠ [] := by
  have nonempty : live.isEmpty = false := by simpa using present
  simp only [compare, nonempty, Bool.false_eq_true, if_false, List.mem_filterMap]
  constructor
  · rintro ⟨kind, member, found⟩
    split at found
    case h_1 => cases found
    case h_2 some =>
      cases found
      exact ⟨member, rfl, rfl, some⟩
  · rintro ⟨member, rfl, columns, some⟩
    refine ⟨discrepancy.kind, member, ?_⟩
    split
    case h_1 none => exact (some (columns.trans none)).elim
    case h_2 => rw [← columns]

theorem reported_compare_iff (expectedNames : (expected.map ColumnSpec.name).Nodup)
    (liveNames : (live.map ColumnSpec.name).Nodup) (present : live ≠ []) :
    Reported (compare table expected live) name ↔ DiffersAt expected live name := by
  constructor
  · rintro ⟨discrepancy, member, column, inColumns, rfl⟩
    obtain ⟨_, _, columns, _⟩ := (mem_compare_iff present).mp member
    exact differsAt_of_mem_mismatched expectedNames liveNames (columns ▸ inColumns)
  · intro differs
    obtain ⟨kind, member, column, inColumns, same⟩ :=
      exists_mem_mismatched expectedNames liveNames differs
    refine ⟨⟨kind, table, mismatched expected live kind⟩, ?_, column, inColumns, same⟩
    exact (mem_compare_iff present).mpr ⟨member, rfl, rfl, List.ne_nil_of_mem inColumns⟩

theorem compare_eq_nil_iff (present : live ≠ []) :
    compare table expected live = [] ↔ ∀ name, ¬ Reported (compare table expected live) name := by
  constructor
  · rintro nothing name ⟨discrepancy, member, _⟩
    rw [nothing] at member
    cases member
  · intro unreported
    apply List.eq_nil_iff_forall_not_mem.mpr
    intro discrepancy member
    obtain ⟨_, _, _, some⟩ := (mem_compare_iff present).mp member
    obtain ⟨column, inColumns⟩ := List.exists_mem_of_ne_nil _ some
    exact unreported column.name ⟨discrepancy, member, column, inColumns, rfl⟩

theorem kinds_compare_sublist (present : live ≠ []) :
    ((compare table expected live).map Discrepancy.kind).Sublist columnMismatches := by
  have nonempty : live.isEmpty = false := by simpa using present
  simp only [compare, nonempty, Bool.false_eq_true, if_false]
  induction columnMismatches with
  | nil => exact .slnil
  | cons kind kinds induction =>
      cases columns : mismatched expected live kind with
      | nil =>
          rw [List.filterMap_cons_none (by rw [columns])]
          exact induction.cons kind
      | cons column others =>
          rw [List.filterMap_cons_some (by rw [columns])]
          exact induction.cons_cons kind

end

/-- A comparison with a table that exists reports the names that the two lists of columns
differ on, at most once for each kind of mismatch and in the order of the kinds. It reports
nothing where the table has the expected columns in any order. -/
theorem compare_reports_differences {table : String} {expected live : List ColumnSpec}
    (expectedNames : (expected.map ColumnSpec.name).Nodup)
    (liveNames : (live.map ColumnSpec.name).Nodup) (present : live ≠ []) :
    let found := compare table expected live
    (found = [] ↔ live.Perm expected) ∧
    (found.map Discrepancy.kind).Pairwise (fun kind next => kind.place < next.place) ∧
    (∀ discrepancy, discrepancy ∈ found →
      discrepancy.table = table ∧ discrepancy.columns ≠ []) ∧
    (∀ name, Reported found name ↔ DiffersAt expected live name) ∧
    ∀ column, column ∈ expected → column ∈ live → ¬ Reported found column.name := by
  intro found
  have reported : ∀ name, Reported found name ↔ DiffersAt expected live name :=
    fun name => reported_compare_iff expectedNames liveNames present
  refine ⟨?_, ?_, ?_, reported, ?_⟩
  · rw [compare_eq_nil_iff present, perm_iff expectedNames liveNames]
    exact forall_congr' fun name => not_congr (reported name)
  · have ordered : columnMismatches.Pairwise fun kind next => kind.place < next.place := by
      decide
    exact ordered.sublist (kinds_compare_sublist present)
  · intro discrepancy member
    obtain ⟨_, named, _, some⟩ := (mem_compare_iff present).mp member
    exact ⟨named, some⟩
  · intro column inExpected inLive isReported
    exact not_differsAt_of_mem expectedNames liveNames inExpected inLive
      ((reported column.name).mp isReported)

/-- The columns of a person. -/
def personColumns : List ColumnSpec :=
  [⟨"id", .uuid, false, true⟩, ⟨"name", .text, false, false⟩, ⟨"age", .integer, true, false⟩]

/-- A table of persons without key and names, where ages are larger. -/
def nicknameColumns : List ColumnSpec :=
  [⟨"nickname", .text, true, false⟩, ⟨"age", .bigInt, true, false⟩, ⟨"id", .uuid, false, false⟩]

theorem compare_reports_differences_person :
    (personColumns.map ColumnSpec.name).Nodup ∧ (nicknameColumns.map ColumnSpec.name).Nodup ∧
      nicknameColumns ≠ [] ∧
      let found := compare "person" personColumns nicknameColumns
      found.map Discrepancy.kind =
          [.missingColumns, .extraColumns, .invalidType, .missingKeys] ∧
        Reported found "id" ∧ ¬ nicknameColumns.Perm personColumns := by
  have expectedNames : (personColumns.map ColumnSpec.name).Nodup := by decide
  have liveNames : (nicknameColumns.map ColumnSpec.name).Nodup := by decide
  have present : nicknameColumns ≠ [] := List.cons_ne_nil _ _
  obtain ⟨permutation, _, _, reported, _⟩ :=
    @compare_reports_differences "person" _ _ expectedNames liveNames present
  have kinds : (compare "person" personColumns nicknameColumns).map Discrepancy.kind =
      [.missingColumns, .extraColumns, .invalidType, .missingKeys] := by
    decide
  -- The key is mapped, but the table does not have it.
  have mapped : ⟨"id", .uuid, false, true⟩ ∈ personColumns := by decide
  have unkeyed : ⟨"id", .uuid, false, false⟩ ∈ nicknameColumns := by decide
  refine ⟨expectedNames, liveNames, present, kinds, (reported "id").mpr ?_, ?_⟩
  · exact .changed mapped unkeyed rfl rfl (.inr (.inr (by decide)))
  · intro same
    rw [permutation.mpr same] at kinds
    cases kinds

end Schema

end RowPlan
