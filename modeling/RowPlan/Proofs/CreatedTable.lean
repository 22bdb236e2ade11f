import RowPlan.Proofs.BuiltTable
import RowPlan.Proofs.ColumnDifferences
import RowPlan.Proofs.NullChecks
import RowPlan.Proofs.TypeNames
import RowPlan.Schema.Check

/-!
# Tables made from their mapping

A table that has just the columns of its mapping passes the check of the mapping, whatever order
the database lists them in. What is read back of a column is what was expected of it, since the
name of its type in SQL is read as its type.
-/

namespace RowPlan

/-- What the information schema tells of a column. -/
structure InformationRow where
  name : String
  nullability : String
  typeName : String
  isKey : Bool

/-- The column that a row tells of. -/
def InformationRow.column (row : InformationRow) : ColumnSpec :=
  .ofInformationSchema row.name row.nullability row.typeName row.isKey

/-- The row about a column that was made as described. -/
def ColumnSpec.row (column : ColumnSpec) : InformationRow where
  name := column.name
  nullability := if column.nullable then "YES" else "NO"
  typeName := column.type.sql
  isKey := column.isKey

/-- A type that the built-in types have, or that is read of a name of seven bits. -/
inductive ColumnType.Nameable : ColumnType → Prop where
  | builtin {type : TypeUse} {columnType : ColumnType} :
      Catalog.builtin.columnType type = some columnType → Nameable columnType
  | named {name : String} : SevenBits name.toList → Nameable (ofName name)

namespace Catalog

theorem builtin_entries_spelled :
    ∀ entry, entry ∈ builtin.entries →
      entry.2.columnType = .other "VOID" ∨
        entry.2.columnType ∈ ColumnType.spellings.map Prod.snd := by
  decide

theorem builtin_columnType_cases {type : TypeUse} {columnType : ColumnType}
    (found : builtin.columnType type = some columnType) :
    columnType = .other "VOID" ∨ columnType ∈ ColumnType.spellings.map Prod.snd := by
  unfold Catalog.columnType at found
  split at found
  · next known resolved =>
      cases found
      rcases (builtin_resolve_cases resolved).2 with rfl | ⟨entry, member, rfl⟩
      · decide
      · exact builtin_entries_spelled entry member
  · split at found
    · cases found
      decide
    · cases found

end Catalog

theorem ColumnType.Nameable.ofName_sql {type : ColumnType} (nameable : type.Nameable) :
    ofName type.sql = type := by
  cases nameable with
  | named small => exact ofName_sql_ofName small
  | builtin found =>
      rcases Catalog.builtin_columnType_cases found with rfl | spelled
      · decide
      · obtain ⟨entry, member, rfl⟩ := List.mem_map.mp spelled
        exact ofName_sql_of_spelling entry member

theorem ColumnSpec.column_row {column : ColumnSpec} (nameable : column.type.Nameable) :
    column.row.column = column := by
  obtain ⟨name, type, nullable, isKey⟩ := column
  have reread : ColumnType.ofName type.sql = type := nameable.ofName_sql
  cases nullable with
  | true => simp [ColumnSpec.row, InformationRow.column, ofInformationSchema, reread, nullableWord]
  | false => simp [ColumnSpec.row, InformationRow.column, ofInformationSchema, reread, nullableWord]

/-- Nothing is reported just of a table that has the expected columns in any order. -/
theorem Schema.messages_eq_nil_iff {table : String} {expected live : List ColumnSpec}
    (some : expected ≠ []) (names : (expected.map ColumnSpec.name).Nodup)
    (liveNames : (live.map ColumnSpec.name).Nodup) :
    messages table expected live = [] ↔ live.Perm expected := by
  rw [messages, List.map_eq_nil_iff]
  by_cases present : live = []
  · subst present
    constructor
    · intro nothing
      cases nothing
    · intro same
      exact (some same.symm.eq_nil).elim
  · rw [compare_eq_nil_iff present, perm_iff names liveNames]
    exact forall_congr' fun name => not_congr (reported_compare_iff names liveNames present)

/-- A table that was made as its mapping expects passes the check of the mapping: what is read of
the rows about its columns, in any order, are the expected columns, and no message is left. Of a
table with other columns there are messages. -/
theorem Table.check_created {options checked : Options} {catalog : Catalog} {entity : ClassDecl}
    {overrides : Option ClassDecl} {table : Table}
    (built : build options catalog entity overrides = .ok table) (some : table.columns ≠ [])
    (nameable : ∀ column, column ∈ table.columns → column.columnType.Nameable) :
    let check := SchemaCheck.of checked table
    (∀ rows : List InformationRow, rows.Perm (check.expected.map ColumnSpec.row) →
      check.evaluate (rows.map InformationRow.column) = []) ∧
    ∀ live : List ColumnSpec, (live.map ColumnSpec.name).Nodup →
      (check.evaluate live = [] ↔ live.Perm check.expected) := by
  intro check
  have expected : check.expected = table.columns.map SchemaCheck.expectedColumn := rfl
  have present : check.expected ≠ [] := mt List.map_eq_nil_iff.mp some
  have names : (check.expected.map ColumnSpec.name).Nodup := by
    rw [expected, List.map_map]
    exact build_names_nodup built
  have reread : (check.expected.map ColumnSpec.row).map InformationRow.column =
      check.expected := by
    rw [List.map_map]
    refine (List.map_congr_left ?_).trans (List.map_id _)
    intro column member
    rw [expected] at member
    obtain ⟨source, among, rfl⟩ := List.mem_map.mp member
    exact ColumnSpec.column_row (nameable source among)
  constructor
  · intro rows listed
    have same := listed.map InformationRow.column
    rw [reread] at same
    have liveNames := (same.map ColumnSpec.name).nodup_iff.mpr names
    exact (Schema.messages_eq_nil_iff present names liveNames).mpr same
  · intro live liveNames
    exact Schema.messages_eq_nil_iff present names liveNames

namespace Member

/-- A member whose address is compared without regard to letter case. -/
def entity : ClassDecl where
  name := .bare "Member"
  tags := [⟨TagName.table, [("name", "member")]⟩]
  fields := [
    ⟨"id", .named "i64", [⟨TagName.id, []⟩, ⟨TagName.column, [("name", "id")]⟩]⟩,
    ⟨"email", { TypeUse.named "String" with nullable := true },
      [⟨TagName.column, [("name", "email"), ("type", " CiText")]⟩]⟩]

def columns : List Column := [
  ⟨["id"], .named "i64", "id", .bigInt, true, false⟩,
  ⟨["email"], { TypeUse.named "String" with nullable := true }, "email", .other "CITEXT", false,
    false⟩]

/-- The columns of the table, which lists the address first. -/
def rows : List InformationRow :=
  [⟨"email", "YES", "CITEXT", false⟩, ⟨"id", "NO", "BIGINT", true⟩]

theorem table_built :
    ∃ table, Table.build {} .builtin entity none = .ok table ∧ table.columns = columns :=
  ⟨_, rfl, rfl⟩

theorem columns_nameable :
    ∀ column, column ∈ columns → column.columnType.Nameable := by
  intro column member
  rcases List.mem_cons.mp member with rfl | member
  · exact @ColumnType.Nameable.builtin (.named "i64") _ rfl
  · cases List.mem_singleton.mp member
    exact @ColumnType.Nameable.named " CiText" (by decide)

end Member

theorem Table.check_created_member :
    ∃ table, build {} .builtin Member.entity none = .ok table ∧ table.columns ≠ [] ∧
      (∀ column, column ∈ table.columns → column.columnType.Nameable) ∧
      Member.rows.Perm ((SchemaCheck.of {} table).expected.map ColumnSpec.row) ∧
      (SchemaCheck.of {} table).evaluate (Member.rows.map InformationRow.column) = [] := by
  obtain ⟨table, built, columns⟩ := Member.table_built
  have some : table.columns ≠ [] := columns ▸ List.cons_ne_nil _ _
  have nameable : ∀ column, column ∈ table.columns → column.columnType.Nameable :=
    columns ▸ Member.columns_nameable
  have listed : Member.rows.Perm ((SchemaCheck.of {} table).expected.map ColumnSpec.row) := by
    have expected : (SchemaCheck.of {} table).expected =
        Member.columns.map SchemaCheck.expectedColumn := by rw [← columns]; rfl
    rw [expected]
    exact .swap _ _ []
  refine ⟨table, built, some, nameable, listed, ?_⟩
  exact (check_created built some nameable).1 Member.rows listed

end RowPlan
