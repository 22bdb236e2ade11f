import Mathlib.Data.List.Forall2
import Mathlib.Data.List.Nodup
import RowPlan.Proofs.BuiltTable
import RowPlan.Proofs.EntityPlan
import RowPlan.Proofs.NullChecks
import RowPlan.Proofs.Saving

/-!
# The codec of a column

A value of a JSONB column passes through a JSON codec, both ways. A save tells this by the
slot for the column and a plan by its read, and both ask the type of the column. The accessor
of the read is that of its own type as long as the column stores no JSON. So a type that the
catalog stores as JSON keeps the accessor of JSON in a column of another type.
-/

namespace RowPlan

/-- The catalog stores the values of a type as JSON. -/
def Catalog.StoresJson (catalog : Catalog) (type : TypeUse) : Prop :=
  ∃ known, catalog.resolve type = some known ∧ known.columnType = .jsonb

/-- A plan reads a column through a JSON codec where its slot is written through one. It has
the accessor of JSON there, and for a type that the catalog stores as JSON. -/
def ReadPlan.SharesCodec (plan : ReadPlan) (column : Column) (slot : BindSlot) : Prop :=
  ∀ read, read ∈ plan.reads → read.column = some column.name →
    (slot.isJson = true ↔ read.isJson = true) ∧
      (read.accessor = "json" ↔ read.isJson = true ∨ Catalog.builtin.StoresJson read.type)

theorem ColumnType.accessor_eq_json_iff {type : ColumnType} :
    type.accessor = "json" ↔ type.isJson = true := by
  cases type with
  | other name => simp [accessor, isJson]
  | _ => decide

theorem columnSlot_isJson (execution : Execution) (parameter : ParameterDecl)
    (column : Column) : (columnSlot execution parameter column).isJson = column.columnType.isJson :=
  rfl

namespace Catalog

/-- The accessor of JSON is that of the types stored as JSON. -/
theorem builtin_accessor_eq_json_iff :
    ∀ entry ∈ builtin.entries, (entry.2.accessor = "json" ↔ entry.2.columnType = .jsonb) := by
  decide

theorem builtin_storesJson_iff {type : TypeUse} {known : KnownType}
    (resolved : builtin.resolve type = some known) :
    builtin.StoresJson type ↔ known.accessor = "json" := by
  have stores : builtin.StoresJson type ↔ known.columnType = .jsonb := by
    simp [StoresJson, resolved]
  rw [stores]
  rcases (builtin_resolve_cases resolved).2 with rfl | ⟨entry, member, rfl⟩
  · decide
  · exact (builtin_accessor_eq_json_iff entry member).symm

/-- The accessor is asked of the column first, then of the type of the field. -/
theorem builtin_extractor_accessor (column : Column) (field : String) (type : TypeUse) :
    (builtin.extractor column field type).accessor = "json" ↔
      column.columnType.isJson = true ∨ builtin.StoresJson type := by
  -- An enumeration resolves to nothing, so that it comes before the catalog here as there.
  cases isJson : column.columnType.isJson with
  | true => simp [extractor, isJson, ColumnType.accessor_eq_json_iff]
  | false =>
      have noJson : column.columnType.accessor ≠ "json" := by
        simp [ne_eq, ColumnType.accessor_eq_json_iff, isJson]
      cases resolved : builtin.resolve type with
      | none =>
          have unstored : ¬builtin.StoresJson type := by
            simp [StoresJson, resolved]
          cases isEnum : type.target.isEnum with
          | true => simp [extractor, isJson, isEnum, unstored]
          | false => simp [extractor, isJson, isEnum, resolved, unstored, noJson]
      | some known =>
          have noEnum := (builtin_resolve_cases resolved).1
          simp [extractor, isJson, noEnum, resolved, builtin_storesJson_iff resolved]

end Catalog

/-! ## Reads of columns -/

section

variable {catalog : Catalog} {path : List String} {fields : List FieldDecl}
  {columns : List Column} {parts : List ReadPlan}

/-- A plan that mirrors fields reads every column once, into the leaf field of its path. -/
theorem Mirrors.readsOfParts (mirrors : Mirrors catalog path fields parts)
    (flattens : Flattens catalog path fields columns) :
    ReadPlan.readsOfParts parts =
      columns.map fun column => catalog.extractor column column.leaf column.type := by
  induction flattens generalizing parts with
  | nil =>
      cases mirrors
      rfl
  | @leaf path field rest columnType others known _ induction =>
      cases mirrors with
      | leaf otherKnown otherMirrors =>
          obtain rfl := Option.some.inj (known.symm.trans otherKnown)
          have leaf : (leafColumn (path ++ [field.name]) field columnType).leaf = field.name := by
            simp [leafColumn, Column.leaf]
          rw [ReadPlan.readsOfParts, ReadPlan.reads, induction otherMirrors, List.map_cons, leaf]
          rfl
      | composite untyped => simp [untyped] at known
  | composite untyped _ _ _ _ ownInduction induction =>
      cases mirrors with
      | leaf known => simp [untyped] at known
      | composite _ own others =>
          rw [ReadPlan.readsOfParts, ReadPlan.reads, ownInduction own, induction others,
            List.map_append]

/-- Where all names of columns differ, a read of a column is made from that column. -/
theorem Planned.read_of_column {resolve : List String → List Column}
    (planned : Planned catalog resolve path fields parts)
    (inTable : ∀ path column, column ∈ resolve path → column ∈ columns)
    (names : (columns.map Column.name).Nodup) {column : Column} (known : column ∈ columns)
    {read : Extractor} (member : read ∈ ReadPlan.readsOfParts parts)
    (reads : read.column = some column.name) :
    ∃ field type, read = catalog.extractor column field type := by
  obtain ⟨path, other, field, type, resolved, rfl⟩ := planned.mem_reads member
  have sameName : other.name = column.name := Option.some.inj reads
  obtain rfl := List.inj_on_of_nodup_map names (inTable path other resolved) known sameName
  exact ⟨field, type, rfl⟩

end

/-- A save and the plan of its table agree on which columns pass through a JSON codec. A read
has the accessor of JSON there, and besides exactly where the catalog stores its type as JSON.
Where the fields of each class have names of their own, the plan reads every column once. -/
theorem compile_save_shares_codec {options : Options} {entity : ClassDecl}
    {overrides : Option ClassDecl} {table : Table} {function : FunctionDecl} {method : Method}
    (built : Table.build options .builtin entity overrides = .ok table)
    (compiled : Scope.compile ⟨options, .builtin, table, entity⟩ function = .ok method)
    (saves : method.archetype = .save) {plan : ReadPlan} (planned : table.plan = some plan) :
    List.Forall₂ plan.SharesCodec table.columns method.slots ∧
      (entity.DistinctFields →
        plan.reads.map Extractor.column = table.columns.map fun column => some column.name) := by
  obtain ⟨flattens, names, own, found, entityPlanned⟩ :=
    Table.build_parts built (Table.proper_of_plan built planned)
  obtain rfl := Option.some.inj (planned.symm.trans found)
  obtain ⟨parameter, _, _, _, slots, _⟩ := Scope.compiled_save compiled saves
  constructor
  · obtain ⟨parts, rfl, partsPlanned⟩ := Catalog.entityPlan_eq_ok entityPlanned
    rw [slots, List.forall₂_map_right_iff, List.forall₂_same]
    intro column known read member reads
    obtain ⟨field, type, rfl⟩ := partsPlanned.read_of_column
      (fun _ _ resolved => (List.mem_filter.mp resolved).1) names known member reads
    rw [columnSlot_isJson]
    exact ⟨Iff.rfl, Catalog.builtin_extractor_accessor column field type⟩
  · intro distinct
    obtain ⟨parts, mirrored, mirrors⟩ := flattens.entityPlan_mirrors distinct
    obtain rfl := Except.ok.inj (entityPlanned.symm.trans mirrored)
    rw [ReadPlan.reads, mirrors.readsOfParts flattens, List.map_map]
    rfl

namespace Article

def column (name : String) (type : List (String × String)) : Tag :=
  ⟨TagName.column, ("name", name) :: type⟩

def words : TypeUse :=
  .named "Vec" [.named "String"]

/-- An article with two lists of words, one stored as JSON and one as text. -/
def entity : ClassDecl where
  name := .bare "Article"
  tags := [⟨TagName.table, [("name", "article")]⟩]
  fields := [
    ⟨"authors", words, [column "authors" []]⟩,
    ⟨"keywords", words, [column "keywords" [("type", "text")]]⟩]

def readWords (name : String) (isJson : Bool) : Extractor where
  column := some name
  field := some name
  type := words
  accessor := "json"
  isJson := isJson
  isEnum := false
  isPrimitive := false

def plan : ReadPlan :=
  .build none (.bare "Article") [
    .read (readWords "authors" true), .read (readWords "keywords" false)]

def table : Table where
  entity := .bare "Article"
  name := "article"
  schema := none
  columns := [
    ⟨["authors"], words, "authors", .jsonb, false, false⟩,
    ⟨["keywords"], words, "keywords", .text, false, false⟩]
  plan := some plan

def scope : Scope where
  options := {}
  catalog := .builtin
  table := table
  entity := entity

def save : FunctionDecl where
  name := "save"
  parameters := [⟨"item", { target := entity }, []⟩]
  returnType := .unit

theorem table_built : Table.build {} .builtin entity none = .ok table := by
  rfl

theorem save_compiled : ∃ method, scope.compile save = .ok method ∧ method.archetype = .save ∧
    method.slots.map BindSlot.isJson = [true, false] :=
  ⟨_, rfl, rfl, rfl⟩

end Article

theorem compile_save_shares_codec_article :
    Table.build {} .builtin Article.entity none = .ok Article.table ∧
      ∃ method, Article.scope.compile Article.save = .ok method ∧
        method.archetype = .save ∧
        List.Forall₂ Article.plan.SharesCodec Article.table.columns method.slots ∧
        (Article.entity.DistinctFields →
          Article.plan.reads.map Extractor.column = [some "authors", some "keywords"]) := by
  obtain ⟨method, compiled, saves, _⟩ := Article.save_compiled
  obtain ⟨shares, reads⟩ :=
    compile_save_shares_codec Article.table_built compiled saves (rfl : _ = some Article.plan)
  exact ⟨Article.table_built, method, compiled, saves, shares, reads⟩

/-- The keywords are written as text, and read with the accessor of JSON. -/
theorem article_keywords_read_as_json :
    Table.build {} .builtin Article.entity none = .ok Article.table ∧
      ∃ method, Article.scope.compile Article.save = .ok method ∧
        method.archetype = .save ∧
        ∃ slot read, slot ∈ method.slots ∧ slot.path = ["item", "keywords"] ∧
          slot.isJson = false ∧
          Article.table.plan = some Article.plan ∧ read ∈ Article.plan.reads ∧
          read.column = some "keywords" ∧ read.isJson = false ∧ read.accessor = "json" :=
  ⟨Article.table_built, _, rfl, rfl, _, _, List.mem_cons_of_mem _ List.mem_cons_self, rfl, rfl,
    rfl, List.mem_cons_of_mem _ List.mem_cons_self, rfl, rfl, rfl⟩

end RowPlan
