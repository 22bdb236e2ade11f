import RowPlan.Proofs.PlannedFields

/-!
# Checks for absent values

Some accessors yield a zero value where a column holds no value, so a nullable read through
one of them has to be checked. A read knows this of its accessor from the catalog entry of
its own type. An accessor that is taken from the column instead is never known to yield
zero values, whatever it does.
-/

namespace RowPlan

mutual

/-- The values that a plan reads, in reading order. -/
def ReadPlan.reads : ReadPlan → List Extractor
  | .build _ _ parts => ReadPlan.readsOfParts parts
  | .read extractor => [extractor]

/-- The values that several plans read, in reading order. -/
def ReadPlan.readsOfParts : List ReadPlan → List Extractor
  | [] => []
  | part :: rest => part.reads ++ ReadPlan.readsOfParts rest

end

namespace Catalog

/-- The catalog marks an accessor as one that yields a zero value where there is none. -/
def YieldsZero (catalog : Catalog) (accessor : String) : Prop :=
  ∃ entry ∈ catalog.entries, entry.2.primitive = true ∧ entry.2.accessor = accessor

instance (catalog : Catalog) (accessor : String) : Decidable (catalog.YieldsZero accessor) :=
  inferInstanceAs (Decidable (∃ entry ∈ catalog.entries, _))

/-- The plans of entities and projections, from whatever columns, and of single values. -/
inductive Plans (catalog : Catalog) : ReadPlan → Prop where
  | entity {entity : ClassDecl} {columns : List Column} {plan : ReadPlan} :
      catalog.entityPlan entity columns = .ok plan → Plans catalog plan
  | projection {function : String} {view : ClassDecl} {columns used : List Column}
      {plan : ReadPlan} :
      catalog.projectionPlan function view columns = .ok (plan, used) → Plans catalog plan
  | scalar {type : TypeUse} {plan : ReadPlan} :
      catalog.scalarPlan type = .ok plan → Plans catalog plan

end Catalog

/-! ## What is read -/

section

variable {catalog : Catalog} {resolve : List String → List Column} {path : List String}
  {fields : List FieldDecl} {parts : List ReadPlan} {plan : ReadPlan} {read : Extractor}

/-- Every value that is read below fields is read from a column of a path. -/
theorem Planned.mem_reads (planned : Planned catalog resolve path fields parts)
    (member : read ∈ ReadPlan.readsOfParts parts) :
    ∃ path column field type, column ∈ resolve path ∧
      read = catalog.extractor column field type := by
  induction planned with
  | nil => simp [ReadPlan.readsOfParts] at member
  | @read path field rest column others resolved _ induction =>
      rw [ReadPlan.readsOfParts, ReadPlan.reads, List.singleton_append] at member
      rcases List.mem_cons.mp member with here | later
      · exact ⟨_, column, field.name, field.type, resolved ▸ List.mem_cons_self, here⟩
      · exact induction later
  | build _ _ _ _ ownInduction induction =>
      rw [ReadPlan.readsOfParts, ReadPlan.reads, List.mem_append] at member
      rcases member with nested | later
      · exact ownInduction nested
      · exact induction later

theorem Catalog.plan_eq_ok {field : Option String} {cls : ClassDecl}
    (success : catalog.plan resolve field path cls = .ok plan) :
    ∃ parts, plan = .build field cls.name parts ∧
      catalog.planFields resolve path cls.fields = .ok parts := by
  cases cls
  rw [Catalog.plan] at success
  obtain ⟨parts, planned, equality⟩ := bind_eq_ok_iff.mp success
  cases equality
  exact ⟨parts, rfl, planned⟩

theorem Catalog.entityPlan_eq_ok {entity : ClassDecl} {columns : List Column}
    (success : catalog.entityPlan entity columns = .ok plan) :
    ∃ parts, plan = .build none entity.name parts ∧
      Planned catalog (exactColumns columns) [] entity.fields parts := by
  unfold entityPlan at success
  cases found : catalog.plan (exactColumns columns) none [] entity with
  | error unbound =>
      rw [found] at success
      cases success
  | ok own =>
      rw [found] at success
      cases success
      obtain ⟨parts, rfl, planned⟩ := plan_eq_ok found
      exact ⟨parts, rfl, planned_of_planFields _ _ _ _ _ planned⟩

end

/-! ## The built-in catalog -/

namespace Catalog

/-- The accessors that yield zero values. -/
def zeroAccessors : List String :=
  ["bool", "i16", "i32", "i64", "f32", "f64"]

/-- An accessor yields zero values under all names of a type, or under none. -/
theorem builtin_primitive_iff :
    ∀ entry ∈ builtin.entries,
      (entry.2.primitive = true ↔ entry.2.accessor ∈ zeroAccessors) := by
  decide

theorem builtin_yieldsZero_iff {accessor : String} :
    builtin.YieldsZero accessor ↔ accessor ∈ zeroAccessors := by
  constructor
  · rintro ⟨entry, member, primitive, rfl⟩
    exact (builtin_primitive_iff entry member).mp primitive
  · intro member
    have listed : ∀ accessor ∈ zeroAccessors, builtin.YieldsZero accessor := by
      decide
    exact listed accessor member

variable {type : TypeUse} {known : KnownType}

/-- What is known of a type is an entry, or that it is a list of bytes. -/
theorem builtin_resolve_cases (resolved : builtin.resolve type = some known) :
    type.target.isEnum = false ∧
      (known = ⟨.bytea, "bytes", false⟩ ∨ ∃ entry ∈ builtin.entries, entry.2 = known) := by
  unfold resolve at resolved
  split at resolved
  case isTrue => cases resolved
  case isFalse undeclared =>
    have noEnum : type.target.isEnum = false := by
      simp only [Bool.or_eq_true, not_or, Bool.not_eq_true] at undeclared
      exact undeclared.2
    refine ⟨noEnum, ?_⟩
    split at resolved
    case isTrue =>
      cases resolved
      exact .inl rfl
    case isFalse =>
      obtain ⟨before, after, shape, _⟩ := List.lookup_eq_some_iff.mp resolved
      refine .inr ⟨(type.name, known), ?_, rfl⟩
      rw [shape]
      exact List.mem_append_right _ List.mem_cons_self

theorem builtin_primitive_of_yieldsZero (resolved : builtin.resolve type = some known)
    (zero : builtin.YieldsZero known.accessor) : known.primitive = true := by
  rw [builtin_yieldsZero_iff] at zero
  rcases (builtin_resolve_cases resolved).2 with rfl | ⟨entry, member, rfl⟩
  · simp [zeroAccessors] at zero
  · exact (builtin_primitive_iff entry member).mpr zero

/-- A read from a column is known to yield zero values just where its own type is known. -/
theorem builtin_extractor_isPrimitive (column : Column) (field : String)
    (zero : builtin.YieldsZero (builtin.extractor column field type).accessor) :
    (builtin.extractor column field type).isPrimitive = (builtin.resolve type).isSome := by
  rw [builtin_yieldsZero_iff] at zero
  -- JSON and enums have accessors of their own, which yield no zero values.
  have noJson : column.columnType.isJson = false := by
    cases isJson : column.columnType.isJson with
    | false => rfl
    | true =>
        have jsonb : column.columnType = .jsonb := by simpa [ColumnType.isJson] using isJson
        simp [extractor, jsonb, ColumnType.isJson, ColumnType.accessor, zeroAccessors] at zero
  have noEnum : type.target.isEnum = false := by
    cases isEnum : type.target.isEnum with
    | false => rfl
    | true => simp [extractor, noJson, isEnum, zeroAccessors] at zero
  cases resolved : builtin.resolve type with
  | none => simp [extractor, resolved]
  | some known =>
      have listed : known.accessor ∈ zeroAccessors := by
        simpa [extractor, noJson, noEnum, resolved] using zero
      simpa [extractor, noJson, noEnum, resolved] using
        builtin_primitive_of_yieldsZero resolved (builtin_yieldsZero_iff.mpr listed)

/-- A single value that is read through such an accessor has a known type. -/
theorem builtin_scalar_isPrimitive {read : Extractor}
    (success : builtin.scalarPlan read.type = .ok (.read read))
    (zero : builtin.YieldsZero read.accessor) :
    read.isPrimitive = (builtin.resolve read.type).isSome := by
  unfold scalarPlan at success
  cases resolved : builtin.resolve read.type with
  | some known =>
      rw [resolved] at success
      have shape := ReadPlan.read.inj (Except.ok.inj success)
      have accessor : read.accessor = known.accessor := (congrArg Extractor.accessor shape).symm
      rw [accessor] at zero
      have primitive := builtin_primitive_of_yieldsZero resolved zero
      rw [← shape]
      exact primitive
  | none =>
      rw [resolved] at success
      dsimp only at success
      split at success
      case isTrue =>
        have shape := ReadPlan.read.inj (Except.ok.inj success)
        rw [← shape]
        rfl
      case isFalse => cases success

end Catalog

theorem Catalog.scalarPlan_eq_ok {catalog : Catalog} {type : TypeUse} {plan : ReadPlan}
    (success : catalog.scalarPlan type = .ok plan) :
    ∃ read, plan = .read read ∧ read.type = type := by
  unfold scalarPlan at success
  split at success
  case h_1 =>
    cases success
    exact ⟨_, rfl, rfl⟩
  case h_2 =>
    split at success
    case isTrue =>
      cases success
      exact ⟨_, rfl, rfl⟩
    case isFalse => cases success

/-- Every value that a plan reads is read from a column, or is the whole result. -/
theorem Catalog.Plans.reads_cases {catalog : Catalog} {plan : ReadPlan} (plans : catalog.Plans plan)
    {read : Extractor} (member : read ∈ plan.reads) :
    (∃ column field type, read = catalog.extractor column field type) ∨
      catalog.scalarPlan read.type = .ok (.read read) := by
  cases plans with
  | entity success =>
      obtain ⟨parts, rfl, planned⟩ := entityPlan_eq_ok success
      obtain ⟨_, column, field, type, _, shape⟩ := planned.mem_reads member
      exact .inl ⟨column, field, type, shape⟩
  | projection success =>
      obtain ⟨parts, rfl, partsPlanned, _⟩ := projectionPlan_eq_ok success
      obtain ⟨_, column, field, type, _, shape⟩ :=
        (planned_of_planFields _ _ _ _ _ partsPlanned).mem_reads member
      exact .inl ⟨column, field, type, shape⟩
  | scalar success =>
      obtain ⟨own, rfl, rfl⟩ := scalarPlan_eq_ok success
      obtain rfl : read = own := by simpa [ReadPlan.reads] using member
      exact .inr success

/-- A nullable read through an accessor that yields zero values is checked just where the
catalog knows its type. -/
theorem needsNullCheck_iff_known {plan : ReadPlan} (plans : Catalog.builtin.Plans plan)
    {read : Extractor} (member : read ∈ plan.reads)
    (zero : Catalog.builtin.YieldsZero read.accessor) (nullable : read.type.nullable = true) :
    read.needsNullCheck = true ↔ (Catalog.builtin.resolve read.type).isSome = true := by
  have primitive : read.isPrimitive = (Catalog.builtin.resolve read.type).isSome := by
    rcases plans.reads_cases member with ⟨column, field, type, rfl⟩ | success
    · exact Catalog.builtin_extractor_isPrimitive column field zero
    · exact Catalog.builtin_scalar_isPrimitive success zero
  rw [Extractor.needsNullCheck, nullable, Bool.and_true, primitive]

namespace Invoice

def column (name type : String) : Tag :=
  ⟨TagName.column, [("name", name), ("type", type)]⟩

/-- An invoice with a known type and one of its own, both in nullable columns of numbers. -/
def entity : ClassDecl where
  name := .bare "Invoice"
  fields := [
    ⟨"paid", { target := { name := .bare "i64" }, nullable := true }, [column "paid" "bigint"]⟩,
    ⟨"total", { target := { name := .bare "Money" }, nullable := true }, [column "total" "bigint"]⟩]

def readNumber (name type : String) (isPrimitive : Bool) : Extractor where
  column := some name
  field := some name
  type := { target := { name := .bare type }, nullable := true }
  accessor := "i64"
  isJson := false
  isEnum := false
  isPrimitive := isPrimitive

def columns : List Column := [
  ⟨["paid"], { target := { name := .bare "i64" }, nullable := true }, "paid", .bigInt,
    false, false⟩,
  ⟨["total"], { target := { name := .bare "Money" }, nullable := true }, "total", .bigInt,
    false, false⟩]

def plan : ReadPlan :=
  .build none (.bare "Invoice") [
    .read (readNumber "paid" "i64" true), .read (readNumber "total" "Money" false)]

theorem columns_entity : Catalog.builtin.columns entity = .ok columns := by
  rfl

theorem plan_entity : Catalog.builtin.entityPlan entity columns = .ok plan := by
  rfl

end Invoice

theorem needsNullCheck_iff_known_invoice :
    Catalog.builtin.Plans Invoice.plan ∧
      Invoice.readNumber "paid" "i64" true ∈ Invoice.plan.reads ∧
      Catalog.builtin.YieldsZero "i64" ∧
      (Invoice.readNumber "paid" "i64" true).needsNullCheck = true := by
  have plans : Catalog.builtin.Plans Invoice.plan := .entity Invoice.plan_entity
  have member : Invoice.readNumber "paid" "i64" true ∈ Invoice.plan.reads :=
    List.mem_cons_self
  have zero : Catalog.builtin.YieldsZero "i64" := by decide
  exact ⟨plans, member, zero, (needsNullCheck_iff_known plans member zero rfl).mpr rfl⟩

/-- The absent total of an invoice is read as zero. -/
theorem invoice_total_unchecked :
    Catalog.builtin.columns Invoice.entity = .ok Invoice.columns ∧
      Catalog.builtin.entityPlan Invoice.entity Invoice.columns = .ok Invoice.plan ∧
      ∃ read, read ∈ Invoice.plan.reads ∧ Catalog.builtin.YieldsZero read.accessor ∧
        read.type.nullable = true ∧ read.needsNullCheck = false := by
  refine ⟨Invoice.columns_entity, Invoice.plan_entity, Invoice.readNumber "total" "Money" false,
    List.mem_cons_of_mem _ List.mem_cons_self, ?_, rfl, rfl⟩
  decide

end RowPlan
