import Mathlib.Data.List.Forall2
import RowPlan.Execution.Order
import RowPlan.Proofs.Success

/-!
# Fields of sort orders

A caller builds an order step by step and may give any text as a field. The text is looked up
among the columns of the entity and nothing else is done with it: an order is refused for the
first field that is not there, and orders whose fields have the same columns become the same SQL.
-/

namespace RowPlan

/-- What a caller does to an order while building it. -/
inductive OrderStep where
  | unsorted
  | ascending (field : String)
  | descending (field : String)
  /-- Adds a key, the least or the greatest value first. -/
  | andThen (field : String) (direction : Direction)
  | withNulls (nulls : NullPlacement)

namespace OrderStep

/-- The order after a step. -/
def apply (order : Order) : OrderStep → Order
  | unsorted => .unsorted
  | ascending field => .ascending field
  | descending field => .descending field
  | andThen field direction => order.andThen field direction
  | withNulls nulls => order.withNulls nulls

/-- The fields to sort by after a step. -/
def fieldsAfter (fields : List String) : OrderStep → List String
  | unsorted => []
  | ascending field => [field]
  | descending field => [field]
  | andThen field _ => fields ++ [field]
  | withNulls _ => fields

/-- The fields that the steps leave to sort by, the most significant first. -/
def fields (steps : List OrderStep) : List String :=
  steps.foldl fieldsAfter []

end OrderStep

/-- The order that some steps build. -/
def Order.built (steps : List OrderStep) : Order :=
  steps.foldl OrderStep.apply .unsorted

/-- The first entry for a field in a column table gives it a column. -/
def FirstEntry (columns : List (String × String)) (field column : String) : Prop :=
  ∃ before after, columns = before ++ (field, column) :: after ∧
    ∀ entry, entry ∈ before → entry.1 ≠ field

/-- Two keys sort by the same column in the same way, whatever their fields are called. -/
structure SortKey.Alike (columns : List (String × String)) (key other : SortKey) : Prop where
  column : ∃ column, FirstEntry columns key.field column ∧ FirstEntry columns other.field column
  direction : key.direction = other.direction
  nulls : key.nulls = other.nulls

/-! ## Built orders -/

namespace Order

/-- Where the last key puts absent values is nothing that its field depends on. -/
theorem fields_withNulls (order : Order) (nulls : NullPlacement) :
    (order.withNulls nulls).keys.map SortKey.field = order.keys.map SortKey.field := by
  rcases List.eq_nil_or_concat' order.keys with none | ⟨front, last, shape⟩
  · simp [withNulls, none]
  · simp [withNulls, shape]

theorem fields_apply (order : Order) (step : OrderStep) :
    (step.apply order).keys.map SortKey.field =
      step.fieldsAfter (order.keys.map SortKey.field) := by
  cases step with
  | unsorted => rfl
  | ascending field => rfl
  | descending field => rfl
  | andThen field direction => simp [OrderStep.apply, OrderStep.fieldsAfter, andThen]
  | withNulls nulls => exact order.fields_withNulls nulls

theorem fields_built (steps : List OrderStep) :
    (built steps).keys.map SortKey.field = OrderStep.fields steps := by
  -- The fields so far are those of the order so far, from any order on.
  have follow : ∀ order : Order, (steps.foldl OrderStep.apply order).keys.map SortKey.field =
      steps.foldl OrderStep.fieldsAfter (order.keys.map SortKey.field) := by
    induction steps with
    | nil => exact fun _ => rfl
    | cons step rest induction =>
        intro order
        rw [List.foldl_cons, List.foldl_cons, induction, fields_apply]
  exact follow .unsorted

end Order

/-! ## Keys in SQL -/

section

variable {columns : List (String × String)} {key other : SortKey} {order : Order}

theorem lookup_eq_some_iff_firstEntry {field column : String} :
    columns.lookup field = some column ↔ FirstEntry columns field column := by
  rw [List.lookup_eq_some_iff]
  refine exists_congr fun before => exists_congr fun after => and_congr_right fun _ => ?_
  refine forall₂_congr fun entry _ => ?_
  rw [bne_iff_ne]
  exact ne_comm

theorem exists_lookup_iff {field : String} :
    (∃ column, columns.lookup field = some column) ↔ field ∈ columns.map Prod.fst := by
  rw [← Option.isSome_iff_exists, List.lookup_isSome_iff, List.mem_map]
  refine exists_congr fun entry => and_congr_right fun _ => ?_
  rw [beq_iff_eq]
  exact eq_comm

namespace Order

theorem exists_keyText_iff :
    (∃ text, keyText columns key = .ok text) ↔ key.field ∈ columns.map Prod.fst := by
  rw [← exists_lookup_iff, keyText]
  cases columns.lookup key.field with
  | none => simp
  | some column => simp

theorem keyText_eq_error_iff {failure : Failure} :
    keyText columns key = .error failure ↔
      key.field ∉ columns.map Prod.fst ∧ failure = .unknownSortField key.field := by
  rw [← exists_lookup_iff, keyText]
  cases columns.lookup key.field with
  | none => simp [eq_comm]
  | some column => simp

theorem keyText_of_alike (alike : key.Alike columns other) :
    keyText columns key = keyText columns other := by
  obtain ⟨⟨column, found, otherFound⟩, direction, nulls⟩ := alike
  rw [keyText, keyText, lookup_eq_some_iff_firstEntry.mpr found,
    lookup_eq_some_iff_firstEntry.mpr otherFound, direction, nulls]

/-! ## Clauses -/

/-- The clause of some keys in SQL. -/
def clauseOf (texts : List String) : String :=
  if texts.isEmpty then "" else "ORDER BY " ++ ", ".intercalate texts

/-- An order without keys is no exception: there is no key that can fail. -/
theorem render_eq (order : Order) (columns : List (String × String)) :
    order.render columns = (order.keys.mapM (keyText columns)).map clauseOf := by
  unfold render
  cases order.keys with
  | nil => rfl
  | cons key rest =>
      rw [List.mapM_cons]
      cases keyText columns key with
      | error failure => rfl
      | ok text =>
          cases rest.mapM (keyText columns) with
          | error failure => rfl
          | ok texts => rfl

theorem exists_render_iff :
    (∃ clause, order.render columns = .ok clause) ↔
      ∀ field, field ∈ order.keys.map SortKey.field → field ∈ columns.map Prod.fst := by
  have rendered : (∃ clause, order.render columns = .ok clause) ↔
      ∃ texts, order.keys.mapM (keyText columns) = .ok texts := by
    simp only [render_eq, map_eq_ok_iff]
    constructor
    · rintro ⟨_, texts, found, _⟩
      exact ⟨texts, found⟩
    · rintro ⟨texts, found⟩
      exact ⟨_, texts, found, rfl⟩
  rw [rendered, exists_mapM_iff, List.forall_mem_map]
  simp only [exists_keyText_iff]

theorem render_eq_error_iff {failure : Failure} :
    order.render columns = .error failure ↔
      ∃ before field after, order.keys.map SortKey.field = before ++ field :: after ∧
        (∀ earlier, earlier ∈ before → earlier ∈ columns.map Prod.fst) ∧
        field ∉ columns.map Prod.fst ∧ failure = .unknownSortField field := by
  rw [render_eq, map_eq_error_iff, mapM_eq_error_iff]
  simp only [exists_keyText_iff, keyText_eq_error_iff]
  constructor
  · rintro ⟨before, key, after, split, known, unknown, equality⟩
    refine ⟨before.map SortKey.field, key.field, after.map SortKey.field, ?_,
      List.forall_mem_map.mpr known, unknown, equality⟩
    rw [split, List.map_append, List.map_cons]
  · rintro ⟨before, field, after, split, known, unknown, equality⟩
    obtain ⟨keys, others, keysSplit, rfl, later⟩ := List.map_eq_append_iff.mp split
    obtain ⟨key, rest, rfl, rfl, rfl⟩ := List.map_eq_cons_iff.mp later
    exact ⟨keys, key, rest, keysSplit, List.forall_mem_map.mp known, unknown, equality⟩

theorem mapM_keyText_of_alike {keys others : List SortKey}
    (alike : List.Forall₂ (SortKey.Alike columns) keys others) :
    keys.mapM (keyText columns) = others.mapM (keyText columns) := by
  induction alike with
  | nil => rfl
  | cons first _ induction =>
      rw [List.mapM_cons, List.mapM_cons, keyText_of_alike first, induction]

theorem substitute_of_render {other : Order}
    (same : order.render columns = other.render columns) (sql : String) :
    order.substitute sql columns = other.substitute sql columns := by
  rw [substitute, substitute, same]

end Order

end

/-- A built order is refused exactly for the first of its fields that has no column. Orders whose
keys have the same columns, directions and places for absent values are rendered alike and put
into every text alike. -/
theorem render_hides_fields (columns : List (String × String)) :
    (∀ steps : List OrderStep,
      ((∃ clause, (Order.built steps).render columns = .ok clause) ↔
        ∀ field, field ∈ OrderStep.fields steps → field ∈ columns.map Prod.fst) ∧
      ∀ failure, (Order.built steps).render columns = .error failure ↔
        ∃ before field after, OrderStep.fields steps = before ++ field :: after ∧
          (∀ earlier, earlier ∈ before → earlier ∈ columns.map Prod.fst) ∧
          field ∉ columns.map Prod.fst ∧ failure = .unknownSortField field) ∧
    ∀ order other : Order, List.Forall₂ (SortKey.Alike columns) order.keys other.keys →
      order.render columns = other.render columns ∧
        ∀ sql, order.substitute sql columns = other.substitute sql columns := by
  constructor
  · intro steps
    rw [← Order.fields_built]
    exact ⟨Order.exists_render_iff, fun _ => Order.render_eq_error_iff⟩
  · intro order other alike
    have rendered : order.render columns = other.render columns := by
      rw [Order.render_eq, Order.render_eq, Order.mapM_keyText_of_alike alike]
    exact ⟨rendered, Order.substitute_of_render rendered⟩

namespace Car

/-- Cars may be sorted by their power under two names. -/
def powerColumns : List (String × String) :=
  [("power", "\"power\""), ("engine.power", "\"power\"")]

def byPower : Order :=
  .built [.descending "owner", .ascending "power", .withNulls .last]

def byEnginePower : Order :=
  .built [.andThen "engine.power" .ascending, .withNulls .last]

def sortedText : String :=
  "SELECT \"id\" FROM \"car\" " ++ orderMarker

end Car

/-- Either name puts the same clause in the place of the marker. The owner is no column, but the
order no longer sorts by it. -/
theorem render_hides_fields_power :
    List.Forall₂ (SortKey.Alike Car.powerColumns) Car.byPower.keys Car.byEnginePower.keys ∧
      Car.byPower.substitute Car.sortedText Car.powerColumns =
        Car.byEnginePower.substitute Car.sortedText Car.powerColumns := by
  have power : FirstEntry Car.powerColumns "power" "\"power\"" := ⟨[], _, rfl, nofun⟩
  have enginePower : FirstEntry Car.powerColumns "engine.power" "\"power\"" :=
    ⟨[_], [], rfl, by decide⟩
  have alike : List.Forall₂ (SortKey.Alike Car.powerColumns) Car.byPower.keys
      Car.byEnginePower.keys :=
    .cons ⟨⟨_, power, enginePower⟩, rfl, rfl⟩ .nil
  exact ⟨alike, ((render_hides_fields Car.powerColumns).2 _ _ alike).2 Car.sortedText⟩

end RowPlan
