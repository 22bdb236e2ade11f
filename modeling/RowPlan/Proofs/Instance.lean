import RowPlan.Proofs.EntityPlan
import RowPlan.Proofs.InsertCommand

/-!
# Instances

An instance is a tree of values in the shape of its class. A save takes the
values at the paths of the columns, and a plan evaluated on a row puts a tree
together again. Both walk the same fields, so a row of saved values gives back
the instance that was saved.
-/

namespace RowPlan

/-- A value of a class: stored values at the leaves, in whatever form they are
stored, under the names of the fields. -/
inductive Instance (V : Type) where
  | leaf (value : V)
  | object (target : QualifiedName) (fields : List (String × Instance V))

namespace Instance

variable {V : Type}

/-- The stored value at a path of field names. -/
def at? : List String → Instance V → Option V
  | [], leaf value => some value
  | name :: below, object _ fields => (fields.lookup name).bind (at? below)
  | _, _ => none

mutual

/-- An instance as a save leaves it: the version fields are one higher. -/
def saved (plusOne : V → V) (isVersion : Bool) (fields : List FieldDecl) :
    Instance V → Instance V
  | leaf value => leaf (if isVersion then plusOne value else value)
  | object target values => object target (savedFields plusOne fields values)
termination_by structural value => value

def savedFields (plusOne : V → V) (fields : List FieldDecl) :
    List (String × Instance V) → List (String × Instance V)
  | [] => []
  | value :: values =>
      match fields with
      | [] => value :: values
      | field :: rest => savedField plusOne field value :: savedFields plusOne rest values
termination_by structural values => values

def savedField (plusOne : V → V) (field : FieldDecl) :
    String × Instance V → String × Instance V
  | (name, value) =>
      (name, saved plusOne (field.has TagName.version) field.type.target.fields value)
termination_by structural value => value

end

end Instance

/-- Values for some fields: one stored value for a leaf, an object for a value object. -/
inductive FieldValues {V : Type} (catalog : Catalog) :
    List FieldDecl → List (String × Instance V) → Prop where
  | nil : FieldValues catalog [] []
  | leaf {field : FieldDecl} {rest : List FieldDecl} {columnType : ColumnType}
      {stored : V} {values : List (String × Instance V)} :
      catalog.fieldColumnType field = some columnType →
      FieldValues catalog rest values →
      FieldValues catalog (field :: rest) ((field.name, .leaf stored) :: values)
  | composite {field : FieldDecl} {rest : List FieldDecl}
      {nested values : List (String × Instance V)} :
      catalog.fieldColumnType field = none →
      FieldValues catalog field.type.target.fields nested →
      FieldValues catalog rest values →
      FieldValues catalog (field :: rest)
        ((field.name, .object field.type.target.name nested) :: values)

/-- An instance of a class. -/
inductive Instance.Fits {V : Type} (catalog : Catalog) (cls : ClassDecl) :
    Instance V → Prop where
  | object {values : List (String × Instance V)} :
      FieldValues catalog cls.fields values →
      Fits catalog cls (.object cls.name values)

/-! ## Evaluation of plans -/

namespace ReadPlan

variable {V : Type}

/-- The field that a plan is for. -/
def field? : ReadPlan → Option String
  | build field _ _ => field
  | read extractor => extractor.field

mutual

/-- The instance that a plan reads from a row; none where a column is missing. -/
def evaluate (row : List (String × V)) : ReadPlan → Option (Instance V)
  | read extractor => do
      let column ← extractor.column
      let value ← row.lookup column
      return .leaf value
  | build _ target parts => do
      return .object target (← evaluateParts row parts)

/-- The parts of an instance under the names of their fields. -/
def evaluateParts (row : List (String × V)) :
    List ReadPlan → Option (List (String × Instance V))
  | [] => some []
  | part :: rest => do
      let name ← part.field?
      let value ← part.evaluate row
      return (name, value) :: (← evaluateParts row rest)

end

end ReadPlan

/-! ## Values at paths -/

section

variable {V : Type} {catalog : Catalog}

theorem FieldValues.names {fields : List FieldDecl} {values : List (String × Instance V)}
    (fieldValues : FieldValues catalog fields values) :
    values.map Prod.fst = fields.map FieldDecl.name := by
  induction fieldValues with
  | nil => rfl
  | leaf _ _ induction => simp [induction]
  | composite _ _ _ _ induction => simp [induction]

theorem Instance.at?_object {target : QualifiedName} {values : List (String × Instance V)}
    (names : (values.map Prod.fst).Nodup) {name : String} {value : Instance V}
    (member : (name, value) ∈ values) (below : List String) :
    (object target values).at? (name :: below) = value.at? below := by
  simp [at?, lookup_of_mem names member]

end

end RowPlan
