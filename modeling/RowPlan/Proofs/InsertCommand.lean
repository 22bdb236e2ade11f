import RowPlan.Proofs.Layout
import RowPlan.Statement.Insert

/-!
# Insert commands

An `InsertCommand` is what an INSERT says to the database, with columns by name
and values by the order of their bind slots. Its text is written here from the
SQL grammar alone; what it does to a row or a table is said of the command.
-/

namespace RowPlan

/-- What a column of the proposed row takes from its bind slot. -/
inductive BoundTerm where
  | asBound
  | plusOne
  deriving DecidableEq, Repr

/-- A value computed where a row with the same key is stored. -/
inductive RowTerm where
  /-- A column of the stored row. -/
  | stored (column : String)
  /-- A column of the proposed row. -/
  | proposed (column : String)
  /-- One less than a column of the proposed row. -/
  | proposedLessOne (column : String)
  deriving DecidableEq, Repr

/-- An update of the stored row, which takes place only where both sides of the
guard are equal. -/
structure ConflictUpdate where
  assignments : List (String × RowTerm)
  guard : Option (RowTerm × RowTerm)

/-- What is done where a row has the same values in the target columns; without an
update the stored row is kept. -/
structure ConflictRule where
  target : List String
  update : Option ConflictUpdate

/-- A row to insert: the slots are bound to the values from left to right. -/
structure InsertCommand where
  columns : List String
  values : List BoundTerm
  conflict : Option ConflictRule

/-! ## Text -/

namespace BoundTerm

/-- What is written after the marker. -/
def addition : BoundTerm → String
  | asBound => ""
  | plusOne => " + 1"

/-- Terms with the markers of the slots from `number` on. -/
def texts (style : MarkerStyle) (number : Nat) : List BoundTerm → List String
  | [] => []
  | term :: rest =>
      (style.marker number ++ term.addition) :: texts style (number + 1) rest

end BoundTerm

namespace RowTerm

def text (options : Options) (tableRef : String) : RowTerm → String
  | stored column => tableRef ++ "." ++ options.quote column
  | proposed column => "EXCLUDED." ++ options.quote column
  | proposedLessOne column => "EXCLUDED." ++ options.quote column ++ " - 1"

end RowTerm

namespace ConflictUpdate

def assignmentText (options : Options) (tableRef : String) : String × RowTerm → String
  | (column, term) => options.quote column ++ " = " ++ term.text options tableRef

def guardText (options : Options) (tableRef : String) : Option (RowTerm × RowTerm) → String
  | some (left, right) =>
      " WHERE " ++ left.text options tableRef ++ " = " ++ right.text options tableRef
  | none => ""

def text (options : Options) (tableRef : String) (update : ConflictUpdate) : String :=
  " DO UPDATE SET "
    ++ ", ".intercalate (update.assignments.map (assignmentText options tableRef))
    ++ guardText options tableRef update.guard

end ConflictUpdate

namespace ConflictRule

def updateText (options : Options) (tableRef : String) : Option ConflictUpdate → String
  | some update => update.text options tableRef
  | none => " DO NOTHING"

def text (options : Options) (tableRef : String) (rule : ConflictRule) : String :=
  " ON CONFLICT (" ++ ", ".intercalate (rule.target.map options.quote) ++ ")"
    ++ updateText options tableRef rule.update

end ConflictRule

namespace InsertCommand

def conflictText (options : Options) (tableRef : String) : Option ConflictRule → String
  | some rule => rule.text options tableRef
  | none => ""

def text (options : Options) (tableRef : String) (command : InsertCommand) : String :=
  "INSERT INTO " ++ tableRef ++ " ("
    ++ ", ".intercalate (command.columns.map options.quote) ++ ") VALUES ("
    ++ ", ".intercalate (BoundTerm.texts options.markers 1 command.values) ++ ")"
    ++ conflictText options tableRef command.conflict

end InsertCommand

/-! ## The proposed row -/

section
variable {V : Type}

def BoundTerm.value (plusOne : V → V) : BoundTerm → V → V
  | .asBound, bound => bound
  | .plusOne, bound => plusOne bound

/-- The row that a command proposes for bound values, where `plusOne` is the
addition of the database. -/
def InsertCommand.row (plusOne : V → V) (command : InsertCommand) (binds : List V) :
    List (String × V) :=
  command.columns.zip (List.zipWith (BoundTerm.value plusOne) command.values binds)

end

theorem lookup_of_mem {A : Type} {entries : List (String × A)}
    (names : (entries.map Prod.fst).Nodup) {name : String} {value : A}
    (member : (name, value) ∈ entries) :
    entries.lookup name = some value := by
  induction entries with
  | nil => cases member
  | cons entry rest induction =>
      obtain ⟨first, stored⟩ := entry
      simp only [List.map_cons, List.nodup_cons] at names
      rcases List.mem_cons.mp member with same | later
      · cases same
        simp
      · have different : name ≠ first := by
          intro same
          exact names.1 (same ▸ List.mem_map_of_mem later)
        simp only [List.lookup_cons, beq_eq_false_iff_ne.mpr different]
        exact induction names.2 later

end RowPlan
