import Mathlib.Data.List.Forall2
import RowPlan.Proofs.Drafts
import RowPlan.Proofs.InsertCommand

/-!
# The command of a save

A compiled save is an insert command: every column is named once, and the k-th
value takes the k-th bind slot. The text of the compiled method is the text of
this command.
-/

namespace RowPlan

/-- A version column is stored one higher than it is bound. -/
def Column.boundTerm (column : Column) : BoundTerm :=
  if column.isVersion then .plusOne else .asBound

namespace Table

/-- The update on conflict: all columns but the key are taken from the proposed row,
if the stored version is the one before the proposed version. -/
def conflictUpdate (table : Table) : Option ConflictUpdate :=
  let others := table.columns.filter fun column => !column.isId
  if others.isEmpty then none
  else some {
    assignments := others.map fun column => (column.name, .proposed column.name)
    guard := table.version?.map fun version =>
      (.stored version.name, .proposedLessOne version.name) }

/-- The command that saves an entity, with or without an update on conflict. -/
def saveCommand (table : Table) (updates : Bool) : InsertCommand where
  columns := table.columns.map Column.name
  values := table.columns.map Column.boundTerm
  conflict :=
    if updates then
      some { target := table.ids.map Column.name, update := table.conflictUpdate }
    else none

end Table

theorem Insert.written_storedValue (style : MarkerStyle) (binding : Binding)
    (column : Column) (slot : BindSlot) :
    SqlText.written style binding (storedValue (column, slot)) =
      style.marker (binding.slots.length + 1) ++ column.boundTerm.addition := by
  cases version : column.isVersion with
  | true =>
      simp [storedValue, version, Column.boundTerm, BoundTerm.addition,
        SqlText.written, SqlText.layoutAfter, Binding.bind_none]
  | false =>
      simp [storedValue, version, Column.boundTerm, BoundTerm.addition,
        SqlText.written, SqlText.layoutAfter, Binding.bind_none]

theorem Insert.bindAll_storedValue (style : MarkerStyle) (binding : Binding)
    (column : Column) (slot : BindSlot) :
    SqlText.bindAll style binding (storedValue (column, slot)) =
      { binding with slots := binding.slots ++ [slot] } := by
  cases version : column.isVersion with
  | true => simp [storedValue, version, SqlText.bindAll, Binding.bind_none]
  | false => simp [storedValue, version, SqlText.bindAll, Binding.bind_none]

theorem BoundTerm.texts_eq (style : MarkerStyle) (number : Nat) (terms : List BoundTerm) :
    texts style number terms =
      (terms.zipIdx number).map fun (term, number) =>
        style.marker number ++ term.addition := by
  induction terms generalizing number with
  | nil => rfl
  | cons term rest induction => rw [texts, induction, List.zipIdx_cons, List.map_cons]

/-- The values of an insert bind their slots from left to right. -/
theorem Insert.join_storedValues (style : MarkerStyle) (binding : Binding)
    (values : List (Column × BindSlot)) :
    SqlText.written style binding (SqlText.join ", " (values.map storedValue)) =
        ", ".intercalate (BoundTerm.texts style (binding.slots.length + 1)
          (values.map fun value => value.1.boundTerm)) ∧
      SqlText.bindAll style binding (SqlText.join ", " (values.map storedValue)) =
        { binding with slots := binding.slots ++ values.map Prod.snd } := by
  rw [BoundTerm.texts_eq, List.zipIdx_map, List.map_map]
  apply SqlText.join_parts storedValue
    (fun value number => style.marker number ++ value.1.boundTerm.addition) Prod.snd
  intro value binding
  exact ⟨written_storedValue style binding value.1 value.2,
    bindAll_storedValue style binding value.1 value.2⟩

private theorem assigned_excluded : " = EXCLUDED." = " = " ++ "EXCLUDED." :=
  rfl

theorem Conflict.versionGuard_eq (options : Options) (tableRef : String)
    (version : Option Column) :
    versionGuard options tableRef version =
      ConflictUpdate.guardText options tableRef
        (version.map fun column => (.stored column.name, .proposedLessOne column.name)) := by
  cases version with
  | none => rfl
  | some column =>
      simp only [versionGuard, ConflictUpdate.guardText, Option.map_some, RowTerm.text,
        assigned_excluded, String.append_assoc]

/-- The clause of the model and the rule of the command are one text. -/
theorem Table.conflict_text (options : Options) (tableRef : String) (table : Table) :
    table.conflict.text options tableRef =
      ConflictRule.text options tableRef
        { target := table.ids.map Column.name, update := table.conflictUpdate } := by
  have assignments : Conflict.updateColumn options =
      fun column => ConflictUpdate.assignmentText options tableRef
        (column.name, .proposed column.name) := by
    funext column
    simp only [Conflict.updateColumn, ConflictUpdate.assignmentText, RowTerm.text,
      assigned_excluded, String.append_assoc]
  unfold Conflict.text ConflictRule.text Table.conflict Table.conflictUpdate
  cases table.columns.filter fun column => !column.isId with
  | nil =>
      simp only [List.isEmpty_nil, if_true, ConflictRule.updateText, List.map_map,
        Function.comp_def]
  | cons first rest =>
      unfold ConflictRule.updateText ConflictUpdate.text
      simp only [List.isEmpty_cons, Bool.false_eq_true, if_false, assignments,
        Conflict.versionGuard_eq, List.map_map, Function.comp_def, String.append_assoc]

theorem columnSlots_terms (execution : Execution) (parameter : ParameterDecl)
    (columns : List Column) :
    ((columnSlots execution parameter columns).map fun value => value.1.boundTerm) =
        columns.map Column.boundTerm ∧
      (columnSlots execution parameter columns).map Prod.snd =
        columns.map (columnSlot execution parameter) := by
  simp [columnSlots, Function.comp_def]

namespace Scope

variable {scope : Scope} {function : FunctionDecl}

/-- Whether a save updates the stored row with the same key. -/
def saveUpdates (scope : Scope) (function : FunctionDecl) : Bool :=
  scope.table.hasIds && !function.has TagName.onConflictFail

private theorem names_columnSlots (options : Options) (execution : Execution)
    (parameter : ParameterDecl) (columns : List Column) :
    (columnSlots execution parameter columns).map
        (fun value => options.quote value.1.name) =
      (columns.map Column.name).map options.quote := by
  simp [columnSlots, Function.comp_def]

theorem insertion_written (scope : Scope) (function : FunctionDecl)
    (parameter : ParameterDecl) (execution : Execution) :
    SqlText.written scope.options.markers {}
        ((scope.insertion function parameter execution).text scope.options
          (scope.table.ref scope.options)) =
      (scope.table.saveCommand (scope.saveUpdates function)).text scope.options
        (scope.table.ref scope.options) := by
  obtain ⟨terms, _⟩ := columnSlots_terms execution parameter scope.table.columns
  obtain ⟨values, _⟩ := Insert.join_storedValues scope.options.markers {}
    (columnSlots execution parameter scope.table.columns)
  rw [terms, List.length_nil, Nat.zero_add] at values
  simp only [Insert.text, insertion, names_columnSlots, List.cons_append,
    SqlText.written_append, SqlText.written_text, values]
  unfold InsertCommand.text Table.saveCommand saveUpdates
  cases scope.table.hasIds && !function.has TagName.onConflictFail with
  | true =>
      simp only [if_true, SqlText.written_single, InsertCommand.conflictText,
        Table.conflict_text, String.append_assoc]
  | false =>
      simp only [Bool.false_eq_true, if_false, SqlText.written_nil,
        InsertCommand.conflictText, String.append_assoc]

theorem insertion_slots (scope : Scope) (function : FunctionDecl)
    (parameter : ParameterDecl) (execution : Execution) :
    (SqlText.bindAll scope.options.markers {}
        ((scope.insertion function parameter execution).text scope.options
          (scope.table.ref scope.options))).slots =
      scope.table.columns.map (columnSlot execution parameter) := by
  obtain ⟨_, slots⟩ := columnSlots_terms execution parameter scope.table.columns
  obtain ⟨_, bound⟩ := Insert.join_storedValues scope.options.markers {}
    (columnSlots execution parameter scope.table.columns)
  rw [slots, List.nil_append] at bound
  simp only [Insert.text, insertion, List.cons_append, SqlText.bindAll_append,
    SqlText.bindAll, bound]
  cases scope.table.hasIds && !function.has TagName.onConflictFail with
  | true => rfl
  | false => rfl

theorem draft_of_save {parameter : ParameterDecl} {execution : Execution}
    (kind : scope.archetype function = .save) (parameters : function.parameters = [parameter])
    (found : scope.execution? parameter.type = some execution) :
    scope.draft function = .ok { MethodFacts.declared function .save with
      execution := execution
      optimisticLock := scope.saveUpdates function && scope.table.version?.isSome
      statement := .insert (scope.insertion function parameter execution) } := by
  simp only [draft, kind, save, parameters, found]
  rfl

/-- A compiled save executes the command of its table, once or for each element of a
list, and binds one slot for each column. -/
theorem compiled_save {method : Method} (compiled : scope.compile function = .ok method)
    (kind : method.archetype = .save) :
    ∃ parameter, function.parameters = [parameter] ∧
      scope.execution? parameter.type = some method.execution ∧
      method.sql = (scope.table.saveCommand (scope.saveUpdates function)).text
        scope.options (scope.table.ref scope.options) ∧
      method.slots = scope.table.columns.map (columnSlot method.execution parameter) ∧
      method.optimisticLock =
        (scope.saveUpdates function && scope.table.version?.isSome) := by
  obtain ⟨draft, success, rfl⟩ := compile_eq_ok_iff.mp compiled
  cases drafted_of_draft success with
  | @save parameter execution _ parameters found =>
      exact ⟨parameter, parameters, found,
        scope.insertion_written function parameter execution,
        (Draft.finish_slots _ _ _).trans
          (scope.insertion_slots function parameter execution), rfl⟩
  | deleteEntity => cases kind
  | deleteRows _ deletes =>
      rcases deletes with rfl | rfl
      · cases kind
      · cases kind
  | find => cases kind
  | value _ asks =>
      rcases asks with ⟨rfl, _⟩ | ⟨rfl, _⟩
      · cases kind
      · cases kind
  | custom => cases kind

end Scope

/-! ### A car -/

namespace Car

def columnTag (name : String) : Tag :=
  ⟨TagName.column, [("name", name)]⟩

/-- An engine, stored in the columns of its car. -/
def engine : ClassDecl where
  name := .bare "Engine"
  fields := [⟨"power", .named "i32", [columnTag "power"]⟩]

/-- A car with a key, a value object and a version. -/
def entity : ClassDecl where
  name := .bare "Car"
  tags := [⟨TagName.table, [("name", "car")]⟩]
  fields := [
    ⟨"id", .named "i64", [⟨TagName.id, []⟩, columnTag "id"]⟩,
    ⟨"engine", { target := engine }, []⟩,
    ⟨"revision", .named "i64", [⟨TagName.version, []⟩, columnTag "revision"]⟩]

/-- Reads a number into the field that its column is named after. -/
def readNumber (name type : String) : ReadPlan :=
  .read {
    column := some name
    field := some name
    type := .named type
    accessor := type
    isJson := false
    isEnum := false
    isPrimitive := true }

def table : Table where
  entity := .bare "Car"
  name := "car"
  schema := none
  columns := [
    ⟨["id"], .named "i64", "id", .bigInt, true, false⟩,
    ⟨["engine", "power"], .named "i32", "power", .integer, false, false⟩,
    ⟨["revision"], .named "i64", "revision", .bigInt, false, true⟩]
  plan := some (.build none (.bare "Car") [
    readNumber "id" "i64",
    .build (some "engine") (.bare "Engine") [readNumber "power" "i32"],
    readNumber "revision" "i64"])

def scope : Scope where
  options := {}
  catalog := .builtin
  table := table
  entity := entity

def save : FunctionDecl where
  name := "save"
  parameters := [⟨"item", { target := entity }, []⟩]
  returnType := .unit

theorem table_built : Table.build {} .builtin entity none = .ok table :=
  rfl

end Car

/-- The car is inserted or updated, on the revision that was read. -/
theorem Car.saveCommand_text : (table.saveCommand true).text {} (table.ref {}) =
    "INSERT INTO \"car\" (\"id\", \"power\", \"revision\") VALUES (?, ?, ? + 1)" ++
      " ON CONFLICT (\"id\") DO UPDATE SET \"power\" = EXCLUDED.\"power\"," ++
      " \"revision\" = EXCLUDED.\"revision\"" ++
      " WHERE \"car\".\"revision\" = EXCLUDED.\"revision\" - 1" := by
  have ref : table.ref {} = "\"car\"" := rfl
  rw [ref]
  rfl

/-! ## The saved row -/

/-- The fields below a parameter that a slot takes its value from. -/
def BindSlot.below? (parameter : String) (slot : BindSlot) : Option (List String) :=
  match slot.path with
  | first :: below => if first = parameter then some below else none
  | [] => none

section

variable {V : Type}

/-- A row holds bound values in their columns, version columns one higher. -/
def HoldsSaved (plusOne : V → V) (row : List (String × V)) (columns : List Column)
    (binds : List V) : Prop :=
  List.Forall₂
    (fun column bound =>
      row.lookup column.name = some (column.boundTerm.value plusOne bound))
    columns binds

theorem HoldsSaved.of_row {plusOne : V → V} {row : List (String × V)}
    {columns : List Column} {binds : List V} (names : (row.map Prod.fst).Nodup)
    (lengths : binds.length = columns.length)
    (included : ∀ entry,
      entry ∈ (columns.map Column.name).zip
        (List.zipWith (BoundTerm.value plusOne) (columns.map Column.boundTerm) binds) →
      entry ∈ row) :
    HoldsSaved plusOne row columns binds := by
  induction columns generalizing binds with
  | nil =>
      obtain rfl := List.eq_nil_of_length_eq_zero lengths
      exact .nil
  | cons column rest induction =>
      cases binds with
      | nil => cases lengths
      | cons bound more =>
          exact .cons (lookup_of_mem names (included _ List.mem_cons_self))
            (induction (Nat.succ.inj lengths)
              fun entry member => included entry (List.mem_cons_of_mem _ member))

/-- The row of a save holds what has been bound for its columns. -/
theorem Table.saveCommand_row_holds (table : Table) (updates : Bool) (plusOne : V → V)
    {binds : List V} (names : (table.columns.map Column.name).Nodup)
    (lengths : binds.length = table.columns.length) :
    HoldsSaved plusOne ((table.saveCommand updates).row plusOne binds)
      table.columns binds := by
  have rowNames : (((table.saveCommand updates).row plusOne binds).map Prod.fst).Nodup := by
    have widths : (table.columns.map Column.name).length ≤
        (List.zipWith (BoundTerm.value plusOne)
          (table.columns.map Column.boundTerm) binds).length := by
      simp [lengths]
    rw [InsertCommand.row, Table.saveCommand, List.map_fst_zip widths]
    exact names
  exact .of_row rowNames lengths fun _ member => member

end

end RowPlan
