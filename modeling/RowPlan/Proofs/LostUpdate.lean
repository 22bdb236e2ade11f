import RowPlan.Proofs.OptimisticLock

/-!
# No lost updates

Clients read rows and save objects, in any order and any number. Stored versions
only grow, so once a save from a version has taken place, no other save from that
version can. The step lemmas are about one save, and the run lemma `history_forall`
carries them along the events.
-/

namespace RowPlan

/-- What a client does: it reads all rows, or saves an object that it makes from the
rows that it has read. -/
inductive Event (A : Type) where
  | read (client : Nat)
  | save (client : Nat) (edit : List (Row A) → Fields A)

/-- A save with the rows before and after it; `affected` is none where it is refused. -/
structure Attempt (A : Type) where
  client : Nat
  object : Fields A
  before : List (Row A)
  after : List (Row A)
  affected : Option Nat

namespace Attempt

variable {A : Type}

/-- An attempt with what came of it. -/
def of (client : Nat) (object : Fields A) (before : List (Row A)) :
    Option (Outcome A) → Attempt A
  | some outcome => ⟨client, object, before, outcome.rows, some outcome.affected⟩
  | none => ⟨client, object, before, before, none⟩

@[simp] theorem of_object (client : Nat) (object : Fields A) (before : List (Row A))
    (outcome : Option (Outcome A)) : (of client object before outcome).object = object := by
  cases outcome with
  | none => rfl
  | some outcome => rfl

@[simp] theorem of_before (client : Nat) (object : Fields A) (before : List (Row A))
    (outcome : Option (Outcome A)) : (of client object before outcome).before = before := by
  cases outcome with
  | none => rfl
  | some outcome => rfl

end Attempt

section

variable {A : Type}

/-- All objects that an event may save. -/
def Event.Saves (admitted : Fields A → Prop) : Event A → Prop
  | .read _ => True
  | .save _ edit => ∀ rows, admitted (edit rows)

/-- The saves of a run, where each client edits what it has read last. -/
def history (save : List (Row A) → Fields A → Option (Outcome A)) :
    List (Row A) → (Nat → List (Row A)) → List (Event A) → List (Attempt A)
  | _, _, [] => []
  | rows, views, .read client :: rest =>
      history save rows (fun other => if other = client then rows else views other) rest
  | rows, views, .save client edit :: rest =>
      let attempt := Attempt.of client (edit (views client)) rows
        (save rows (edit (views client)))
      attempt :: history save attempt.after views rest

/-- What one save shows and keeps, all saves of a run show. -/
theorem history_forall {save : List (Row A) → Fields A → Option (Outcome A)}
    {admitted : Fields A → Prop} {shown : Attempt A → Prop}
    (invariant : List (Row A) → Prop)
    (step : ∀ client object rows, admitted object → invariant rows →
      let attempt := Attempt.of client object rows (save rows object)
      shown attempt ∧ invariant attempt.after)
    {rows : List (Row A)} {views : Nat → List (Row A)} {events : List (Event A)}
    (start : invariant rows) (saves : ∀ event, event ∈ events → event.Saves admitted) :
    ∀ attempt, attempt ∈ history save rows views events → shown attempt := by
  induction events generalizing rows views with
  | nil => simp [history]
  | cons event rest induction =>
      obtain ⟨first, later⟩ := List.forall_mem_cons.mp saves
      cases event with
      | read client => exact induction start later
      | save client edit =>
          obtain ⟨here, kept⟩ := step client (edit (views client)) rows (first _) start
          exact List.forall_mem_cons.mpr ⟨here, induction kept later⟩

end

/-! ## Versions that have passed -/

section

variable {A : Type} {table : Table} {version : Column} {object : Fields A}
  {rows : List (Row A)} {outcome : Option (Outcome A)} {client : Nat}

/-- The row of a key is stored with a later version than the given one. -/
def Table.Beyond (table : Table) (version : Column) (key : List (Cell A)) (number : Int)
    (rows : List (Row A)) : Prop :=
  ∃ stored, stored ∈ rows ∧ stored.keyOf table.keyNames = key ∧
    ∃ later, stored version.name = .integer later ∧ number < later

theorem Table.Locks.apply_version (locks : table.Locks version) (stored : Row A)
    {number : Int} (counted : object version.path = .integer number) :
    (table.lockingUpdate version).apply stored (table.savedRow object) version.name =
      .integer (number + 1) := by
  rw [locks.apply_other _ _ locks.version_mem.1 locks.notId, locks.savedRow_version,
    counted]
  rfl

namespace Table.SaveStep

/-- A version that has passed stays passed. -/
theorem beyond (step : table.SaveStep version object rows outcome)
    (locks : table.Locks version) {saved : Int}
    (counted : object version.path = .integer saved) {key : List (Cell A)} {number : Int}
    (passed : table.Beyond version key number rows) :
    table.Beyond version key number (Attempt.of client object rows outcome).after := by
  cases step with
  | refused => exact passed
  | stale => exact passed
  | inserted =>
      obtain ⟨row, member, rest⟩ := passed
      exact ⟨row, List.mem_append_left _ member, rest⟩
  | @updated left right stored same sameVersion =>
      obtain ⟨row, member, rowKey, later, rowVersion, less⟩ := passed
      have others : row ∈ left ∨ row = stored ∨ row ∈ right := by
        simpa using member
      rcases others with inLeft | rfl | inRight
      · exact ⟨row, List.mem_append_left _ inLeft, rowKey, later, rowVersion, less⟩
      · have equal : later = saved :=
          Cell.integer.inj (rowVersion.symm.trans (sameVersion.trans counted))
        refine ⟨_, List.mem_append_right _ List.mem_cons_self,
          (locks.apply_keyOf row _).trans rowKey, saved + 1,
          locks.apply_version row counted, ?_⟩
        omega
      · exact ⟨row, List.mem_append_right _ (List.mem_cons_of_mem _ inRight), rowKey, later,
          rowVersion, less⟩

/-- A save that takes place leaves the version behind that it names. -/
theorem beyond_of_affected (step : table.SaveStep version object rows outcome)
    (locks : table.Locks version) {number : Int}
    (counted : object version.path = .integer number)
    (affected : (Attempt.of client object rows outcome).affected = some 1) :
    table.Beyond version (table.ids.map fun id => object id.path) number
      (Attempt.of client object rows outcome).after := by
  cases step with
  | refused => cases affected
  | stale => cases affected
  | inserted =>
      refine ⟨table.savedRow object, List.mem_append_right _ List.mem_cons_self,
        locks.savedRow_keyOf object, number + 1, ?_, by omega⟩
      rw [locks.savedRow_version, counted]
      rfl
  | updated same _ =>
      exact ⟨_, List.mem_append_right _ List.mem_cons_self,
        (locks.apply_keyOf _ _).trans same, number + 1, locks.apply_version _ counted,
        by omega⟩

/-- A save from a version that has passed changes nothing. -/
theorem affected_of_beyond (step : table.SaveStep version object rows outcome)
    (wellKeyed : WellKeyed table.keyNames rows) {number : Int}
    (counted : object version.path = .integer number)
    (passed : table.Beyond version (table.ids.map fun id => object id.path) number rows) :
    (Attempt.of client object rows outcome).affected = some 0 := by
  obtain ⟨row, member, rowKey, later, rowVersion, less⟩ := passed
  cases step with
  | refused absent => exact (absent row member rowKey).elim
  | inserted absent => exact (absent row member rowKey).elim
  | stale => rfl
  | @updated left right stored same sameVersion =>
      have others : row ∈ left ∨ row = stored ∨ row ∈ right := by
        simpa using member
      have rowIsStored : row = stored := by
        rcases others with inLeft | here | inRight
        · exact (wellKeyed.apart row (.inl inLeft) (rowKey.trans same.symm)).elim
        · exact here
        · exact (wellKeyed.apart row (.inr inRight) (rowKey.trans same.symm)).elim
      have equal : later = number := by
        rw [rowIsStored] at rowVersion
        exact Cell.integer.inj (rowVersion.symm.trans (sameVersion.trans counted))
      omega

end Table.SaveStep

end

/-! ## Compiled saves -/

namespace Method

variable {A : Type}

/-- The values that a method binds for an object passed as a parameter. -/
def binds (method : Method) (parameter : String) (object : Fields A) :
    Option (List (Cell A)) :=
  method.slots.mapM fun slot => (slot.below? parameter).map object

/-- What a method that has affected some rows reports. -/
def report (method : Method) (affected : Nat) : Except Failure Unit :=
  if method.optimisticLock then verifyAffected 1 affected else .ok ()

/-- Executes the command of a method for an object. -/
def saveInto [DecidableEq A] (method : Method) (parameter : String)
    (command : InsertCommand) (key : List String) (rows : List (Row A))
    (object : Fields A) : Option (Outcome A) := do
  command.execute key (← method.binds parameter object) rows

end Method

/-- Executes a save that updates, with the values of an object. -/
def Table.saveInto {A : Type} [DecidableEq A] (table : Table) (rows : List (Row A))
    (object : Fields A) : Option (Outcome A) :=
  (table.saveCommand true).execute table.keyNames (table.boundValues object) rows

/-- A save that was executed and reported no error. -/
def Attempt.Succeeds {A : Type} (method : Method) (attempt : Attempt A) : Prop :=
  attempt.affected.map method.report = some (.ok ())

theorem Attempt.Succeeds.affected_eq {A : Type} {method : Method} {attempt : Attempt A}
    (succeeds : attempt.Succeeds method) (checked : method.optimisticLock = true) :
    attempt.affected = some 1 := by
  obtain ⟨affected, found, reported⟩ := Option.map_eq_some_iff.mp succeeds
  by_cases one : affected = 1
  · rw [found, one]
  · simp [Method.report, checked, verifyAffected, one] at reported

/-- What a column can hold that counts: an integer, or nothing where it is nullable. -/
def Column.Counts {A : Type} (column : Column) (cell : Cell A) : Prop :=
  (∃ number, cell = .integer number) ∨ (column.nullable = true ∧ cell = .null)

/-- Over a stored row an attempt takes place on the version that it names and leaves the
next one behind; on another version it changes nothing and reports that. -/
def Attempt.Locked {A : Type} (table : Table) (version : Column) (method : Method)
    (attempt : Attempt A) : Prop :=
  ∀ (left : List (Row A)) (stored : Row A) (right : List (Row A)),
    attempt.before = left ++ stored :: right →
    (stored.keyOf table.keyNames = table.ids.map fun id => attempt.object id.path) →
    (stored version.name = attempt.object version.path →
      attempt.affected = some 1 ∧ method.report 1 = .ok () ∧
      ∃ updated : Row A, attempt.after = left ++ updated :: right ∧
        updated version.name = (stored version.name).plus 1 ∧
        ∀ column, column ∈ table.columns →
          updated column.name =
            column.boundTerm.value (Cell.plus 1) (attempt.object column.path)) ∧
    (stored version.name ≠ attempt.object version.path →
      attempt.affected = some 0 ∧ attempt.after = attempt.before ∧
      method.report 0 = .error (.optimisticLock 1 0))

theorem binds_columnSlots {A : Type} {method : Method} {parameter : ParameterDecl}
    {table : Table}
    (slots : method.slots = table.columns.map (columnSlot .single parameter))
    (object : Fields A) :
    method.binds parameter.name object = some (table.boundValues object) := by
  have each : (fun column => ((columnSlot .single parameter column).below?
      parameter.name).map object) = fun column => some (object column.path) := by
    funext column
    simp [columnSlot, BindSlot.below?]
  rw [Method.binds, slots, List.mapM_map]
  simp only [Function.comp_def, each]
  exact List.mapM_pure

/-! ## Runs of a locking save -/

namespace Table.Locks

variable {A : Type} [DecidableEq A] {table : Table} {version : Column} {method : Method}
  {object : Fields A} {rows : List (Row A)} {client : Nat}

theorem wellKeyed_after (wellKeyed : WellKeyed table.keyNames rows) :
    WellKeyed table.keyNames
      (Attempt.of client object rows (table.saveInto rows object)).after := by
  cases executed : table.saveInto rows object with
  | none => exact wellKeyed
  | some outcome => exact InsertCommand.wellKeyed_of_execute executed

theorem locked (locks : table.Locks version) (checked : method.optimisticLock = true)
    {number : Int} (counted : object version.path = .integer number)
    (wellKeyed : WellKeyed table.keyNames rows) :
    (Attempt.of client object rows (table.saveInto rows object)).Locked table version
      method := by
  intro left stored right before same
  rw [Attempt.of_before] at before
  rw [Attempt.of_object] at same ⊢
  subst before
  rw [Table.saveInto, locks.execute_stored counted wellKeyed same]
  constructor
  · intro sameVersion
    rw [if_pos sameVersion]
    refine ⟨rfl, by simp [Method.report, checked, verifyAffected], _, rfl, ?_, ?_⟩
    · rw [locks.apply_version stored counted, sameVersion, counted]
      rfl
    · intro column member
      exact (locks.apply_column same member).trans (locks.savedRow_column object member)
  · intro other
    rw [if_neg other]
    exact ⟨rfl, rfl, by simp [Method.report, checked, verifyAffected]⟩

/-- Once a version has passed, no save from it changes anything. -/
theorem stale_of_beyond (locks : table.Locks version) {views : Nat → List (Row A)}
    {events : List (Event A)} {key : List (Cell A)} {number : Int}
    (wellKeyed : WellKeyed table.keyNames rows)
    (saves : ∀ event, event ∈ events →
      event.Saves fun object => ∃ number, object version.path = .integer number)
    (passed : table.Beyond version key number rows) :
    ∀ attempt, attempt ∈ history table.saveInto rows views events →
      (table.ids.map fun id => attempt.object id.path) = key →
      attempt.object version.path = .integer number →
      attempt.affected = some 0 := by
  refine history_forall
    (fun rows => WellKeyed table.keyNames rows ∧ table.Beyond version key number rows)
    ?_ ⟨wellKeyed, passed⟩ saves
  rintro client object rows ⟨saved, counted⟩ ⟨wellKeyed, passed⟩
  have step := locks.saveStep counted wellKeyed
  refine ⟨?_, wellKeyed_after wellKeyed, step.beyond locks counted passed⟩
  intro sameKey sameVersion
  rw [Attempt.of_object] at sameKey sameVersion
  exact step.affected_of_beyond wellKeyed sameVersion (sameKey ▸ passed)

/-- Of the saves of a run from one version of one key at most one succeeds. -/
theorem history_pairwise (locks : table.Locks version)
    (checked : method.optimisticLock = true)
    {views : Nat → List (Row A)} {events : List (Event A)}
    (wellKeyed : WellKeyed table.keyNames rows)
    (saves : ∀ event, event ∈ events →
      event.Saves fun object => ∃ number, object version.path = .integer number) :
    (history table.saveInto rows views events).Pairwise fun first second =>
      first.Succeeds method → second.Succeeds method →
      (table.ids.map fun id => first.object id.path) =
        (table.ids.map fun id => second.object id.path) →
      first.object version.path ≠ second.object version.path := by
  induction events generalizing rows views with
  | nil => exact .nil
  | cons event rest induction =>
      obtain ⟨first, later⟩ := List.forall_mem_cons.mp saves
      cases event with
      | read client => exact induction wellKeyed later
      | save client edit =>
          obtain ⟨number, counted⟩ := first (views client)
          refine .cons ?_ (induction (wellKeyed_after wellKeyed) later)
          intro second member firstSucceeds secondSucceeds sameKey sameVersion
          have passed := (locks.saveStep counted wellKeyed).beyond_of_affected locks
            counted (firstSucceeds.affected_eq checked)
          have stale := locks.stale_of_beyond (wellKeyed_after wellKeyed) later passed
            second member
          rw [Attempt.of_object] at sameKey sameVersion
          have none := stale sameKey.symm (sameVersion.symm.trans counted)
          rw [secondSucceeds.affected_eq checked] at none
          cases none

end Table.Locks

/-- However clients interleave their reads and saves: over a stored row a save takes place
exactly on the version that it names and leaves the next version behind, or it changes
nothing and reports that; and of all saves of one key and version at most one succeeds. -/
theorem save_no_lost_update {scope : Scope} {overrides : Option ClassDecl}
    {function : FunctionDecl} {method : Method} {version : Column}
    (built : Table.build scope.options scope.catalog scope.entity overrides = .ok scope.table)
    (keyed : scope.table.hasIds = true)
    (versions : scope.table.columns.filter Column.isVersion = [version])
    (present : version.nullable = false)
    (notId : version.isId = false)
    (compiled : scope.compile function = .ok method)
    (saves : method.archetype = .save)
    (single : method.execution = .single)
    (updates : function.has TagName.onConflictFail = false) :
    ∃ parameter, function.parameters = [parameter] ∧
      method.sql = (scope.table.saveCommand true).text scope.options
        (scope.table.ref scope.options) ∧
      ∀ {A : Type} [DecidableEq A] (rows : List (Row A)) (views : Nat → List (Row A))
        (events : List (Event A)),
        WellKeyed scope.table.keyNames rows →
        (∀ event, event ∈ events →
          event.Saves fun object => version.Counts (object version.path)) →
        let attempts := history
          (method.saveInto parameter.name (scope.table.saveCommand true) scope.table.keyNames)
          rows views events
        (∀ attempt, attempt ∈ attempts → attempt.Locked scope.table version method) ∧
        attempts.Pairwise fun first second =>
          first.Succeeds method → second.Succeeds method →
          (scope.table.ids.map fun id => first.object id.path) =
            (scope.table.ids.map fun id => second.object id.path) →
          first.object version.path ≠ second.object version.path := by
  obtain ⟨parameter, parameters, _, sql, slots, checked⟩ :=
    Scope.compiled_save compiled saves
  have locks : scope.table.Locks version :=
    ⟨Table.build_names_nodup built, versions, notId⟩
  have updating : scope.saveUpdates function = true := by
    simp [Scope.saveUpdates, keyed, updates]
  have verified : method.optimisticLock = true := by
    have found : scope.table.version? = some version := locks.version?_eq
    simp [checked, updating, found]
  rw [updating] at sql
  rw [single] at slots
  refine ⟨parameter, parameters, sql, ?_⟩
  intro A _ rows views events wellKeyed counts attempts
  have executes : method.saveInto parameter.name (scope.table.saveCommand true)
      scope.table.keyNames = scope.table.saveInto (A := A) := by
    funext rows object
    simp [Method.saveInto, Table.saveInto, binds_columnSlots slots]
  have integers : ∀ event, event ∈ events →
      event.Saves fun object => ∃ number, object version.path = .integer number := by
    intro event member
    have admitted := counts event member
    cases event with
    | read client => trivial
    | save client edit =>
        intro read
        exact (admitted read).resolve_right fun absent => by simp [present] at absent
  have runs : attempts = history scope.table.saveInto rows views events :=
    congrArg (fun save => history save rows views events) executes
  rw [runs]
  refine ⟨?_, locks.history_pairwise verified wellKeyed integers⟩
  refine history_forall (WellKeyed scope.table.keyNames) ?_ wellKeyed integers
  rintro client object rows ⟨number, counted⟩ wellKeyed
  exact ⟨locks.locked verified counted wellKeyed, Table.Locks.wellKeyed_after wellKeyed⟩

/-! ### Two clients -/

namespace Car

def revision : Column :=
  ⟨["revision"], .named "i64", "revision", .bigInt, false, true⟩

theorem versions_eq : table.columns.filter Column.isVersion = [revision] :=
  rfl

/-- The car as it has been read, with another power. -/
def object (power : Int) : Fields Unit
  | ["id"] => .integer 7
  | ["engine", "power"] => .integer power
  | ["revision"] => .integer 1
  | _ => .null

/-- The row of the car. -/
def row : Row Unit
  | "id" => .integer 7
  | "power" => .integer 90
  | "revision" => .integer 1
  | _ => .null

/-- Both clients read the car before either saves it. -/
def events : List (Event Unit) :=
  [.read 0, .read 1, .save 0 fun _ => object 100, .save 1 fun _ => object 80]

end Car

/-- Of the two clients that have read the same revision only one saves the car. -/
theorem save_no_lost_update_car :
    ∃ method, Car.scope.compile Car.save = .ok method ∧
      method.sql = "INSERT INTO \"car\" (\"id\", \"power\", \"revision\") VALUES (?, ?, ? + 1)" ++
        " ON CONFLICT (\"id\") DO UPDATE SET \"power\" = EXCLUDED.\"power\"," ++
        " \"revision\" = EXCLUDED.\"revision\"" ++
        " WHERE \"car\".\"revision\" = EXCLUDED.\"revision\" - 1" ∧
      let attempts := history
        (method.saveInto "item" (Car.table.saveCommand true) Car.table.keyNames)
        [Car.row] (fun _ => []) Car.events
      (∀ attempt, attempt ∈ attempts → attempt.Locked Car.table Car.revision method) ∧
        attempts.Pairwise fun first second =>
          first.Succeeds method → second.Succeeds method →
          (Car.table.ids.map fun id => first.object id.path) =
            (Car.table.ids.map fun id => second.object id.path) →
          first.object Car.revision.path ≠ second.object Car.revision.path := by
  obtain ⟨method, compiled⟩ : ∃ method, Car.scope.compile Car.save = .ok method := ⟨_, rfl⟩
  have saves : method.archetype = .save := by
    rw [Scope.compile_archetype compiled]
    rfl
  have single : method.execution = .single := by
    cases compiled
    rfl
  obtain ⟨parameter, parameters, sql, runs⟩ :=
    save_no_lost_update Car.table_built rfl Car.versions_eq rfl rfl compiled saves single rfl
  obtain rfl : (⟨"item", { target := Car.entity }, []⟩ : ParameterDecl) = parameter :=
    (List.cons.inj parameters).1
  have wellKeyed : WellKeyed Car.table.keyNames [Car.row] := by decide
  have counts : ∀ event, event ∈ Car.events →
      event.Saves fun object => Car.revision.Counts (object Car.revision.path) := by
    intro event member
    simp only [Car.events, List.mem_cons, List.not_mem_nil, or_false] at member
    rcases member with rfl | rfl | rfl | rfl
    · trivial
    · trivial
    · exact fun _ => .inl ⟨1, rfl⟩
    · exact fun _ => .inl ⟨1, rfl⟩
  exact ⟨method, compiled, sql.trans Car.saveCommand_text,
    runs [Car.row] (fun _ => []) Car.events wellKeyed counts⟩

end RowPlan
