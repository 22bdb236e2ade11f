import RowPlan.Proofs.ParameterUse

/-!
# Writes of lists

A save or delete that takes a list runs the statement of the one that takes an entity, once for
each element. The slots differ only in where their values are found: below the parameter that is
the entity, or in an element itself.
-/

namespace RowPlan

/-- The slot for the same value of an entity that is a parameter. -/
def BindSlot.under (parameter : String) (slot : BindSlot) : BindSlot :=
  { slot with path := parameter :: slot.path }

/-- The function with a parameter between others. -/
def FunctionDecl.taking (function : FunctionDecl) (before : List ParameterDecl)
    (parameter : ParameterDecl) (after : List ParameterDecl) : FunctionDecl :=
  { function with parameters := before ++ parameter :: after }

/-- A method runs the statement of another for each element of a list. All facts but the list
itself are the same, and the slots but for the parameter that the elements are not. -/
structure Method.BatchOf (batch single : Method) (parameter : String) (list : TypeUse) :
    Prop where
  once : single.execution = .single
  sql : batch.sql = single.sql
  slots : single.slots = batch.slots.map (BindSlot.under parameter)
  facts : batch.toMethodFacts =
    { single.toMethodFacts with execution := .batch, parameters := [(parameter, list)] }

/-! ## Changed slots -/

/-- A text with its slots changed. -/
def SqlText.mapSlots (change : BindSlot → BindSlot) (text : SqlText) : SqlText :=
  text.map fun
    | .text part => .text part
    | .slot key slot => .slot key (change slot)

def Binding.mapSlots (change : BindSlot → BindSlot) (binding : Binding) : Binding :=
  { binding with slots := binding.slots.map change }

section

variable {change : BindSlot → BindSlot} {style : MarkerStyle} {binding : Binding}

theorem Binding.numberFor_mapSlots (key : Option String) :
    (binding.mapSlots change).numberFor style key = binding.numberFor style key := by
  cases style with
  | question => simp [numberFor, mapSlots]
  | numbered => simp [numberFor, mapSlots]

theorem Binding.bind_mapSlots (key : Option String) (slot : BindSlot) :
    ((binding.mapSlots change).bind style key (change slot)).2 =
      (binding.bind style key slot).2.mapSlots change := by
  cases style with
  | question => simp [bind, mapSlots]
  | numbered =>
      simp only [bind, mapSlots]
      cases key.bind fun key => binding.numbers.lookup key with
      | none => simp
      | some number => rfl

namespace SqlText

/-- A text is written in the same way with other slots, which are bound instead. -/
theorem layout_mapSlots (binding : Binding) (text : SqlText) :
    written style (binding.mapSlots change) (text.mapSlots change) =
        written style binding text ∧
      bindAll style (binding.mapSlots change) (text.mapSlots change) =
        (bindAll style binding text).mapSlots change := by
  induction text generalizing binding with
  | nil => exact ⟨rfl, rfl⟩
  | cons fragment rest induction =>
      cases fragment with
      | text part =>
          obtain ⟨restWritten, restBound⟩ := induction binding
          exact ⟨congrArg (part ++ ·) restWritten, restBound⟩
      | slot key slot =>
          obtain ⟨restWritten, restBound⟩ := induction (binding.bind style key slot).2
          constructor
          · refine (written_slot ..).trans ?_
            rw [Binding.numberFor_mapSlots, Binding.bind_mapSlots, written_slot]
            exact congrArg _ restWritten
          · refine Eq.trans ?_ restBound
            exact congrArg (bindAll style · _) (Binding.bind_mapSlots key slot)

theorem mapSlots_text (part : String) (rest : SqlText) :
    mapSlots change (.text part :: rest) = .text part :: rest.mapSlots change :=
  rfl

theorem mapSlots_append (left right : SqlText) :
    (left ++ right).mapSlots change = left.mapSlots change ++ right.mapSlots change :=
  List.map_append

theorem mapSlots_join (separator : String) (texts : List SqlText) :
    (join separator texts).mapSlots change =
      join separator (texts.map (SqlText.mapSlots change)) := by
  induction texts with
  | nil => rfl
  | cons text rest induction =>
      cases rest with
      | nil => rfl
      | cons next others =>
          refine (mapSlots_append _ _).trans ?_
          exact congrArg (text.mapSlots change ++ .text separator :: ·) induction

end SqlText

/-! ## Statements -/

theorem Insert.text_mapSlots (options : Options) (tableRef : String) (insert : Insert) :
    ({ insert with values := insert.values.map fun value => (value.1, change value.2) } :
        Insert).text options tableRef =
      (insert.text options tableRef).mapSlots change := by
  have stored (value : Column × BindSlot) :
      storedValue (value.1, change value.2) = (storedValue value).mapSlots change := by
    cases version : value.1.isVersion with
    | true => simp [storedValue, version, SqlText.mapSlots]
    | false => simp [storedValue, version, SqlText.mapSlots]
  have values : (insert.values.map fun value => (value.1, change value.2)).map storedValue =
      (insert.values.map storedValue).map (SqlText.mapSlots change) := by
    rw [List.map_map, List.map_map]
    exact List.map_congr_left fun value _ => stored value
  have names : ((insert.values.map fun value => (value.1, change value.2)).map
      fun value => options.quote value.1.name) =
        insert.values.map fun value => options.quote value.1.name :=
    List.map_map
  unfold text
  simp only [names, values, List.cons_append, SqlText.mapSlots_text, SqlText.mapSlots_append,
    SqlText.mapSlots_join]
  cases insert.conflict with
  | none => rfl
  | some conflict => rfl

theorem Condition.text_mapSlots (options : Options) (comparisons : List Comparison) :
    (all (comparisons.map fun comparison =>
        { comparison with slot := change comparison.slot })).text options =
      ((all comparisons).text options).mapSlots change := by
  have compared (comparison : Comparison) :
      ({ comparison with slot := change comparison.slot } : Comparison).text options =
        (comparison.text options).mapSlots change := by
    obtain ⟨column, comparator, slot⟩ := comparison
    cases comparator with
    | equal => rfl
    | same => rfl
    | member => rfl
  simp only [Condition.text, SqlText.mapSlots_join, List.map_map]
  refine congrArg (SqlText.join " AND ") (List.map_congr_left fun comparison _ => ?_)
  exact compared comparison

end

namespace Scope

variable {scope : Scope} {function : FunctionDecl} {parameter : ParameterDecl}

theorem columnSlots_single (list : TypeUse) (columns : List Column) :
    columnSlots .single parameter columns =
      (columnSlots .batch { parameter with type := list } columns).map
        fun value => (value.1, value.2.under parameter.name) := by
  rw [columnSlots, columnSlots, List.map_map]
  rfl

theorem insertion_single (list : TypeUse) (before after : List ParameterDecl) :
    (scope.insertion (function.taking before parameter after) parameter .single).text
        scope.options (scope.table.ref scope.options) =
      ((scope.insertion (function.taking before { parameter with type := list } after)
        { parameter with type := list } .batch).text scope.options
          (scope.table.ref scope.options)).mapSlots (BindSlot.under parameter.name) := by
  rw [← Insert.text_mapSlots, insertion, columnSlots_single list]
  rfl

theorem entityGuard_single (list : TypeUse) :
    (scope.entityGuard .single parameter).text scope.options =
      ((scope.entityGuard .batch { parameter with type := list }).text
        scope.options).mapSlots (BindSlot.under parameter.name) := by
  rw [entityGuard, entityGuard, ← Condition.text_mapSlots, columnSlots_single list,
    List.map_map, List.map_map]
  rfl

/-! ## Compiled writes -/

theorem batchOf_finish {one each : Draft} {name : String} {list : TypeUse}
    (once : one.execution = .single)
    (text : one.statement.text scope.options scope.table =
      (each.statement.text scope.options scope.table).mapSlots (BindSlot.under name))
    (facts : each.toMethodFacts =
      { one.toMethodFacts with execution := .batch, parameters := [(name, list)] }) :
    (each.finish scope.options scope.table).BatchOf (one.finish scope.options scope.table)
      name list := by
  refine ⟨once, ?_, ?_, facts⟩
  · rw [Draft.finish_sql, Draft.finish_sql, text]
    exact (SqlText.layout_mapSlots {} _).1.symm
  · rw [Draft.finish_slots, Draft.finish_slots, text]
    exact congrArg Binding.slots (SqlText.layout_mapSlots {} _).2

theorem draft_of_deleteByEntity {execution : Execution}
    (kind : scope.archetype function = .deleteByEntity)
    (parameters : function.parameters = [parameter])
    (found : scope.execution? parameter.type = some execution) :
    scope.draft function = .ok { MethodFacts.declared function .deleteByEntity with
      execution := execution
      optimisticLock := scope.table.hasIds && scope.table.version?.isSome
      statement := .delete (some (scope.entityGuard execution parameter)) } := by
  obtain ⟨value, _, values, _⟩ := values_of_deleteByEntity kind
  have valueMember : value ∈ function.values := values ▸ List.mem_singleton_self value
  have member : value ∈ [parameter] := parameters ▸ List.mem_of_mem_filter valueMember
  obtain rfl := List.mem_singleton.mp member
  have isValue : value.role = .value := by
    simpa using (List.mem_filter.mp valueMember).2
  have valuesOnly : function.checkValuesOnly = .ok () := by
    rw [checkValuesOnly_eq_ok_iff, parameters]
    exact List.forall_mem_singleton.mpr isValue
  simp only [draft, kind, delete, valuesOnly, values, ok_bind, deleteEntity, found]
  rfl

theorem draft_of_several_saved (kind : scope.archetype function = .save)
    (several : ∀ parameter, function.parameters ≠ [parameter]) :
    scope.draft function = .error (.invalidSaveParameter function.name) := by
  simp only [draft, kind, save]

theorem draft_of_several_deleted (kind : scope.archetype function = .deleteByEntity)
    (several : ∀ parameter, function.parameters ≠ [parameter]) :
    scope.draft function = .error (.unusedParameters function.name
      ((function.parameters.filter fun parameter => parameter.role != .value).map
        ParameterDecl.name)) := by
  obtain ⟨value, _, values, _⟩ := values_of_deleteByEntity kind
  have refused : function.checkValuesOnly = .error (.unusedParameters function.name
      ((function.parameters.filter fun parameter => parameter.role != .value).map
        ParameterDecl.name)) := by
    cases checked : function.checkValuesOnly with
    | ok _ => exact (several value (values_of_checkValuesOnly checked ▸ values)).elim
    | error fault =>
        unfold FunctionDecl.checkValuesOnly at checked
        split at checked
        case h_1 => cases checked
        case h_2 => rw [← checked]
  simp only [draft, kind, delete, refused]
  rfl

/-- Deletes of an entity and of a list have the same parameters that are no values. -/
theorem others_taking {before after : List ParameterDecl} {list : TypeUse}
    (singleKind : scope.archetype (function.taking before parameter after) = .deleteByEntity)
    (batchKind : scope.archetype
      (function.taking before { parameter with type := list } after) = .deleteByEntity) :
    ((before ++ parameter :: after).filter fun parameter => parameter.role != .value).map
        ParameterDecl.name =
      ((before ++ { parameter with type := list } :: after).filter
        fun parameter => parameter.role != .value).map ParameterDecl.name := by
  obtain ⟨_, _, singleValues, _⟩ := values_of_deleteByEntity singleKind
  obtain ⟨_, _, batchValues, _⟩ := values_of_deleteByEntity batchKind
  -- Both have one value, so that the parameter is a value in both or in neither.
  have sameCount :=
    (congrArg List.length singleValues).trans (congrArg List.length batchValues).symm
  simp only [FunctionDecl.values, FunctionDecl.parametersOf, FunctionDecl.taking,
    List.filter_append, List.filter_cons, List.length_append] at sameCount
  simp only [List.filter_append, List.filter_cons]
  by_cases isValue : parameter.role = .value
  · by_cases listIsValue : ({ parameter with type := list } : ParameterDecl).role = .value
    · simp [isValue, listIsValue]
    · simp [isValue, listIsValue] at sameCount
  · by_cases listIsValue : ({ parameter with type := list } : ParameterDecl).role = .value
    · simp [isValue, listIsValue] at sameCount
    · simp [isValue, listIsValue]

end Scope

/-- A save or delete compiles to the same statement for an entity and for a list of entities,
with the same facts but for the list and how often it runs. The slots are the same one by one,
with the name of the parameter before their paths where it is the entity. Where the functions
have further parameters, neither compiles, and the error is the same. -/
theorem compile_batch_as_single {scope : Scope} {kind : Archetype} (writes : kind ∈ entityKinds)
    {function : FunctionDecl} {before after : List ParameterDecl} {parameter : ParameterDecl}
    {list : TypeUse} (single : scope.execution? parameter.type = some .single)
    (batch : scope.execution? list = some .batch)
    (singleKind : scope.archetype (function.taking before parameter after) = kind)
    (batchKind :
      scope.archetype (function.taking before { parameter with type := list } after) = kind) :
    (before = [] → after = [] → ∃ one each,
      scope.compile (function.taking before parameter after) = .ok one ∧
      scope.compile (function.taking before { parameter with type := list } after) = .ok each ∧
      each.BatchOf one parameter.name list) ∧
    (before ≠ [] ∨ after ≠ [] → ∃ fault,
      scope.compile (function.taking before parameter after) = .error fault ∧
      scope.compile (function.taking before { parameter with type := list } after) =
        .error fault) := by
  constructor
  · rintro rfl rfl
    rcases List.mem_pair.mp writes with rfl | rfl
    · rw [Scope.compile, Scope.compile, Scope.draft_of_save singleKind rfl single,
        Scope.draft_of_save batchKind rfl batch]
      refine ⟨_, _, rfl, rfl, Scope.batchOf_finish rfl ?_ rfl⟩
      exact Scope.insertion_single list [] []
    · rw [Scope.compile, Scope.compile, Scope.draft_of_deleteByEntity singleKind rfl single,
        Scope.draft_of_deleteByEntity batchKind rfl batch]
      refine ⟨_, _, rfl, rfl, Scope.batchOf_finish rfl ?_ rfl⟩
      exact congrArg (fun condition => _ :: .text " WHERE " :: condition)
        (Scope.entityGuard_single list)
  · intro others
    have several {taken : ParameterDecl} (other : ParameterDecl) :
        before ++ taken :: after ≠ [other] := by
      intro only
      obtain ⟨rfl, _, rfl⟩ : before = [] ∧ taken = other ∧ after = [] := by
        simpa [List.append_eq_singleton_iff] using only
      simp at others
    rcases List.mem_pair.mp writes with rfl | rfl
    · rw [Scope.compile, Scope.compile, Scope.draft_of_several_saved singleKind several,
        Scope.draft_of_several_saved batchKind several]
      exact ⟨_, rfl, rfl⟩
    · rw [Scope.compile, Scope.compile,
        Scope.draft_of_several_deleted singleKind several,
        Scope.draft_of_several_deleted batchKind several]
      refine ⟨_, rfl, ?_⟩
      have same := congrArg (CompileError.unusedParameters function.name)
        (Scope.others_taking singleKind batchKind)
      exact congrArg Except.error same.symm

namespace Car

/-- Inserts or updates the cars of a list. -/
def saveAll : FunctionDecl where
  name := "save"
  parameters := [⟨"item", .named "Vec" [{ target := entity }], []⟩]
  returnType := .unit

end Car

theorem compile_batch_as_single_car :
    Car.scope.execution? { target := Car.entity } = some .single ∧
      Car.scope.execution? (.named "Vec" [{ target := Car.entity }]) = some .batch ∧
      Car.scope.archetype Car.save = .save ∧ Car.scope.archetype Car.saveAll = .save ∧
      ∃ one each, Car.scope.compile Car.save = .ok one ∧
        Car.scope.compile Car.saveAll = .ok each ∧
        each.BatchOf one "item" (.named "Vec" [{ target := Car.entity }]) ∧
        each.slots.map BindSlot.path = [["id"], ["engine", "power"], ["revision"]] := by
  have single : Car.scope.execution? { target := Car.entity } = some .single := rfl
  have batch : Car.scope.execution? (.named "Vec" [{ target := Car.entity }]) = some .batch :=
    rfl
  have saves : Car.scope.archetype
      (Car.save.taking [] ⟨"item", { target := Car.entity }, []⟩ []) = .save := rfl
  have savesAll : Car.scope.archetype
      (Car.save.taking [] ⟨"item", .named "Vec" [{ target := Car.entity }], []⟩ []) = .save := rfl
  have writes : Archetype.save ∈ entityKinds := by decide
  obtain ⟨one, each, compiled, eachCompiled, batchOf⟩ :=
    (compile_batch_as_single writes single batch saves savesAll).1 rfl rfl
  obtain ⟨other, otherCompiled, paths⟩ : ∃ other, Car.scope.compile Car.saveAll = .ok other ∧
      other.slots.map BindSlot.path = [["id"], ["engine", "power"], ["revision"]] :=
    ⟨_, rfl, rfl⟩
  obtain rfl := Except.ok.inj (otherCompiled.symm.trans eachCompiled)
  exact ⟨single, batch, saves, savesAll, one, other, compiled, eachCompiled, batchOf, paths⟩

end RowPlan
