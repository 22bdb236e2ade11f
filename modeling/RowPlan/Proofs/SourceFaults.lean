import RowPlan.Proofs.ModelClasses
import RowPlan.Proofs.ReportedFaults

/-!
# Faults of a source

What is wrong with the items of a file can be told from each item by itself: attributes that cannot
be read, types that nothing stands for, structs whose fields have no names, and parameters that are
patterns. A file has a model if nothing is wrong with it. Otherwise all faults are reported that
are not hidden. Reading goes on after most faults, but it ends at a struct with an attribute that
cannot be read, at a parameter that is a pattern, and at a type argument that cannot be read.
-/

namespace RowPlan

open Checked (Accounts)

/-! ## What is wrong with an item -/

/-- The faults of attributes, of which some are known. -/
def AttributeTree.faults (tag? : AttributeTree → Option (Except Fault Tag))
    (attributes : List AttributeTree) : List Fault :=
  (attributes.filterMap tag?).flatMap fun tag => (Checked.of tag).reported

mutual

/-- The faults of a type: each part of it that nothing stands for. -/
def TypeTree.faults : TypeTree → List Fault
  | .enclosed type => type.faults
  | .list element => element.faults
  | .unit => []
  | .bound => [Fault.of .unsupportedType]
  | .other => [Fault.of .unsupportedType]
  | .path .qualified _ => [Fault.of .unsupportedType]
  | .path _ segments =>
      have := sizeOf_typeArguments segments
      TypeTree.faultsOf (typeArguments segments)
  termination_by type => sizeOf type

/-- The faults of several types. -/
def TypeTree.faultsOf : List TypeTree → List Fault
  | [] => []
  | type :: rest => type.faults ++ TypeTree.faultsOf rest
  termination_by types => sizeOf types

end

/-- The faults of a field. -/
def FieldTree.faults (tree : FieldTree) : List Fault :=
  tree.type.faults ++ AttributeTree.faults AttributeTree.fieldTag? tree.attributes

/-- The faults below a struct. -/
def FieldsTree.faults : FieldsTree → List Fault
  | .named trees => trees.flatMap FieldTree.faults
  | .unnamed => [Fault.of .tupleStruct]
  | .none => []

/-- The faults of a struct. -/
def StructTree.faults (item : StructTree) : List Fault :=
  AttributeTree.faults AttributeTree.classTag? item.attributes ++ item.fields.faults

/-- The faults of a parameter apart from that it may be a pattern. -/
def ParameterTree.innerFaults (tree : ParameterTree) : List Fault :=
  tree.type.faults ++ AttributeTree.faults AttributeTree.parameterTag? tree.attributes

/-- The faults of a parameter. -/
def ParameterTree.faults (tree : ParameterTree) : List Fault :=
  match tree.name with
  | none => Fault.of .patternParameter :: tree.innerFaults
  | some _ => tree.innerFaults

/-- The faults of the type that a function returns. -/
def returnFaults : Option TypeTree → List Fault
  | none => []
  | some type => type.withoutError.faults

/-- The faults of a function. -/
def FunctionTree.faults (tree : FunctionTree) : List Fault :=
  returnFaults tree.returnType ++
    (AttributeTree.faults AttributeTree.functionTag? tree.attributes ++
      tree.parameters.flatMap ParameterTree.faults)

/-- The faults of a repository. -/
def TraitTree.faults (item : TraitTree) : List Fault :=
  AttributeTree.faults AttributeTree.classTag? item.attributes ++
    ((item.entity?.map TypeTree.faults).getD [] ++ item.functions.flatMap FunctionTree.faults)

/-- The faults of an item; traits other than repositories are passed over. -/
def ItemTree.faults : ItemTree → List Fault
  | .struct item => item.faults
  | .trait item => if item.isRepository then item.faults else []
  | _ => []

/-! ## What is shown of it -/

mutual

/-- The faults of a type that are shown: those of its arguments up to the first that cannot be
read. -/
def TypeTree.shown (declarations : Declarations) (opened : List String) : TypeTree → List Fault
  | .enclosed type => type.shown declarations opened
  | .list element => element.shown declarations opened
  | .unit => []
  | .bound => [Fault.of .unsupportedType]
  | .other => [Fault.of .unsupportedType]
  | .path .qualified _ => [Fault.of .unsupportedType]
  | .path _ segments =>
      have := sizeOf_typeArguments segments
      TypeTree.shownOf declarations opened (typeArguments segments)
  termination_by type => sizeOf type

/-- The faults of several types that are shown. -/
def TypeTree.shownOf (declarations : Declarations) (opened : List String) :
    List TypeTree → List Fault
  | [] => []
  | type :: rest =>
      type.shown declarations opened ++
        match declarations.typeUse opened type with
        | .ok _ => TypeTree.shownOf declarations opened rest
        | .error _ => []
  termination_by types => sizeOf types

end

/-- The faults of a field that are shown. -/
def FieldTree.shown (declarations : Declarations) (opened : List String) (tree : FieldTree) :
    List Fault :=
  tree.type.shown declarations opened ++
    AttributeTree.faults AttributeTree.fieldTag? tree.attributes

/-- The faults below a struct that are shown. -/
def FieldsTree.shown (declarations : Declarations) (opened : List String) :
    FieldsTree → List Fault
  | .named trees => trees.flatMap (FieldTree.shown declarations opened)
  | .unnamed => [Fault.of .tupleStruct]
  | .none => []

/-- The faults of a struct that are shown: those of its attributes or, if it has none of these,
those of its fields. -/
def StructTree.shown (declarations : Declarations) (opened : List String) (item : StructTree) :
    List Fault :=
  match AttributeTree.faults AttributeTree.classTag? item.attributes with
  | [] => item.fields.shown declarations (item.name :: opened)
  | faults => faults

/-- The faults of a parameter that are shown: if it is a pattern, no others than that. -/
def ParameterTree.shown (declarations : Declarations) (tree : ParameterTree) : List Fault :=
  match tree.name with
  | none => [Fault.of .patternParameter]
  | some _ =>
      tree.type.shown declarations [] ++
        AttributeTree.faults AttributeTree.parameterTag? tree.attributes

/-- The faults of the type that a function returns, as far as they are shown. -/
def returnShown (declarations : Declarations) : Option TypeTree → List Fault
  | none => []
  | some type => type.withoutError.shown declarations []

/-- The faults of a function that are shown. -/
def FunctionTree.shown (declarations : Declarations) (tree : FunctionTree) : List Fault :=
  returnShown declarations tree.returnType ++
    (AttributeTree.faults AttributeTree.functionTag? tree.attributes ++
      tree.parameters.flatMap (ParameterTree.shown declarations))

/-- The faults of a repository that are shown. -/
def TraitTree.shown (declarations : Declarations) (item : TraitTree) : List Fault :=
  AttributeTree.faults AttributeTree.classTag? item.attributes ++
    ((item.entity?.map fun type => type.shown declarations []).getD [] ++
      item.functions.flatMap (FunctionTree.shown declarations))

/-- The faults of an item that are shown. -/
def ItemTree.shown (declarations : Declarations) : ItemTree → List Fault
  | .struct item => item.shown declarations []
  | .trait item => if item.isRepository then item.shown declarations else []
  | _ => []

/-! ## Attributes -/

namespace AttributeTree

theorem simpleTag_tells (read : Except FaultCause Tag) : (Checked.of (simpleTag read)).Tells := by
  cases read with
  | ok tag => exact Checked.tells_ok tag
  | error cause => exact Checked.tells_of_single cause none

theorem entryTexts_tells (keys seen : List String) (entries : List Entry) :
    ∀ result, result ∈ (entryTexts keys seen entries).map Checked.of → result.Tells := by
  induction entries generalizing seen with
  | nil => exact nofun
  | cons entry rest induction =>
      cases entry with
      | literal => exact List.forall_mem_cons.mpr ⟨Checked.tells_of_single _ _, induction seen⟩
      | keyed path form =>
          refine List.forall_mem_cons.mpr ⟨?_, induction _⟩
          split
          · exact Checked.tells_of_single _ _
          · split
            · exact Checked.tells_of_single _ _
            · split
              · exact Checked.tells_ok _
              · exact Checked.tells_of_single _ _

theorem texts_tells (attr : AttributeTree) (keys : List String) :
    (Checked.of (attr.texts keys)).Tells := by
  unfold texts
  split
  · exact Checked.tells_ok _
  · exact Checked.tells_of_single _ _
  · split
    · exact (Checked.Tells.all (entryTexts_tells keys [] _)).together
    · exact Checked.tells_of_single _ _

theorem keyedTag_tells (attr : AttributeTree) (name : String) (keys : List (String × String)) :
    (Checked.of (attr.keyedTag name keys)).Tells := by
  unfold keyedTag
  have tells := attr.texts_tells (keys.map Prod.fst)
  cases read : attr.texts (keys.map Prod.fst) with
  | ok texts => exact Checked.tells_ok _
  | error fault =>
      rw [read] at tells
      exact fun silent => nomatch tells silent

/-- Attributes of a target: something is reported of each that cannot be read. -/
def TellsAll (tag? : AttributeTree → Option (Except Fault Tag)) : Prop :=
  ∀ attr tag, tag? attr = some tag → (Checked.of tag).Tells

theorem classTag?_tells : TellsAll classTag? := by
  intro attr tag known
  unfold classTag? at known
  split at known
  all_goals cases known
  all_goals exact keyedTag_tells attr _ _

theorem fieldTag?_tells : TellsAll fieldTag? := by
  intro attr tag known
  unfold fieldTag? at known
  split at known
  all_goals cases known
  · exact simpleTag_tells _
  · exact simpleTag_tells _
  · exact keyedTag_tells attr _ _

theorem functionTag?_tells : TellsAll functionTag? := by
  intro attr tag known
  unfold functionTag? at known
  split at known
  all_goals cases known
  all_goals exact simpleTag_tells _

theorem parameterTag?_tells : TellsAll parameterTag? := by
  intro attr tag known
  unfold parameterTag? at known
  split at known
  all_goals cases known
  exact simpleTag_tells _

/-- All faults of attributes are reported, and no others. -/
theorem tags_accounts {alone : Prop} {tag? : AttributeTree → Option (Except Fault Tag)}
    (tells : TellsAll tag?) (attributes : List AttributeTree) :
    Accounts alone (faults tag? attributes) (faults tag? attributes)
      (Checked.of (tags tag? attributes)) := by
  have each : ∀ tag, tag ∈ attributes.filterMap tag? →
      Accounts alone (Checked.of tag).reported (Checked.of tag).reported (Checked.of tag) := by
    intro tag member
    obtain ⟨attr, _, known⟩ := List.mem_filterMap.mp member
    exact .of_tells (tells attr tag known)
  exact (Accounts.all each).together

theorem faults_eq_nil {tag? : AttributeTree → Option (Except Fault Tag)} (tells : TellsAll tag?)
    {attributes : List AttributeTree} {read : List Tag}
    (success : tags tag? attributes = .ok read) : faults tag? attributes = [] :=
  have accounts : Accounts True _ _ _ := tags_accounts tells attributes
  accounts.faultless ⟨read, Checked.of_eq_ok_iff.mpr success⟩

theorem faults_ne_nil {tag? : AttributeTree → Option (Except Fault Tag)} (tells : TellsAll tag?)
    {attributes : List AttributeTree} {fault : Fault}
    (failed : tags tag? attributes = .error fault) : faults tag? attributes ≠ [] := by
  intro none
  have accounts : Accounts True _ _ _ := tags_accounts tells attributes
  rw [none, failed] at accounts
  obtain ⟨_, success⟩ := accounts.tells (accounts.exact trivial)
  cases success

end AttributeTree

/-! ## Types and structs -/

namespace TypeTree

variable {declarations : Declarations} {opened : List String}

theorem faults_path {start : PathStart} (unqualified : start ≠ .qualified)
    (segments : List PathSegment) :
    (path start segments).faults = faultsOf (typeArguments segments) := by
  rw [faults]
  exact unqualified

theorem shown_path {start : PathStart} (unqualified : start ≠ .qualified)
    (segments : List PathSegment) :
    (path start segments).shown declarations opened =
      shownOf declarations opened (typeArguments segments) := by
  rw [shown]
  exact unqualified

theorem shownOf_singleton (type : TypeTree) :
    shownOf declarations opened [type] = type.shown declarations opened := by
  rw [shownOf, shownOf]
  split
  · exact List.append_nil _
  · exact List.append_nil _

theorem typeArguments_of_wrapped {segments : List PathSegment} {name : String}
    {type : TypeTree} (wrapper : wrapped? segments = some (name, type)) :
    typeArguments segments = [type] := by
  unfold wrapped? at wrapper
  split at wrapper
  · next only _ types _ =>
      split at wrapper
      · cases wrapper
        exact types
      · cases wrapper
  · cases wrapper

end TypeTree

/-- Every struct that can still be opened is without faults. -/
def Declarations.FaultlessBeyond (declarations : Declarations) (opened : List String) : Prop :=
  ∀ item, item ∈ declarations.structs → item.name ∉ opened → item.faults = []

theorem Declarations.FaultlessBeyond.cons {declarations : Declarations} {opened : List String}
    (faultless : declarations.FaultlessBeyond opened) (name : String) :
    declarations.FaultlessBeyond (name :: opened) :=
  fun item member closed => faultless item member fun isOpen =>
    closed (List.mem_cons_of_mem _ isOpen)

namespace Expansion

variable {declarations : Declarations}

/-- The faults of what a call is about are accounted for by what it yields. -/
def Accounted (declarations : Declarations) (opened : List String) :
    (call : Call) → call.Result → Prop
  | .type type, result =>
      Accounts (declarations.FaultlessBeyond opened) type.faults
        (type.shown declarations opened) (Checked.of result)
  | .types types, result =>
      Accounts (declarations.FaultlessBeyond opened) (TypeTree.faultsOf types)
        (TypeTree.shownOf declarations opened types) (Checked.of result)
  | .path _, result =>
      Accounts (declarations.FaultlessBeyond opened) [] [] (Checked.of result)
  | .struct item, result =>
      Accounts (declarations.FaultlessBeyond (item.name :: opened)) item.faults
        (item.shown declarations opened) (Checked.of result)
  | .fields trees, result =>
      Accounts (declarations.FaultlessBeyond opened) (trees.flatMap FieldTree.faults)
        (trees.flatMap (FieldTree.shown declarations opened)) result

theorem accounted_unsupported {opened : List String} {type : TypeTree}
    (unsupported : type = .bound ∨ type = .other ∨ ∃ segments, type = .path .qualified segments) :
    Accounted declarations opened (.type type) (.error (Fault.of .unsupportedType)) := by
  rcases unsupported with rfl | rfl | ⟨segments, rfl⟩
  all_goals
    rw [Accounted, TypeTree.faults, TypeTree.shown]
    exact .single _

theorem accounted_named {opened : List String} {start : PathStart}
    {segments : List PathSegment} {arguments : List TypeUse} {target : Except Fault ClassDecl}
    (unqualified : start ≠ .qualified)
    (first : Accounted declarations opened (.types (typeArguments segments)) (.ok arguments))
    (second : Accounted declarations opened (.path segments) target) :
    Accounted declarations opened (.type (.path start segments))
      (target.map fun target => { target, arguments }) := by
  have both := Accounts.map (Accounts.both first second) fun pair =>
    { target := pair.2, arguments := pair.1 : TypeUse }
  rw [List.append_nil, List.append_nil] at both
  rw [Accounted, Checked.of_map, TypeTree.faults_path unqualified,
    TypeTree.shown_path unqualified]
  cases target with
  | ok target => exact both
  | error fault => exact both

theorem accounted_types {opened : List String} {type : TypeTree} {rest : List TypeTree}
    {use : TypeUse} {uses : Except Fault (List TypeUse)}
    (read : declarations.typeUse opened type = .ok use)
    (first : Accounted declarations opened (.type type) (.ok use))
    (others : Accounted declarations opened (.types rest) uses) :
    Accounted declarations opened (.types (type :: rest)) (uses.map fun uses => use :: uses) := by
  have both := Accounts.map (Accounts.both first others) fun pair => pair.1 :: pair.2
  rw [Accounted, Checked.of_map, TypeTree.faultsOf, TypeTree.shownOf, read]
  cases uses with
  | ok uses => exact both
  | error fault => exact both

theorem accounted_faultyType {opened : List String} {type : TypeTree} {fault : Fault}
    (failed : declarations.typeUse opened type = .error fault)
    (first : Accounted declarations opened (.type type) (.error fault)) (rest : List TypeTree) :
    Accounted declarations opened (.types (type :: rest)) (.error fault) := by
  rw [Accounted, TypeTree.faultsOf, TypeTree.shownOf, failed, List.append_nil]
  exact Accounts.stop first _

theorem accounted_faultyTags {opened : List String} {item : StructTree} {fault : Fault}
    (faulty : AttributeTree.tags AttributeTree.classTag? item.attributes = .error fault) :
    Accounted declarations opened (.struct item) (.error fault) := by
  have tags : Accounts (declarations.FaultlessBeyond (item.name :: opened)) _ _ _ :=
    AttributeTree.tags_accounts AttributeTree.classTag?_tells item.attributes
  have some := AttributeTree.faults_ne_nil AttributeTree.classTag?_tells faulty
  have shown : item.shown declarations opened =
      AttributeTree.faults AttributeTree.classTag? item.attributes := by
    rw [StructTree.shown]
    split
    · next none => exact (some none).elim
    · rfl
  rw [faulty] at tags
  rw [Accounted, shown]
  exact tags.stop item.fields.faults

theorem accounted_field {opened : List String} {tree : FieldTree} {rest : List FieldTree}
    {use : Except Fault TypeUse} {others : Checked (List FieldDecl)}
    (first : Accounted declarations opened (.type tree.type) use)
    (second : Accounted declarations opened (.fields rest) others) :
    Accounted declarations opened (.fields (tree :: rest))
      ((Checked.both (fieldOf tree use) others).map fun (field, fields) => field :: fields) := by
  have field : Accounts (declarations.FaultlessBeyond opened) tree.faults
      (tree.shown declarations opened) (fieldOf tree use) :=
    (Accounts.both first
      (AttributeTree.tags_accounts AttributeTree.fieldTag?_tells tree.attributes)).map _
  exact (field.both second).map _

theorem Expands.accounted {call : Call} {before after : List String} {result : call.Result}
    (run : Expands declarations call before result after) :
    Accounted declarations before call result := by
  induction run with
  | enclosed _ accounted =>
      rw [Accounted, TypeTree.faults, TypeTree.shown]
      exact accounted
  | list _ accounted =>
      rw [Accounted, TypeTree.faults, TypeTree.shown, Checked.of_map]
      exact accounted.map _
  | unit =>
      rw [Accounted, TypeTree.faults, TypeTree.shown]
      exact .ok _
  | unsupported unsupported => exact accounted_unsupported unsupported
  | wrapped unqualified wrapper _ accounted =>
      rw [Accounted, TypeTree.faults_path unqualified, TypeTree.shown_path unqualified,
        TypeTree.typeArguments_of_wrapped wrapper, TypeTree.shownOf_singleton, TypeTree.faultsOf,
        TypeTree.faultsOf, List.append_nil, Checked.of_map]
      exact accounted.map _
  | faultyArguments unqualified unwrapped _ accounted =>
      rw [Accounted, TypeTree.faults_path unqualified, TypeTree.shown_path unqualified,
        ← List.append_nil (TypeTree.faultsOf _)]
      exact Accounts.stop accounted []
  | named unqualified unwrapped first _ types target =>
      cases first.restores
      exact accounted_named unqualified types target
  | noTypes =>
      rw [Accounted, TypeTree.faultsOf, TypeTree.shownOf]
      exact .ok _
  | faultyType first accounted => exact accounted_faultyType first.yields.symm accounted _
  | types first _ type types =>
      cases first.restores
      exact accounted_types first.yields.symm type types
  | opened | enum | undeclared | foreign => exact .ok _
  | declared closed found _ accounted =>
      -- A struct that is opened on the way is an item as well, and its faults are counted there.
      refine (accounted.weaken fun faultless => faultless.cons _).aside fun faultless => ?_
      obtain ⟨member, named⟩ := Declarations.struct?_eq_some found
      exact faultless _ member (named ▸ closed)
  | faultyTags faulty => exact accounted_faultyTags faulty
  | fieldless tagged shape =>
      rw [Accounted, StructTree.faults, StructTree.shown, shape,
        AttributeTree.faults_eq_nil AttributeTree.classTag?_tells tagged]
      exact .ok _
  | tuple tagged shape =>
      rw [Accounted, StructTree.faults, StructTree.shown, shape,
        AttributeTree.faults_eq_nil AttributeTree.classTag?_tells tagged]
      exact .single _
  | struct tagged shape _ accounted =>
      rw [Accounted, StructTree.faults, StructTree.shown, shape, Checked.of_map,
        AttributeTree.faults_eq_nil AttributeTree.classTag?_tells tagged]
      exact accounted.together.map _
  | noFields => exact Accounts.ok []
  | field first _ use others =>
      cases first.restores
      exact accounted_field use others

end Expansion

/-! ## Repositories -/

namespace Declarations

variable {declarations : Declarations}

theorem accounts_outerTypeUse (type : TypeTree) :
    Accounts (declarations.FaultlessBeyond []) type.faults (type.shown declarations [])
      (declarations.outerTypeUse type) :=
  (Expansion.expands_typeUse [] type).accounted

theorem accounts_parameter (tree : ParameterTree) :
    Accounts (declarations.FaultlessBeyond []) tree.faults (tree.shown declarations)
      (declarations.parameter tree) := by
  rw [ParameterTree.faults, ParameterTree.shown, parameter]
  cases tree.name with
  | none =>
      have refused : Accounts (declarations.FaultlessBeyond []) [Fault.of .patternParameter]
          [Fault.of .patternParameter]
          (Checked.of (.error (Fault.of .patternParameter) : Except Fault ParameterDecl)) :=
        .single _
      exact refused.stop tree.innerFaults
  | some name =>
      exact ((accounts_outerTypeUse tree.type).both
        (AttributeTree.tags_accounts AttributeTree.parameterTag?_tells tree.attributes)).map _

theorem accounts_returnType (type : Option TypeTree) :
    Accounts (declarations.FaultlessBeyond []) (returnFaults type)
      (returnShown declarations type) (declarations.returnType type) := by
  cases type with
  | none => exact .ok _
  | some type => exact accounts_outerTypeUse type.withoutError

theorem accounts_function (tree : FunctionTree) :
    Accounts (declarations.FaultlessBeyond []) tree.faults (tree.shown declarations)
      (Checked.of (declarations.function tree)) := by
  have parameters : Accounts (declarations.FaultlessBeyond [])
      (tree.parameters.flatMap ParameterTree.faults)
      (tree.parameters.flatMap (ParameterTree.shown declarations))
      (Checked.all (tree.parameters.map declarations.parameter)) :=
    .all fun parameter _ => accounts_parameter parameter
  have tags : Accounts (declarations.FaultlessBeyond []) _ _ _ :=
    AttributeTree.tags_accounts AttributeTree.functionTag?_tells tree.attributes
  exact (((accounts_returnType tree.returnType).both (tags.both parameters)).map _).together

theorem accounts_entity (type : Option TypeTree) :
    Accounts (declarations.FaultlessBeyond []) ((type.map TypeTree.faults).getD [])
      ((type.map fun type => type.shown declarations []).getD []) (declarations.entity type) := by
  cases type with
  | none => exact .ok _
  | some type => exact (accounts_outerTypeUse type).map _

theorem accounts_repository (item : TraitTree) :
    Accounts (declarations.FaultlessBeyond []) item.faults (item.shown declarations)
      (Checked.of (declarations.repository item)) := by
  have functions : Accounts (declarations.FaultlessBeyond [])
      (item.functions.flatMap FunctionTree.faults)
      (item.functions.flatMap (FunctionTree.shown declarations))
      (Checked.all (item.functions.map fun function =>
        Checked.of (declarations.function function))) :=
    .all fun function _ => accounts_function function
  have tags : Accounts (declarations.FaultlessBeyond []) _ _ _ :=
    AttributeTree.tags_accounts AttributeTree.classTag?_tells item.attributes
  exact ((tags.both ((accounts_entity item.entity?).both functions)).map _).together

end Declarations

/-! ## Files -/

namespace SourceModel

/-- What an item is read as, if it is a class or a repository. -/
def readItem (declarations : Declarations) (leaf : ItemTree) : Checked (Option ClassDecl) :=
  match classOfItem? declarations leaf with
  | none => .ok none
  | some result => (Checked.of result).map some

/-- The struct that is open while the fields of an item are read. -/
def openedBy : ItemTree → List String
  | .struct item => [item.name]
  | _ => []

theorem accounts_readItem (declarations : Declarations) (leaf : ItemTree) :
    Accounts (declarations.FaultlessBeyond (openedBy leaf)) leaf.faults
      (leaf.shown declarations) (readItem declarations leaf) := by
  cases leaf with
  | struct item => exact Accounts.map (Expansion.expands_structClass [] item).accounted some
  | trait item =>
      rw [ItemTree.faults, ItemTree.shown, readItem, classOfItem?]
      cases item.isRepository with
      | true => exact (Declarations.accounts_repository item).map some
      | false => exact .ok none
  | enum | module | other => exact .ok _

theorem reported_items (declarations : Declarations) (leaves : List ItemTree) :
    (Checked.all ((leaves.filterMap (classOfItem? declarations)).map Checked.of)).reported =
      leaves.flatMap fun leaf => (readItem declarations leaf).reported := by
  rw [Checked.reported_all]
  induction leaves with
  | nil => rfl
  | cons leaf rest induction =>
      rw [List.flatMap_cons, ← induction, readItem]
      cases found : classOfItem? declarations leaf with
      | none =>
          rw [List.filterMap_cons_none found]
          rfl
      | some result =>
          rw [List.filterMap_cons_some found, List.map_cons, List.flatMap_cons]
          dsimp only
          rw [Checked.reported_map]

variable {items : List ItemTree}

theorem singles_of_ofItems {fault : Fault} (failed : ofItems items = .error fault) :
    fault.singles = (ItemTree.leavesOfAll items).flatMap fun leaf =>
      (readItem (declared items) leaf).reported := by
  have together : (readLeaves items).together = .error fault :=
    map_eq_error_iff.mp ((ofItems_eq items).symm.trans failed)
  rw [← reported_items, ← @Checked.reported_of_error (List ClassDecl), ← together,
    Checked.reported_together]
  rfl

/-- A file has a model if each of its items can be read. -/
theorem exists_ofItems_iff :
    (∃ model, ofItems items = .ok model) ↔
      ∀ leaf, leaf ∈ ItemTree.leavesOfAll items →
        ∃ cls, readItem (declared items) leaf = .ok cls := by
  have success : (∃ model, ofItems items = .ok model) ↔
      ∃ found, readLeaves items = .ok found := by
    simp [ofItems_eq, map_eq_ok_iff, Checked.together_eq_ok_iff]
  rw [success, readLeaves, Checked.exists_all_iff]
  constructor
  · intro read leaf member
    unfold readItem
    split
    case h_1 => exact ⟨none, rfl⟩
    case h_2 result found =>
      obtain ⟨cls, same⟩ := read (Checked.of result)
        (List.mem_map_of_mem (List.mem_filterMap.mpr ⟨leaf, member, found⟩))
      rw [same]
      exact ⟨some cls, rfl⟩
  · intro read result among
    obtain ⟨source, isSource, rfl⟩ := List.mem_map.mp among
    obtain ⟨leaf, member, found⟩ := List.mem_filterMap.mp isSource
    obtain ⟨cls, same⟩ := read leaf member
    simp only [readItem, found] at same
    obtain ⟨value, success, _⟩ := map_eq_ok_iff.mp same
    exact ⟨value, success⟩

/-- A file has a model exactly if nothing is wrong with its items. Otherwise the single faults that
are reported have among them, in their order, all faults of the items that are shown. Where only
one item is at fault, they are no others than its shown faults. -/
theorem ofItems_reports_faults (items : List ItemTree) :
    ((∃ model, ofItems items = .ok model) ↔
      ∀ leaf, leaf ∈ ItemTree.leavesOfAll items → leaf.faults = []) ∧
    (∀ leaf : ItemTree, (leaf.shown (declared items)).Sublist leaf.faults) ∧
    ∀ fault, ofItems items = .error fault →
      ((ItemTree.leavesOfAll items).flatMap (ItemTree.shown (declared items))).Sublist
          fault.singles ∧
        ∀ before leaf after, ItemTree.leavesOfAll items = before ++ leaf :: after →
          (∀ found, found ∈ before ++ after →
            ∃ cls, readItem (declared items) found = .ok cls) →
          fault.singles = leaf.shown (declared items) := by
  have accounts := accounts_readItem (declared items)
  refine ⟨?_, fun leaf => (accounts leaf).within, ?_⟩
  · rw [exists_ofItems_iff]
    constructor
    · intro read leaf member
      exact (accounts leaf).faultless (read leaf member)
    · intro faultless leaf member
      have others : (declared items).FaultlessBeyond (openedBy leaf) := fun item among _ =>
        faultless (.struct item) (mem_structs_iff.mp among)
      have none := (accounts leaf).within
      rw [faultless leaf member, List.sublist_nil] at none
      exact (accounts leaf).tells (((accounts leaf).exact others).trans none)
  · intro fault failed
    rw [singles_of_ofItems failed]
    refine ⟨List.Sublist.flatMap_right _ fun leaf _ => (accounts leaf).complete, ?_⟩
    intro before leaf after split read
    -- All structs that the item mentions are others, apart from itself, which is open.
    have others : (declared items).FaultlessBeyond (openedBy leaf) := by
      intro item member closed
      have among := mem_structs_iff.mp member
      rw [split, List.mem_append, List.mem_cons] at among
      rcases among with among | rfl | among
      · exact (accounts (.struct item)).faultless (read _ (List.mem_append_left _ among))
      · exact (closed List.mem_cons_self).elim
      · exact (accounts (.struct item)).faultless (read _ (List.mem_append_right _ among))
    have silent : ∀ found, found ∈ before ++ after →
        (readItem (declared items) found).reported = [] := by
      intro found member
      obtain ⟨cls, success⟩ := read found member
      rw [success]
      rfl
    obtain ⟨silentBefore, silentAfter⟩ := List.forall_mem_append.mp silent
    rw [split, List.flatMap_append, List.flatMap_cons, List.flatMap_eq_nil_iff.mpr silentBefore,
      List.flatMap_eq_nil_iff.mpr silentAfter, List.nil_append, List.append_nil]
    exact (accounts leaf).exact others

end SourceModel

/-! ### A struct with two faults -/

namespace Lorries

/-- An attribute with a literal after an equals sign. -/
def assigned (name : String) (value : Literal) : AttributeTree where
  isInner := false
  isRooted := false
  path := [name]
  form := .value { form := .literal, literal := some value }

/-- A struct with an attribute that cannot be read, and a field with another one. -/
def lorry : StructTree where
  attributes := [assigned "table" (.string "lorries")]
  name := "Lorry"
  fields := .named [⟨[assigned "column" (.integer false 1 false)], "id", TypeTree.named "i64" []⟩]

def file : List ItemTree :=
  [.struct lorry]

/-- A repository in which everything is at fault: its attribute, its entity, the value that its
function returns, an attribute of the function and one of its parameters, and a pattern. -/
def repository : TraitTree where
  attributes := [assigned "repository" (.string "main")]
  name := "Lorries"
  bounds := [.trait [.segment "Repository" (some [.type .other])]]
  functions := [{
    attributes := [assigned "limit" .boolean]
    name := "find"
    parameters := [⟨[assigned "limit" (.string "few")], some "most", TypeTree.named "i64" []⟩,
      ⟨[], none, TypeTree.named "i64" []⟩]
    returnType := some (TypeTree.named "Result" [.list .other, .other])
    hasBody := false }]

/-- A trait with the same function that is no repository. -/
def passed : TraitTree :=
  { repository with attributes := [], bounds := [] }

/-- A repository in a module, and a trait beside it. -/
def traits : List ItemTree :=
  [.module [.trait repository], .trait passed]

end Lorries

/-- Nothing but the fault of the attribute of the struct is reported. Of a repository all faults are,
but none of an error that it returns, and none of other traits. -/
theorem SourceModel.ofItems_reports_faults_lorry :
    (∃ fault, ofItems Lorries.file = .error fault ∧
      fault.singles = [Fault.of (.unexpectedType "string")]) ∧
    ∃ fault, ofItems Lorries.traits = .error fault ∧
      fault.singles = [Fault.of (.unexpectedType "string"), Fault.of .unsupportedType,
        Fault.of .unsupportedType, Fault.of (.unexpectedType "bool"), Fault.of .unexpectedArguments,
        Fault.of .patternParameter] := by
  constructor
  · have failed : ofItems Lorries.file = .error (Fault.of (.unexpectedType "string")) := by
      cbv
    obtain ⟨_, _, reports⟩ := ofItems_reports_faults Lorries.file
    obtain ⟨_, alone⟩ := reports _ failed
    refine ⟨_, failed, alone [] (.struct Lorries.lorry) [] rfl fun found member => ?_⟩
    exact (List.not_mem_nil member).elim
  · obtain ⟨readable, _, reports⟩ := ofItems_reports_faults Lorries.traits
    have shown : ItemTree.shown (declared Lorries.traits) (.trait Lorries.repository) =
        [Fault.of (.unexpectedType "string"), Fault.of .unsupportedType, Fault.of .unsupportedType,
          Fault.of (.unexpectedType "bool"), Fault.of .unexpectedArguments,
          Fault.of .patternParameter] := by
      cbv
    cases failed : ofItems Lorries.traits with
    | ok model =>
        have faultless := readable.mp ⟨model, failed⟩ (.trait Lorries.repository)
          List.mem_cons_self
        cases faultless
    | error fault =>
        obtain ⟨_, alone⟩ := reports _ failed
        refine ⟨fault, rfl, (alone [] (.trait Lorries.repository) [.trait Lorries.passed] rfl
          fun found member => ?_).trans shown⟩
        obtain rfl := List.mem_singleton.mp member
        exact ⟨none, rfl⟩

/-- The attribute of the field cannot be read either, but this is not reported. -/
theorem Lorries.field_fault_hidden :
    Fault.of (.unexpectedType "int") ∈ lorry.faults ∧
      ∃ fault, SourceModel.ofItems file = .error fault ∧
        Fault.of (.unexpectedType "int") ∉ fault.singles := by
  refine ⟨?_, Fault.of (.unexpectedType "string"), by cbv, ?_⟩
  · apply List.mem_append_right
    exact List.mem_append_left [] (List.mem_append_right _ List.mem_cons_self)
  · simp [Fault.singles, Fault.of]

end RowPlan
