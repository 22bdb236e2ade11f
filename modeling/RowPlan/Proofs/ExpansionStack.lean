import RowPlan.Reading.Expansion

/-!
# The stack of open structs

Expansion keeps the structs that are open on a stack: a struct is put on it before its fields are
expanded, and taken off afterwards. Every call hands the stack on to the next one, whether it finds
a fault or not. `Expands` describes such calls. Each of them ends, with the stack as it was.
-/

namespace RowPlan

namespace Expansion

/-- A call of the expansion. -/
inductive Call where
  | type (type : TypeTree)
  | types (types : List TypeTree)
  | path (segments : List PathSegment)
  | struct (item : StructTree)
  | fields (trees : List FieldTree)

/-- What a call yields. -/
abbrev Call.Result : Call → Type
  | type _ => Except Fault TypeUse
  | types _ => Except Fault (List TypeUse)
  | path _ => Except Fault ClassDecl
  | struct _ => Except Fault ClassDecl
  | fields _ => Checked (List FieldDecl)

/-- A field with what its type and its attributes are read as. -/
def fieldOf (tree : FieldTree) (use : Except Fault TypeUse) : Checked FieldDecl :=
  (Checked.both (Checked.of use)
    (Checked.of (AttributeTree.tags AttributeTree.fieldTag? tree.attributes))).map
      fun (type, tags) => { name := tree.name, type, tags }

/-- A call on a stack of open structs, what it yields, and the stack that it leaves. -/
inductive Expands (declarations : Declarations) :
    (call : Call) → List String → call.Result → List String → Prop where
  | enclosed {type : TypeTree} {before after : List String} {use : Except Fault TypeUse} :
      Expands declarations (.type type) before use after →
      Expands declarations (.type (.enclosed type)) before use after
  | list {element : TypeTree} {before after : List String} {use : Except Fault TypeUse} :
      Expands declarations (.type element) before use after →
      Expands declarations (.type (.list element)) before
        (use.map fun use => TypeUse.named "Vec" [use]) after
  | unit {stack : List String} :
      Expands declarations (.type .unit) stack (.ok TypeUse.unit) stack
  | unsupported {type : TypeTree} {stack : List String} :
      type = .bound ∨ type = .other ∨ (∃ segments, type = .path .qualified segments) →
      Expands declarations (.type type) stack (.error (Fault.of .unsupportedType)) stack
  | wrapped {start : PathStart} {segments : List PathSegment} {name : String} {type : TypeTree}
      {before after : List String} {use : Except Fault TypeUse} :
      start ≠ .qualified → wrapped? segments = some (name, type) →
      Expands declarations (.type type) before use after →
      Expands declarations (.type (.path start segments)) before
        (use.map fun use => { use with nullable := use.nullable || name == "Option" }) after
  | faultyArguments {start : PathStart} {segments : List PathSegment}
      {before after : List String} {fault : Fault} :
      start ≠ .qualified → wrapped? segments = none →
      Expands declarations (.types (typeArguments segments)) before (.error fault) after →
      Expands declarations (.type (.path start segments)) before (.error fault) after
  | named {start : PathStart} {segments : List PathSegment} {before between after : List String}
      {arguments : List TypeUse} {target : Except Fault ClassDecl} :
      start ≠ .qualified → wrapped? segments = none →
      Expands declarations (.types (typeArguments segments)) before (.ok arguments) between →
      Expands declarations (.path segments) between target after →
      Expands declarations (.type (.path start segments)) before
        (target.map fun target => { target, arguments }) after
  | noTypes {stack : List String} :
      Expands declarations (.types []) stack (.ok []) stack
  | faultyType {type : TypeTree} {rest : List TypeTree} {before after : List String}
      {fault : Fault} :
      Expands declarations (.type type) before (.error fault) after →
      Expands declarations (.types (type :: rest)) before (.error fault) after
  | types {type : TypeTree} {rest : List TypeTree} {before between after : List String}
      {use : TypeUse} {uses : Except Fault (List TypeUse)} :
      Expands declarations (.type type) before (.ok use) between →
      Expands declarations (.types rest) between uses after →
      Expands declarations (.types (type :: rest)) before
        (uses.map fun uses => use :: uses) after
  | opened {segment : PathSegment} {stack : List String} :
      segment.name ∈ stack →
      Expands declarations (.path [segment]) stack
        (.ok { name := QualifiedName.bare segment.name }) stack
  | declared {segment : PathSegment} {item : StructTree} {before after : List String}
      {cls : Except Fault ClassDecl} :
      segment.name ∉ before → declarations.struct? segment.name = some item →
      Expands declarations (.struct item) before cls after →
      Expands declarations (.path [segment]) before cls after
  | enum {segment : PathSegment} {item : EnumTree} {stack : List String} :
      segment.name ∉ stack → declarations.struct? segment.name = none →
      declarations.enum? segment.name = some item →
      Expands declarations (.path [segment]) stack (.ok item.toClass) stack
  | undeclared {segment : PathSegment} {stack : List String} :
      segment.name ∉ stack → declarations.struct? segment.name = none →
      declarations.enum? segment.name = none →
      Expands declarations (.path [segment]) stack
        (.ok { name := QualifiedName.ofPath segment.name }) stack
  | foreign {segments : List PathSegment} {stack : List String} :
      segments.length ≠ 1 →
      Expands declarations (.path segments) stack
        (.ok { name := QualifiedName.ofPath (pathText segments) }) stack
  | faultyTags {item : StructTree} {stack : List String} {fault : Fault} :
      AttributeTree.tags AttributeTree.classTag? item.attributes = .error fault →
      Expands declarations (.struct item) stack (.error fault) stack
  | fieldless {item : StructTree} {stack : List String} {tags : List Tag} :
      AttributeTree.tags AttributeTree.classTag? item.attributes = .ok tags →
      item.fields = .none →
      Expands declarations (.struct item) stack
        (.ok { name := QualifiedName.bare item.name, tags }) stack
  | tuple {item : StructTree} {stack : List String} {tags : List Tag} :
      AttributeTree.tags AttributeTree.classTag? item.attributes = .ok tags →
      item.fields = .unnamed →
      Expands declarations (.struct item) stack (.error (Fault.of .tupleStruct)) stack
  | struct {item : StructTree} {trees : List FieldTree} {before after : List String}
      {tags : List Tag} {fields : Checked (List FieldDecl)} :
      AttributeTree.tags AttributeTree.classTag? item.attributes = .ok tags →
      item.fields = .named trees →
      Expands declarations (.fields trees) (item.name :: before) fields after →
      Expands declarations (.struct item) before
        (fields.together.map fun fields =>
          { name := QualifiedName.bare item.name, tags, fields }) after.tail
  | noFields {stack : List String} :
      Expands declarations (.fields []) stack (.ok []) stack
  | field {tree : FieldTree} {rest : List FieldTree} {before between after : List String}
      {use : Except Fault TypeUse} {others : Checked (List FieldDecl)} :
      Expands declarations (.type tree.type) before use between →
      Expands declarations (.fields rest) between others after →
      Expands declarations (.fields (tree :: rest)) before
        ((Checked.both (fieldOf tree use) others).map fun (field, fields) => field :: fields) after

end Expansion

/-- What a call yields within the fields of the open structs. -/
def Declarations.result (declarations : Declarations) (opened : List String) :
    (call : Expansion.Call) → call.Result
  | .type type => declarations.typeUse opened type
  | .types types => declarations.typeUses opened types
  | .path segments => declarations.pathClass opened segments
  | .struct item => declarations.structClass opened item
  | .fields trees => declarations.fields opened trees

namespace Expansion

open Declarations (typeUse typeUses pathClass structClass fields)

variable {declarations : Declarations}

/-! ## Calls leave the stack as it was -/

theorem Expands.restores {call : Call} {before after : List String} {result : call.Result}
    (run : Expands declarations call before result after) : after = before := by
  induction run with
  | enclosed _ restored => exact restored
  | list _ restored => exact restored
  | wrapped _ _ _ restored => exact restored
  | faultyArguments _ _ _ restored => exact restored
  | named _ _ _ _ first second => exact second.trans first
  | faultyType _ restored => exact restored
  | types _ _ first second => exact second.trans first
  | declared _ _ _ restored => exact restored
  | struct _ _ _ restored => rw [restored, List.tail_cons]
  | field _ _ first second => exact second.trans first
  | unit | unsupported | noTypes | opened | enum | undeclared | foreign | faultyTags | fieldless
    | tuple | noFields => rfl

/-! ## Calls yield what the functions yield -/

section

variable {opened : List String}

theorem typeUse_list (element : TypeTree) :
    typeUse declarations opened (.list element) =
      (typeUse declarations opened element).map fun use => TypeUse.named "Vec" [use] := by
  rw [typeUse]
  exact bind_pure_comp _ _

theorem typeUse_unsupported {type : TypeTree}
    (unsupported : type = .bound ∨ type = .other ∨ ∃ segments, type = .path .qualified segments) :
    typeUse declarations opened type = .error (Fault.of .unsupportedType) := by
  rcases unsupported with rfl | rfl | ⟨segments, rfl⟩
  · rw [typeUse]
  · rw [typeUse]
  · rw [typeUse]

theorem typeUse_wrapped {start : PathStart} {segments : List PathSegment} {name : String}
    {type : TypeTree} (unqualified : start ≠ .qualified)
    (wrapper : wrapped? segments = some (name, type)) :
    typeUse declarations opened (.path start segments) =
      (typeUse declarations opened type).map fun use =>
        { use with nullable := use.nullable || name == "Option" } := by
  rw [typeUse]
  · split
    · next found =>
        obtain ⟨rfl, rfl⟩ := Prod.mk.inj (Option.some.inj (wrapper.symm.trans found))
        exact bind_pure_comp _ _
    · next found => cases wrapper.symm.trans found
  · exact unqualified

theorem typeUse_named {start : PathStart} {segments : List PathSegment}
    (unqualified : start ≠ .qualified) (unwrapped : wrapped? segments = none) :
    typeUse declarations opened (.path start segments) =
      typeUses declarations opened (typeArguments segments) >>= fun arguments =>
        (pathClass declarations opened segments).map fun target => { target, arguments } := by
  rw [typeUse]
  · split
    · next found => cases unwrapped.symm.trans found
    · next found => rfl
  · exact unqualified

theorem typeUses_cons (type : TypeTree) (rest : List TypeTree) :
    typeUses declarations opened (type :: rest) =
      typeUse declarations opened type >>= fun use =>
        (typeUses declarations opened rest).map fun uses => use :: uses := by
  rw [typeUses]
  rfl

theorem pathClass_opened {segment : PathSegment} (member : segment.name ∈ opened) :
    pathClass declarations opened [segment] =
      .ok { name := QualifiedName.bare segment.name } := by
  rw [pathClass, dif_pos (List.contains_iff_mem.mpr member)]

theorem pathClass_closed {segment : PathSegment} (closed : segment.name ∉ opened) :
    pathClass declarations opened [segment] =
      match declarations.struct? segment.name with
      | some item => structClass declarations opened item
      | none =>
          match declarations.enum? segment.name with
          | some item => .ok item.toClass
          | none => .ok { name := QualifiedName.ofPath segment.name } := by
  rw [pathClass, dif_neg (by simpa using closed)]
  split
  · next found => simp only [found]
  · next found =>
      cases declarations.enum? segment.name with
      | some item => simp only [found]
      | none => simp only [found]

theorem pathClass_foreign {segments : List PathSegment} (several : segments.length ≠ 1) :
    pathClass declarations opened segments =
      .ok { name := QualifiedName.ofPath (pathText segments) } := by
  rw [pathClass]
  rintro segment rfl
  exact several rfl

theorem structClass_eq (item : StructTree) :
    structClass declarations opened item =
      AttributeTree.tags AttributeTree.classTag? item.attributes >>= fun tags =>
        match item.fields with
        | .none => .ok { name := QualifiedName.bare item.name, tags }
        | .unnamed => .error (Fault.of .tupleStruct)
        | .named trees =>
            (fields declarations (item.name :: opened) trees).together.map fun fields =>
              { name := QualifiedName.bare item.name, tags, fields } := by
  rw [structClass]
  congr 1
  funext tags
  obtain ⟨attributes, name, shape⟩ := item
  cases shape with
  | none => rfl
  | unnamed => rfl
  | named trees => exact bind_pure_comp _ _

theorem fields_cons (tree : FieldTree) (rest : List FieldTree) :
    fields declarations opened (tree :: rest) =
      (Checked.both (fieldOf tree (typeUse declarations opened tree.type))
        (fields declarations opened rest)).map fun (field, fields) => field :: fields := by
  rw [fields]
  rfl

end

theorem Expands.yields {call : Call} {before after : List String} {result : call.Result}
    (run : Expands declarations call before result after) :
    result = declarations.result before call := by
  induction run with
  | enclosed _ yields => rw [yields, Declarations.result, Declarations.result, typeUse]
  | list _ yields => rw [yields, Declarations.result, Declarations.result, typeUse_list]
  | unit => rw [Declarations.result, typeUse]
  | unsupported unsupported => rw [Declarations.result, typeUse_unsupported unsupported]
  | wrapped unqualified wrapper _ yields =>
      rw [yields, Declarations.result, Declarations.result, typeUse_wrapped unqualified wrapper]
  | faultyArguments unqualified unwrapped _ yields =>
      rw [Declarations.result] at yields
      rw [Declarations.result, typeUse_named unqualified unwrapped, ← yields]
      rfl
  | named unqualified unwrapped first _ yields target =>
      cases first.restores
      simp only [Declarations.result] at yields target
      rw [Declarations.result, typeUse_named unqualified unwrapped, ← yields, target]
      rfl
  | noTypes => rw [Declarations.result, typeUses]
  | faultyType _ yields =>
      rw [Declarations.result] at yields
      rw [Declarations.result, typeUses_cons, ← yields]
      rfl
  | types first _ yields others =>
      cases first.restores
      simp only [Declarations.result] at yields others
      rw [Declarations.result, typeUses_cons, ← yields, others]
      rfl
  | opened member => rw [Declarations.result, pathClass_opened member]
  | declared closed found _ yields =>
      rw [Declarations.result] at yields
      rw [Declarations.result, pathClass_closed closed, found, yields]
  | enum closed undeclared found =>
      rw [Declarations.result, pathClass_closed closed, undeclared, found]
  | undeclared closed undeclared unknown =>
      rw [Declarations.result, pathClass_closed closed, undeclared, unknown]
  | foreign several => rw [Declarations.result, pathClass_foreign several]
  | faultyTags faulty =>
      rw [Declarations.result, structClass_eq, faulty]
      rfl
  | fieldless tagged shape =>
      rw [Declarations.result, structClass_eq, tagged, shape]
      rfl
  | tuple tagged shape =>
      rw [Declarations.result, structClass_eq, tagged, shape]
      rfl
  | struct tagged shape _ yields =>
      rw [Declarations.result] at yields
      rw [Declarations.result, structClass_eq, tagged, shape, yields]
      rfl
  | noFields => rw [Declarations.result, fields]
  | field first _ use others =>
      cases first.restores
      simp only [Declarations.result] at use others
      rw [Declarations.result, fields_cons, use, others]

/-! ## Every call ends -/

-- A call opens a struct that was not open, which leaves fewer to open, or it is about a part of
-- the syntax that the call before it is about.

mutual

theorem expands_typeUse (opened : List String) (type : TypeTree) :
    Expands declarations (.type type) opened (typeUse declarations opened type) opened := by
  cases type with
  | enclosed type =>
      rw [typeUse]
      exact .enclosed (expands_typeUse opened type)
  | list element =>
      rw [typeUse_list]
      exact .list (expands_typeUse opened element)
  | unit =>
      rw [typeUse]
      exact .unit
  | bound =>
      rw [typeUse]
      exact .unsupported (.inl rfl)
  | other =>
      rw [typeUse]
      exact .unsupported (.inr (.inl rfl))
  | path start segments =>
      by_cases qualified : start = .qualified
      · subst start
        rw [typeUse]
        exact .unsupported (.inr (.inr ⟨segments, rfl⟩))
      · cases wrapper : wrapped? segments with
        | some found =>
            obtain ⟨name, type⟩ := found
            have := sizeOf_wrapped?_lt wrapper
            rw [typeUse_wrapped qualified wrapper]
            exact .wrapped qualified wrapper (expands_typeUse opened type)
        | none =>
            have := sizeOf_typeArguments segments
            have run := expands_typeUses opened (typeArguments segments)
            rw [typeUse_named qualified wrapper]
            cases found : typeUses declarations opened (typeArguments segments) with
            | error fault =>
                rw [found] at run
                exact .faultyArguments qualified wrapper run
            | ok arguments =>
                rw [found] at run
                exact .named qualified wrapper run (expands_pathClass opened segments)
termination_by ((declarations.unopened opened).length, sizeOf type)

theorem expands_typeUses (opened : List String) (types : List TypeTree) :
    Expands declarations (.types types) opened (typeUses declarations opened types) opened := by
  cases types with
  | nil =>
      rw [typeUses]
      exact .noTypes
  | cons type rest =>
      have run := expands_typeUse opened type
      rw [typeUses_cons]
      cases found : typeUse declarations opened type with
      | error fault =>
          rw [found] at run
          exact .faultyType run
      | ok use =>
          rw [found] at run
          exact .types run (expands_typeUses opened rest)
termination_by ((declarations.unopened opened).length, sizeOf types)

theorem expands_pathClass (opened : List String) (segments : List PathSegment) :
    Expands declarations (.path segments) opened (pathClass declarations opened segments)
      opened := by
  by_cases single : segments.length = 1
  · obtain ⟨segment, rfl⟩ := List.length_eq_one_iff.mp single
    by_cases member : segment.name ∈ opened
    · rw [pathClass_opened member]
      exact .opened member
    · rw [pathClass_closed member]
      cases found : declarations.struct? segment.name with
      | some item =>
          have := Declarations.unopened_cons_lt found (by simpa using member)
          exact .declared member found (expands_structClass opened item)
      | none =>
          cases known : declarations.enum? segment.name with
          | some item => exact .enum member found known
          | none => exact .undeclared member found known
  · rw [pathClass_foreign single]
    exact .foreign single
termination_by ((declarations.unopened opened).length, sizeOf segments)

theorem expands_structClass (opened : List String) (item : StructTree) :
    Expands declarations (.struct item) opened (structClass declarations opened item) opened := by
  rw [structClass_eq]
  cases tagged : AttributeTree.tags AttributeTree.classTag? item.attributes with
  | error fault => exact .faultyTags tagged
  | ok tags =>
      cases shape : item.fields with
      | none => exact .fieldless tagged shape
      | unnamed => exact .tuple tagged shape
      | named trees =>
          have : sizeOf trees < sizeOf item.fields := by simp [shape]
          exact .struct tagged shape (expands_fields (item.name :: opened) trees)
termination_by ((declarations.unopened (item.name :: opened)).length, sizeOf item.fields)

theorem expands_fields (opened : List String) (trees : List FieldTree) :
    Expands declarations (.fields trees) opened (fields declarations opened trees) opened := by
  cases trees with
  | nil =>
      rw [fields]
      exact .noFields
  | cons tree rest =>
      obtain ⟨attributes, name, type⟩ := tree
      rw [fields_cons]
      exact .field (expands_typeUse opened type) (expands_fields opened rest)
termination_by ((declarations.unopened opened).length, sizeOf trees)

end

theorem expands_result (call : Call) (stack : List String) :
    Expands declarations call stack (declarations.result stack call) stack := by
  cases call with
  | type type => exact expands_typeUse stack type
  | types types => exact expands_typeUses stack types
  | path segments => exact expands_pathClass stack segments
  | struct item => exact expands_structClass stack item
  | fields trees => exact expands_fields stack trees

/-- A call on a stack ends in one way: with the result of its function, and the same stack. -/
theorem expands_iff {call : Call} {before after : List String} {result : call.Result} :
    Expands declarations call before result after ↔
      result = declarations.result before call ∧ after = before := by
  constructor
  · intro run
    exact ⟨run.yields, run.restores⟩
  · rintro ⟨rfl, rfl⟩
    exact expands_result call after

end Expansion

end RowPlan
