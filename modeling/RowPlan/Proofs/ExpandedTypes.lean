import Mathlib.Logic.Relation
import RowPlan.Proofs.ExpansionStack
import RowPlan.Proofs.Success

/-!
# Expanded types

A type is a tree of fields and arguments. A struct is open while its fields are expanded, and so
is not expanded again below them. Its arguments are outside of it: there it may be expanded again.
-/

namespace RowPlan

namespace TypeUse

/-- The types right below a type: those of the fields of its class, and its arguments. -/
inductive Step : TypeUse → TypeUse → Prop where
  | field {use : TypeUse} {field : FieldDecl} :
      field ∈ use.target.fields → Step use field.type
  | argument {use argument : TypeUse} :
      argument ∈ use.arguments → Step use argument

/-- A chain of fields and arguments leads from one type to another. -/
abbrev Reaches : TypeUse → TypeUse → Prop :=
  Relation.ReflTransGen Step

/-- Below the fields of a class, a class of its name is no more than a name. -/
def Unrepeated (root : TypeUse) : Prop :=
  ∀ outer field inner, root.Reaches outer → field ∈ outer.target.fields →
    field.type.Reaches inner → inner.name = outer.name → inner.target.fields = []

end TypeUse

/-- A type that has a name and arguments. -/
def TypeTree.named (name : String) (arguments : List TypeTree) : TypeTree :=
  .path .plain [.segment name (some (arguments.map PathArgument.type))]

namespace Expansion

open Declarations (typeUse typeUses pathClass structClass)

/-! ## Types within open structs -/

mutual

/-- A class within open structs: one that has fields is a struct that was not open. -/
inductive ExpandedClass : List String → ClassDecl → Prop where
  | name {opened : List String} {cls : ClassDecl} :
      cls.fields = [] → ExpandedClass opened cls
  | struct {opened : List String} {cls : ClassDecl} {name : String} :
      cls.name = QualifiedName.bare name → name ∉ opened →
      (∀ field, field ∈ cls.fields → Expanded (name :: opened) field.type) →
      ExpandedClass opened cls

/-- A type within open structs. -/
inductive Expanded : List String → TypeUse → Prop where
  | use {opened : List String} {use : TypeUse} :
      ExpandedClass opened use.target →
      (∀ argument, argument ∈ use.arguments → Expanded opened argument) →
      Expanded opened use

end

/-- Structs only become open on the way down. -/
theorem Expanded.step {opened : List String} {use below : TypeUse}
    (expanded : Expanded opened use) (step : use.Step below) :
    ∃ deeper, opened ⊆ deeper ∧ Expanded deeper below := by
  obtain ⟨cls, arguments⟩ := expanded
  cases step with
  | argument member => exact ⟨opened, List.Subset.refl opened, arguments _ member⟩
  | field member =>
      cases cls with
      | name fieldless => simp [fieldless] at member
      | @struct _ _ name _ _ fields =>
          exact ⟨name :: opened, List.subset_cons_self name opened, fields _ member⟩

theorem Expanded.reaches {opened : List String} {root use : TypeUse}
    (expanded : Expanded opened root) (chain : root.Reaches use) :
    ∃ deeper, opened ⊆ deeper ∧ Expanded deeper use := by
  induction chain with
  | refl => exact ⟨opened, List.Subset.refl opened, expanded⟩
  | tail _ step induction =>
      obtain ⟨deeper, within, reached⟩ := induction
      obtain ⟨deepest, further, below⟩ := reached.step step
      exact ⟨deepest, List.Subset.trans within further, below⟩

theorem Expanded.fields_eq_nil {opened : List String} {use : TypeUse} {name : String}
    (expanded : Expanded opened use) (member : name ∈ opened)
    (named : use.name = QualifiedName.bare name) : use.target.fields = [] := by
  obtain ⟨cls, _⟩ := expanded
  cases cls with
  | name fieldless => exact fieldless
  | @struct _ _ other otherName closed _ =>
      have same : other = name := congrArg QualifiedName.name (otherName.symm.trans named)
      exact absurd (same ▸ member) closed

theorem Expanded.unrepeated {opened : List String} {root : TypeUse}
    (expanded : Expanded opened root) : root.Unrepeated := by
  intro outer field inner above member below sameName
  obtain ⟨deeper, _, cls, _⟩ := expanded.reaches above
  cases cls with
  | name fieldless => simp [fieldless] at member
  | @struct _ _ name named _ fields =>
      obtain ⟨deepest, within, reached⟩ := (fields field member).reaches below
      apply reached.fields_eq_nil (within List.mem_cons_self)
      exact sameName.trans named

/-! ## What calls yield -/

variable {declarations : Declarations}

/-- What a call yields lies within the open structs. A struct is only expanded while it is not
open. -/
def Call.Fits (opened : List String) : (call : Call) → call.Result → Prop
  | .type _, result => ∀ use, result = .ok use → Expanded opened use
  | .types _, result =>
      ∀ uses, result = .ok uses → ∀ use, use ∈ uses → Expanded opened use
  | .path _, result => ∀ cls, result = .ok cls → ExpandedClass opened cls
  | .struct item, result =>
      item.name ∉ opened → ∀ cls, result = .ok cls → ExpandedClass opened cls
  | .fields _, result =>
      ∀ fields, result = .ok fields → ∀ field, field ∈ fields → Expanded opened field.type

theorem expanded_named {opened : List String} {path : String} {arguments : List TypeUse}
    (each : ∀ argument, argument ∈ arguments → Expanded opened argument) :
    Expanded opened (TypeUse.named path arguments) :=
  .use (.name rfl) each

theorem Expanded.withNullable {opened : List String} {use : TypeUse}
    (expanded : Expanded opened use) (nullable : Bool) :
    Expanded opened { use with nullable } := by
  obtain ⟨cls, arguments⟩ := expanded
  exact .use cls arguments

theorem fieldOf_eq_ok {tree : FieldTree} {use : Except Fault TypeUse} {field : FieldDecl}
    (success : fieldOf tree use = .ok field) : use = .ok field.type := by
  obtain ⟨⟨type, tags⟩, both, rfl⟩ := map_eq_ok_iff.mp success
  exact Checked.of_eq_ok_iff.mp (Checked.both_eq_ok_iff.mp both).1

theorem Expands.fits {call : Call} {before after : List String} {result : call.Result}
    (run : Expands declarations call before result after) : call.Fits before result := by
  induction run with
  | enclosed _ fits => exact fits
  | list _ fits =>
      intro use success
      obtain ⟨element, found, rfl⟩ := map_eq_ok_iff.mp success
      exact expanded_named (List.forall_mem_singleton.mpr (fits element found))
  | unit =>
      rintro use ⟨⟩
      exact expanded_named nofun
  | unsupported => rintro use ⟨⟩
  | wrapped _ _ _ fits =>
      intro use success
      obtain ⟨inner, found, rfl⟩ := map_eq_ok_iff.mp success
      exact (fits inner found).withNullable _
  | faultyArguments => rintro use ⟨⟩
  | @named _ _ _ _ _ arguments _ _ _ first _ fits target =>
      -- The class is expanded on the stack that its arguments leave, so they are outside of it.
      cases first.restores
      intro use success
      obtain ⟨cls, found, rfl⟩ := map_eq_ok_iff.mp success
      exact .use (target cls found) (fits arguments rfl)
  | noTypes =>
      rintro uses ⟨⟩
      exact nofun
  | faultyType => rintro uses ⟨⟩
  | @types _ _ _ _ _ use _ first _ fits others =>
      cases first.restores
      intro uses success
      obtain ⟨rest, found, rfl⟩ := map_eq_ok_iff.mp success
      exact List.forall_mem_cons.mpr ⟨fits use rfl, others rest found⟩
  | opened =>
      rintro cls ⟨⟩
      exact .name rfl
  | declared closed found _ fits =>
      obtain ⟨_, sameName⟩ := Declarations.struct?_eq_some found
      exact fits (sameName ▸ closed)
  | enum =>
      rintro cls ⟨⟩
      exact .name rfl
  | undeclared =>
      rintro cls ⟨⟩
      exact .name rfl
  | foreign =>
      rintro cls ⟨⟩
      exact .name rfl
  | faultyTags => rintro _ cls ⟨⟩
  | fieldless =>
      rintro _ cls ⟨⟩
      exact .name rfl
  | tuple => rintro _ cls ⟨⟩
  | struct _ _ _ fits =>
      intro closed cls success
      obtain ⟨found, together, rfl⟩ := map_eq_ok_iff.mp success
      exact .struct rfl closed (fits found (Checked.together_eq_ok_iff.mp together))
  | noFields =>
      rintro fields ⟨⟩
      exact nofun
  | field first _ fits others =>
      cases first.restores
      intro fields success
      obtain ⟨⟨field, rest⟩, both, rfl⟩ := map_eq_ok_iff.mp success
      obtain ⟨found, restFound⟩ := Checked.both_eq_ok_iff.mp both
      exact List.forall_mem_cons.mpr ⟨fits field.type (fieldOf_eq_ok found), others rest restFound⟩

/-- Expansion ends, each call with the stack of open structs as it was. In what it yields, no
struct is expanded again below its own fields. -/
theorem expansion_unrepeated (declarations : Declarations) :
    (∀ (call : Call) (before after : List String) (result : call.Result),
      Expands declarations call before result after ↔
        result = declarations.result before call ∧ after = before) ∧
    (∀ type use, declarations.typeUse [] type = .ok use → use.Unrepeated) ∧
    (∀ item cls, declarations.structClass [] item = .ok cls →
      TypeUse.Unrepeated { target := cls }) := by
  refine ⟨fun _ _ _ _ => expands_iff, ?_, ?_⟩
  · intro type use success
    exact ((expands_typeUse [] type).fits use success).unrepeated
  · intro item cls success
    have expanded := (expands_structClass [] item).fits List.not_mem_nil cls success
    exact Expanded.unrepeated (.use expanded nofun)

/-! ### Pairs -/

namespace Pair

/-- A pair of values of one type. -/
def item : StructTree where
  attributes := []
  name := "Pair"
  fields := .named [⟨[], "first", .named "T" []⟩, ⟨[], "second", .named "T" []⟩]

def pairs : Declarations where
  structs := [item]
  enums := []

/-- The class of pairs, whose parameter is the name of a class. -/
def cls : ClassDecl where
  name := .bare "Pair"
  fields := [⟨"first", .named "T", []⟩, ⟨"second", .named "T", []⟩]

theorem typeUse_unwrapped {opened : List String} {name : String} {types : List TypeTree}
    (unwrapped : wrapped? [.segment name (some (types.map PathArgument.type))] = none) :
    typeUse pairs opened (.named name types) =
      typeUses pairs opened
        (typeArguments [.segment name (some (types.map PathArgument.type))]) >>= fun arguments =>
          (pathClass pairs opened [.segment name (some (types.map PathArgument.type))]).map
            fun target => { target, arguments } := by
  have unqualified : PathStart.plain ≠ .qualified := nofun
  exact typeUse_named unqualified unwrapped

theorem typeUse_undeclared {opened : List String} {name : String} (closed : name ∉ opened)
    (undeclared : pairs.struct? name = none) :
    typeUse pairs opened (.named name []) = .ok (TypeUse.named name) := by
  have arguments : typeUses pairs opened [] = .ok [] := by rw [typeUses]
  have target : pathClass pairs opened [.segment name (some [])] =
      .ok { name := QualifiedName.ofPath name } := by
    rw [pathClass_closed closed, PathSegment.name, undeclared]
    rfl
  rw [typeUse_unwrapped rfl]
  exact bind_eq_ok_iff.mpr ⟨[], arguments, map_eq_ok_iff.mpr ⟨_, target, rfl⟩⟩

theorem structClass_item : structClass pairs [] item = .ok cls := by
  have parameter : typeUse pairs ["Pair"] (.named "T" []) = .ok (TypeUse.named "T") :=
    typeUse_undeclared (by decide) rfl
  have fields : Declarations.fields pairs ["Pair"]
      [⟨[], "first", .named "T" []⟩, ⟨[], "second", .named "T" []⟩] = .ok cls.fields := by
    rw [fields_cons, fields_cons, Declarations.fields, parameter]
    rfl
  rw [structClass_eq, item]
  simp only [fields]
  rfl

theorem typeUse_pair {type : TypeTree} {use : TypeUse} (found : typeUse pairs [] type = .ok use) :
    typeUse pairs [] (.named "Pair" [type]) = .ok { target := cls, arguments := [use] } := by
  have arguments : typeUses pairs [] [type] = .ok [use] := by
    rw [typeUses_cons, typeUses, found]
    rfl
  have target : pathClass pairs [] [.segment "Pair" (some [.type type])] = .ok cls := by
    rw [pathClass_closed List.not_mem_nil]
    exact structClass_item
  rw [typeUse_unwrapped rfl]
  exact bind_eq_ok_iff.mpr ⟨[use], arguments, map_eq_ok_iff.mpr ⟨cls, target, rfl⟩⟩

end Pair

/-- A pair of pairs: both of the classes have fields, and the same name. -/
theorem pairOfPairs_repeats :
    ∃ use argument,
      Pair.pairs.typeUse [] (.named "Pair" [.named "Pair" [.named "i64" []]]) =
        .ok use ∧
      argument ∈ use.arguments ∧ argument.name = use.name ∧
      use.target.fields ≠ [] ∧ argument.target.fields ≠ [] := by
  have number : typeUse Pair.pairs [] (.named "i64" []) = .ok (TypeUse.named "i64") :=
    Pair.typeUse_undeclared List.not_mem_nil rfl
  have pairOfPairs := Pair.typeUse_pair (Pair.typeUse_pair number)
  exact ⟨_, _, pairOfPairs, List.mem_cons_self, rfl, nofun, nofun⟩

end Expansion

end RowPlan
