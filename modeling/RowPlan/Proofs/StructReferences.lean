import Mathlib.Logic.Relation
import RowPlan.Proofs.ExpandedTypes
import RowPlan.Proofs.ExpansionStack

/-!
# References between structs

A struct refers to the names that are looked up in the types of its fields. What a type expands
to depends on the open structs only as far as references lead to them. Without a cycle of
references none leads to an open struct, and a struct is expanded alike wherever it is named.
-/

namespace RowPlan

/-- A name is looked up in a type. -/
inductive TypeTree.Mentions : TypeTree → String → Prop where
  | enclosed {type : TypeTree} {name : String} :
      type.Mentions name → Mentions (.enclosed type) name
  | list {element : TypeTree} {name : String} :
      element.Mentions name → Mentions (.list element) name
  | argument {start : PathStart} {segments : List PathSegment} {argument : TypeTree}
      {name : String} :
      start ≠ .qualified → argument ∈ typeArguments segments → argument.Mentions name →
      Mentions (.path start segments) name
  | path {start : PathStart} {segment : PathSegment} {name : String} :
      start ≠ .qualified → wrapped? [segment] = none → segment.name = name →
      Mentions (.path start [segment]) name

/-- A name is looked up in the type of a field. -/
def StructTree.Mentions (item : StructTree) (name : String) : Prop :=
  ∃ trees tree, item.fields = .named trees ∧ tree ∈ trees ∧ tree.type.Mentions name

theorem mem_typeArguments_of_wrapped {segments : List PathSegment} {name : String}
    {type : TypeTree} (wrapper : wrapped? segments = some (name, type)) :
    type ∈ typeArguments segments := by
  unfold wrapped? at wrapper
  split at wrapper
  · next only _ types _ =>
      split at wrapper
      · cases wrapper
        rw [types]
        exact List.mem_cons_self
      · cases wrapper
  · cases wrapper

namespace Declarations

/-- A declared struct of one name has a field whose type mentions the other. -/
def Refers (declarations : Declarations) (name other : String) : Prop :=
  ∃ item, item ∈ declarations.structs ∧ item.name = name ∧ item.Mentions other

/-- No chain of references leads back to where it began. -/
def Acyclic (declarations : Declarations) : Prop :=
  ∀ name, ¬ Relation.TransGen declarations.Refers name name

/-- The class of a declared struct, as it is outside of all structs. -/
def Declares (declarations : Declarations) (cls : ClassDecl) : Prop :=
  ∃ item, item ∈ declarations.structs ∧ cls.name = .bare item.name ∧
    declarations.structClass [] item = .ok cls

/-- All classes with fields in a type are those of declared structs. -/
def DeclaresAll (declarations : Declarations) (root : TypeUse) : Prop :=
  ∀ use, root.Reaches use → use.target.fields ≠ [] → declarations.Declares use.target

variable {declarations : Declarations}

theorem acyclic_of_rank {rank : String → Nat}
    (descends : ∀ name other, declarations.Refers name other → rank other < rank name) :
    declarations.Acyclic := by
  have below : ∀ name other, Relation.TransGen declarations.Refers name other →
      rank other < rank name := by
    intro name other chain
    induction chain with
    | single refers => exact descends _ _ refers
    | tail _ refers induction => exact Nat.lt_trans (descends _ _ refers) induction
  intro name cycle
  exact Nat.lt_irrefl _ (below name name cycle)

theorem declaresAll_iff {root : TypeUse} :
    declarations.DeclaresAll root ↔
      (root.target.fields ≠ [] → declarations.Declares root.target) ∧
      (∀ field, field ∈ root.target.fields → declarations.DeclaresAll field.type) ∧
      ∀ argument, argument ∈ root.arguments → declarations.DeclaresAll argument := by
  constructor
  · intro all
    refine ⟨all root .refl, ?_, ?_⟩
    · intro field member use chain
      exact all use (.head (.field member) chain)
    · intro argument member use chain
      exact all use (.head (.argument member) chain)
  · rintro ⟨here, fields, arguments⟩ use chain
    rcases chain.cases_head with rfl | ⟨next, step, chain⟩
    · exact here
    · cases step with
      | field member => exact fields _ member use chain
      | argument member => exact arguments next member use chain

theorem declaresAll_of_fieldless {use : TypeUse} (fieldless : use.target.fields = [])
    (arguments : ∀ argument, argument ∈ use.arguments → declarations.DeclaresAll argument) :
    declarations.DeclaresAll use := by
  apply declaresAll_iff.mpr
  refine ⟨fun some => (some fieldless).elim, ?_, arguments⟩
  intro field member
  rw [fieldless] at member
  cases member

theorem DeclaresAll.withNullable {use : TypeUse} (all : declarations.DeclaresAll use)
    (nullable : Bool) : declarations.DeclaresAll { use with nullable } := by
  obtain ⟨here, fields, arguments⟩ := declaresAll_iff.mp all
  exact declaresAll_iff.mpr ⟨here, fields, arguments⟩

end Declarations

namespace Expansion

open Declarations (typeUse typeUses pathClass structClass fields)

variable {declarations : Declarations}

/-! ## Names that a call reaches -/

/-- A call looks a name up, unless in a struct that it opens. -/
def Call.Mentions : Call → String → Prop
  | .type tree, name => tree.Mentions name
  | .types trees, name => ∃ tree, tree ∈ trees ∧ tree.Mentions name
  | .path segments, name => ∃ segment, segments = [segment] ∧ segment.name = name
  | .struct item, name => item.Mentions name
  | .fields trees, name => ∃ tree, tree ∈ trees ∧ tree.type.Mentions name

/-- References lead from a name that a call mentions to this name. -/
def Call.Reaches (declarations : Declarations) (call : Call) (name : String) : Prop :=
  ∃ first, call.Mentions first ∧ Relation.ReflTransGen declarations.Refers first name

/-- A call that another one makes on its way. -/
inductive Call.PartOf (declarations : Declarations) : Call → Call → Prop where
  | enclosed {type : TypeTree} : PartOf declarations (.type type) (.type (.enclosed type))
  | element {type : TypeTree} : PartOf declarations (.type type) (.type (.list type))
  | wrapped {start : PathStart} {segments : List PathSegment} {name : String} {type : TypeTree} :
      start ≠ .qualified → wrapped? segments = some (name, type) →
      PartOf declarations (.type type) (.type (.path start segments))
  | arguments {start : PathStart} {segments : List PathSegment} :
      start ≠ .qualified →
      PartOf declarations (.types (typeArguments segments)) (.type (.path start segments))
  | target {start : PathStart} {segments : List PathSegment} :
      start ≠ .qualified → wrapped? segments = none →
      PartOf declarations (.path segments) (.type (.path start segments))
  | firstType {type : TypeTree} {rest : List TypeTree} :
      PartOf declarations (.type type) (.types (type :: rest))
  | otherTypes {type : TypeTree} {rest : List TypeTree} :
      PartOf declarations (.types rest) (.types (type :: rest))
  | declared {segment : PathSegment} {item : StructTree} :
      declarations.struct? segment.name = some item →
      PartOf declarations (.struct item) (.path [segment])
  | fields {item : StructTree} {trees : List FieldTree} :
      item.fields = .named trees → PartOf declarations (.fields trees) (.struct item)
  | firstField {tree : FieldTree} {rest : List FieldTree} :
      PartOf declarations (.type tree.type) (.fields (tree :: rest))
  | otherFields {tree : FieldTree} {rest : List FieldTree} :
      PartOf declarations (.fields rest) (.fields (tree :: rest))

/-- What a part of a call mentions is mentioned by the call, or what the call mentions refers
to it. -/
theorem Call.PartOf.reaches_mentioned {part call : Call} {name : String}
    (within : part.PartOf declarations call) (mentions : part.Mentions name) :
    call.Reaches declarations name := by
  cases within with
  | enclosed => exact ⟨name, TypeTree.Mentions.enclosed mentions, .refl⟩
  | element => exact ⟨name, TypeTree.Mentions.list mentions, .refl⟩
  | wrapped unqualified wrapper =>
      have member := mem_typeArguments_of_wrapped wrapper
      exact ⟨name, TypeTree.Mentions.argument unqualified member mentions, .refl⟩
  | arguments unqualified =>
      obtain ⟨type, member, mentions⟩ := mentions
      exact ⟨name, TypeTree.Mentions.argument unqualified member mentions, .refl⟩
  | target unqualified unwrapped =>
      obtain ⟨segment, rfl, named⟩ := mentions
      exact ⟨name, TypeTree.Mentions.path unqualified unwrapped named, .refl⟩
  | firstType => exact ⟨name, ⟨_, List.mem_cons_self, mentions⟩, .refl⟩
  | otherTypes =>
      obtain ⟨type, member, mentions⟩ := mentions
      exact ⟨name, ⟨type, List.mem_cons_of_mem _ member, mentions⟩, .refl⟩
  | @declared segment item found =>
      obtain ⟨member, named⟩ := Declarations.struct?_eq_some found
      have refers : declarations.Refers segment.name name := ⟨item, member, named, mentions⟩
      exact ⟨segment.name, ⟨segment, rfl, rfl⟩, .single refers⟩
  | fields shape =>
      obtain ⟨tree, member, mentions⟩ := mentions
      exact ⟨name, ⟨_, tree, shape, member, mentions⟩, .refl⟩
  | firstField => exact ⟨name, ⟨_, List.mem_cons_self, mentions⟩, .refl⟩
  | otherFields =>
      obtain ⟨tree, member, mentions⟩ := mentions
      exact ⟨name, ⟨tree, List.mem_cons_of_mem _ member, mentions⟩, .refl⟩

theorem Call.PartOf.reaches {part call : Call} {name : String}
    (within : part.PartOf declarations call) (reaches : part.Reaches declarations name) :
    call.Reaches declarations name := by
  obtain ⟨first, mentions, chain⟩ := reaches
  obtain ⟨start, mentioned, before⟩ := within.reaches_mentioned mentions
  exact ⟨start, mentioned, before.trans chain⟩

/-! ## Stacks that agree on what a call reaches -/

/-- The same of the names that a call reaches are open. -/
def Call.Alike (declarations : Declarations) (call : Call) (opened others : List String) : Prop :=
  ∀ name, call.Reaches declarations name → (name ∈ opened ↔ name ∈ others)

theorem Call.Alike.part {call part : Call} {opened others : List String}
    (alike : call.Alike declarations opened others) (within : part.PartOf declarations call) :
    part.Alike declarations opened others := by
  intro name reaches
  exact alike name (within.reaches reaches)

theorem Call.Alike.name {segment : PathSegment} {opened others : List String}
    (alike : Call.Alike declarations (.path [segment]) opened others) :
    segment.name ∈ opened ↔ segment.name ∈ others :=
  alike segment.name ⟨segment.name, ⟨segment, rfl, rfl⟩, .refl⟩

theorem Call.Alike.cons {call : Call} {opened others : List String}
    (alike : call.Alike declarations opened others) (name : String) :
    call.Alike declarations (name :: opened) (name :: others) := by
  intro other reaches
  rw [List.mem_cons, List.mem_cons, alike other reaches]

/-- Only open structs that a call reaches make a difference to it. -/
theorem Expands.result_eq {call : Call} {before after : List String} {result : call.Result}
    (run : Expands declarations call before result after) :
    ∀ others, call.Alike declarations before others →
      declarations.result before call = declarations.result others call := by
  induction run with
  | enclosed _ same =>
      intro others alike
      have inner := same others (alike.part .enclosed)
      simp only [Declarations.result] at inner ⊢
      rw [typeUse, typeUse, inner]
  | list _ same =>
      intro others alike
      have inner := same others (alike.part .element)
      simp only [Declarations.result] at inner ⊢
      rw [typeUse_list, typeUse_list, inner]
  | unit =>
      intro others _
      simp only [Declarations.result]
      rw [typeUse, typeUse]
  | unsupported unsupported =>
      intro others _
      simp only [Declarations.result]
      rw [typeUse_unsupported unsupported, typeUse_unsupported unsupported]
  | wrapped unqualified wrapper _ same =>
      intro others alike
      have inner := same others (alike.part (.wrapped unqualified wrapper))
      simp only [Declarations.result] at inner ⊢
      rw [typeUse_wrapped unqualified wrapper, typeUse_wrapped unqualified wrapper, inner]
  | faultyArguments unqualified unwrapped run same =>
      intro others alike
      have arguments := same others (alike.part (.arguments unqualified))
      have faulty := run.yields
      simp only [Declarations.result] at arguments faulty ⊢
      rw [typeUse_named unqualified unwrapped, typeUse_named unqualified unwrapped,
        ← arguments, ← faulty]
      rfl
  | named unqualified unwrapped first _ same target =>
      intro others alike
      cases first.restores
      have arguments := same others (alike.part (.arguments unqualified))
      have path := target others (alike.part (.target unqualified unwrapped))
      simp only [Declarations.result] at arguments path ⊢
      rw [typeUse_named unqualified unwrapped, typeUse_named unqualified unwrapped,
        ← arguments, ← path]
  | noTypes =>
      intro others _
      simp only [Declarations.result]
      rw [typeUses, typeUses]
  | faultyType run same =>
      intro others alike
      have first := same others (alike.part .firstType)
      have faulty := run.yields
      simp only [Declarations.result] at first faulty ⊢
      rw [typeUses_cons, typeUses_cons, ← first, ← faulty]
      rfl
  | types run _ same rest =>
      intro others alike
      cases run.restores
      have first := same others (alike.part .firstType)
      have later := rest others (alike.part .otherTypes)
      simp only [Declarations.result] at first later ⊢
      rw [typeUses_cons, typeUses_cons, ← first, ← later]
  | opened member =>
      intro others alike
      simp only [Declarations.result]
      rw [pathClass_opened member, pathClass_opened (alike.name.mp member)]
  | declared closed found _ same =>
      intro others alike
      have inner := same others (alike.part (.declared found))
      simp only [Declarations.result] at inner ⊢
      rw [pathClass_closed closed, pathClass_closed (mt alike.name.mpr closed), found]
      exact inner
  | enum closed undeclared =>
      intro others alike
      simp only [Declarations.result]
      rw [pathClass_closed closed, pathClass_closed (mt alike.name.mpr closed), undeclared]
  | undeclared closed undeclared =>
      intro others alike
      simp only [Declarations.result]
      rw [pathClass_closed closed, pathClass_closed (mt alike.name.mpr closed), undeclared]
  | foreign several =>
      intro others _
      simp only [Declarations.result]
      rw [pathClass_foreign several, pathClass_foreign several]
  | faultyTags faulty =>
      intro others _
      simp only [Declarations.result]
      rw [structClass_eq, structClass_eq, faulty]
      rfl
  | fieldless _ shape =>
      intro others _
      simp only [Declarations.result]
      rw [structClass_eq, structClass_eq, shape]
  | tuple _ shape =>
      intro others _
      simp only [Declarations.result]
      rw [structClass_eq, structClass_eq, shape]
  | @struct item _ _ _ _ _ _ shape _ same =>
      intro others alike
      have inner := same (item.name :: others) ((alike.part (.fields shape)).cons item.name)
      simp only [Declarations.result] at inner ⊢
      rw [structClass_eq, structClass_eq, shape]
      simp only [inner]
  | noFields =>
      intro others _
      simp only [Declarations.result]
      rw [fields, fields]
  | field run _ same rest =>
      intro others alike
      cases run.restores
      have first := same others (alike.part .firstField)
      have later := rest others (alike.part .otherFields)
      simp only [Declarations.result] at first later ⊢
      rw [fields_cons, fields_cons, ← first, ← later]

/-! ## Calls that reach no open struct -/

/-- None of the names that a call reaches is open. -/
def Call.Apart (declarations : Declarations) (call : Call) (opened : List String) : Prop :=
  ∀ name, call.Reaches declarations name → name ∉ opened

theorem Call.Apart.nil (call : Call) : call.Apart declarations [] := by
  intro name _
  exact List.not_mem_nil

theorem Call.Apart.part {call part : Call} {opened : List String}
    (apart : call.Apart declarations opened) (within : part.PartOf declarations call) :
    part.Apart declarations opened := by
  intro name reaches
  exact apart name (within.reaches reaches)

/-- Without cycles the fields of a struct do not reach the struct. -/
theorem Call.Apart.fields {item : StructTree} {trees : List FieldTree} {opened : List String}
    (apart : Call.Apart declarations (.struct item) opened) (acyclic : declarations.Acyclic)
    (declared : item ∈ declarations.structs) (shape : item.fields = .named trees) :
    Call.Apart declarations (.fields trees) (item.name :: opened) := by
  intro name reaches
  obtain ⟨first, mentions, chain⟩ := PartOf.reaches (.fields shape) reaches
  rw [List.mem_cons, not_or]
  constructor
  · rintro rfl
    have refers : declarations.Refers item.name first := ⟨item, declared, rfl, mentions⟩
    exact acyclic item.name (.head' refers chain)
  · exact apart name ⟨first, mentions, chain⟩

/-- Such a call yields what it yields outside of all structs. -/
theorem Call.Apart.result_eq {call : Call} {opened : List String}
    (apart : call.Apart declarations opened) :
    declarations.result opened call = declarations.result [] call := by
  apply (expands_result call opened).result_eq
  intro name reaches
  exact iff_of_false (apart name reaches) List.not_mem_nil

/-- The classes with fields that a call yields are those of declared structs, if it is about a
declared struct itself where it opens one. -/
def Call.Declared (declarations : Declarations) : (call : Call) → call.Result → Prop
  | .type _, result => ∀ use, result = .ok use → declarations.DeclaresAll use
  | .types _, result =>
      ∀ uses, result = .ok uses → ∀ use, use ∈ uses → declarations.DeclaresAll use
  | .path _, result => ∀ cls, result = .ok cls → declarations.DeclaresAll { target := cls }
  | .struct item, result =>
      item ∈ declarations.structs →
        ∀ cls, result = .ok cls → declarations.DeclaresAll { target := cls }
  | .fields _, result =>
      ∀ fields, result = .ok fields → ∀ field, field ∈ fields →
        declarations.DeclaresAll field.type

theorem Expands.declares (acyclic : declarations.Acyclic) {call : Call}
    {before after : List String} {result : call.Result}
    (run : Expands declarations call before result after) :
    call.Apart declarations before → call.Declared declarations result := by
  induction run with
  | enclosed _ declared =>
      intro apart
      exact declared (apart.part .enclosed)
  | list _ declared =>
      intro apart use success
      obtain ⟨element, found, rfl⟩ := map_eq_ok_iff.mp success
      have within := declared (apart.part .element) element found
      exact Declarations.declaresAll_of_fieldless rfl (List.forall_mem_singleton.mpr within)
  | unit =>
      rintro _ use ⟨⟩
      exact Declarations.declaresAll_of_fieldless rfl nofun
  | unsupported => rintro _ use ⟨⟩
  | wrapped unqualified wrapper _ declared =>
      intro apart use success
      obtain ⟨inner, found, rfl⟩ := map_eq_ok_iff.mp success
      exact (declared (apart.part (.wrapped unqualified wrapper)) inner found).withNullable _
  | faultyArguments => rintro _ use ⟨⟩
  | named unqualified unwrapped first _ declared target =>
      cases first.restores
      intro apart use success
      obtain ⟨cls, found, rfl⟩ := map_eq_ok_iff.mp success
      have arguments := declared (apart.part (.arguments unqualified)) _ rfl
      have whole := target (apart.part (.target unqualified unwrapped)) cls found
      obtain ⟨here, fields, _⟩ := Declarations.declaresAll_iff.mp whole
      exact Declarations.declaresAll_iff.mpr ⟨here, fields, arguments⟩
  | noTypes =>
      rintro _ uses ⟨⟩
      exact nofun
  | faultyType => rintro _ uses ⟨⟩
  | types first _ declared others =>
      cases first.restores
      intro apart uses success
      obtain ⟨rest, found, rfl⟩ := map_eq_ok_iff.mp success
      have here := declared (apart.part .firstType) _ rfl
      exact List.forall_mem_cons.mpr ⟨here, others (apart.part .otherTypes) rest found⟩
  | opened =>
      rintro _ cls ⟨⟩
      exact Declarations.declaresAll_of_fieldless rfl nofun
  | declared _ found _ declared =>
      intro apart
      obtain ⟨member, _⟩ := Declarations.struct?_eq_some found
      exact declared (apart.part (.declared found)) member
  | enum =>
      rintro _ cls ⟨⟩
      exact Declarations.declaresAll_of_fieldless rfl nofun
  | undeclared =>
      rintro _ cls ⟨⟩
      exact Declarations.declaresAll_of_fieldless rfl nofun
  | foreign =>
      rintro _ cls ⟨⟩
      exact Declarations.declaresAll_of_fieldless rfl nofun
  | faultyTags => rintro _ _ cls ⟨⟩
  | fieldless =>
      rintro _ _ cls ⟨⟩
      exact Declarations.declaresAll_of_fieldless rfl nofun
  | tuple => rintro _ _ cls ⟨⟩
  | @struct item _ before _ _ _ tagged shape run declared =>
      intro apart member cls success
      -- The struct is expanded as it is on its own: nothing that it reaches is open.
      have whole : structClass declarations before item = .ok cls :=
        (Expands.struct tagged shape run).yields.symm.trans success
      have alone : structClass declarations [] item = .ok cls :=
        (Call.Apart.result_eq apart).symm.trans whole
      obtain ⟨fields, together, rfl⟩ := map_eq_ok_iff.mp success
      have each := declared (apart.fields acyclic member shape) fields
        (Checked.together_eq_ok_iff.mp together)
      exact Declarations.declaresAll_iff.mpr ⟨fun _ => ⟨item, member, rfl, alone⟩, each, nofun⟩
  | noFields =>
      rintro _ fields ⟨⟩
      exact nofun
  | field first _ declared others =>
      cases first.restores
      intro apart fields success
      obtain ⟨⟨field, rest⟩, both, rfl⟩ := map_eq_ok_iff.mp success
      obtain ⟨found, restFound⟩ := Checked.both_eq_ok_iff.mp both
      have here := declared (apart.part .firstField) field.type (fieldOf_eq_ok found)
      exact List.forall_mem_cons.mpr ⟨here, others (apart.part .otherFields) rest restFound⟩

end Expansion

end RowPlan
