import RowPlan.Model
import RowPlan.Reading.Tags

/-!
# Classes from declarations

The structs and enums of a source text become classes wherever a type names
them. A struct within its own fields is kept as a name, so expansion ends: each
time a struct is opened, one struct less is left to open.
-/

namespace RowPlan

/-- The structs and enums that types may name. Of several with one name the last counts. -/
structure Declarations where
  structs : List StructTree
  enums : List EnumTree

namespace Declarations

/-- The struct that a name means. -/
def struct? (declarations : Declarations) (name : String) : Option StructTree :=
  declarations.structs.reverse.find? fun item => item.name == name

/-- The enum that a name means. -/
def enum? (declarations : Declarations) (name : String) : Option EnumTree :=
  declarations.enums.reverse.find? fun item => item.name == name

/-- The structs that are not open. -/
def unopened (declarations : Declarations) (opened : List String) : List StructTree :=
  declarations.structs.filter fun item => !opened.contains item.name

theorem struct?_eq_some {declarations : Declarations} {name : String} {item : StructTree}
    (found : declarations.struct? name = some item) :
    item ∈ declarations.structs ∧ item.name = name := by
  constructor
  · simpa using List.mem_of_find?_eq_some found
  · simpa using List.find?_some found

theorem unopened_cons_lt {declarations : Declarations} {opened : List String}
    {name : String} {item : StructTree} (found : declarations.struct? name = some item)
    (closed : opened.contains name = false) :
    (declarations.unopened (item.name :: opened)).length
      < (declarations.unopened opened).length := by
  obtain ⟨member, rfl⟩ := struct?_eq_some found
  have narrower : declarations.unopened (item.name :: opened)
      = (declarations.unopened opened).filter fun other => !decide (other.name = item.name) := by
    simp [unopened, List.filter_filter]
  rw [narrower]
  apply List.length_filter_lt_length_iff_exists.mpr
  exact ⟨item, by simp_all [unopened], by simp⟩

end Declarations

/-! ## Types -/

/-- The arguments of the last name of a path. -/
def lastArguments : List PathSegment → List PathArgument
  | [] => []
  | [segment] => segment.arguments.getD []
  | _ :: rest => lastArguments rest

/-- The types among arguments. -/
def argumentTypes : List PathArgument → List TypeTree
  | [] => []
  | .type type :: rest => type :: argumentTypes rest
  | .other :: rest => argumentTypes rest

theorem sizeOf_argumentTypes (arguments : List PathArgument) :
    sizeOf (argumentTypes arguments) ≤ sizeOf arguments := by
  induction arguments with
  | nil => simp [argumentTypes]
  | cons argument rest ih =>
      cases argument with
      | type type => simp [argumentTypes]; omega
      | other => simp [argumentTypes]; omega

theorem sizeOf_lastArguments (segments : List PathSegment) :
    sizeOf (lastArguments segments) ≤ sizeOf segments := by
  fun_induction lastArguments segments with
  | case1 => simp
  | case2 segment =>
      obtain ⟨name, arguments⟩ := segment
      cases arguments with
      | none => simp [PathSegment.arguments]
      | some arguments => simp [PathSegment.arguments]; omega
  | case3 first rest _ ih => simp; omega

/-- The types among the arguments of the last name of a path. -/
def typeArguments (segments : List PathSegment) : List TypeTree :=
  argumentTypes (lastArguments segments)

theorem sizeOf_typeArguments (segments : List PathSegment) :
    sizeOf (typeArguments segments) ≤ sizeOf segments :=
  Nat.le_trans (sizeOf_argumentTypes (lastArguments segments)) (sizeOf_lastArguments segments)

/-- A type that stands for the type that is its only argument: the name of the type, and the
argument. -/
def wrapped? (segments : List PathSegment) : Option (String × TypeTree) :=
  match typeArguments segments, segments.getLast? with
  | [type], some segment =>
      if ["Option", "Box", "Rc", "Arc"].contains segment.name then some (segment.name, type)
      else none
  | _, _ => none

theorem sizeOf_wrapped?_lt {segments : List PathSegment} {name : String} {type : TypeTree}
    (found : wrapped? segments = some (name, type)) : sizeOf type < sizeOf segments := by
  have bound := sizeOf_typeArguments segments
  unfold wrapped? at found
  split at found
  · next only segment types last =>
      split at found
      · obtain ⟨rfl, rfl⟩ := Prod.mk.inj (Option.some.inj found)
        simp [types] at bound
        omega
      · contradiction
  · contradiction

/-- The names of a path, with colons between them. -/
def pathText (segments : List PathSegment) : String :=
  "::".intercalate (segments.map PathSegment.name)

/-- The class of an enum; only one whose variants have no fields is an enumeration. -/
def EnumTree.toClass (item : EnumTree) : ClassDecl :=
  { name := QualifiedName.bare item.name, isEnum := item.isPlain }

namespace Declarations

mutual

/-- The use of a class that a type is, within the fields of the open structs. -/
def typeUse (declarations : Declarations) (opened : List String) :
    TypeTree → Except Fault TypeUse
  | .enclosed type => typeUse declarations opened type
  | .list element => do
      return TypeUse.named "Vec" [← typeUse declarations opened element]
  | .unit => .ok TypeUse.unit
  | .bound => .error (Fault.of .unsupportedType)
  | .other => .error (Fault.of .unsupportedType)
  | .path .qualified _ => .error (Fault.of .unsupportedType)
  | .path _ segments =>
      match wrapper : wrapped? segments with
      | some (name, type) => do
          have := sizeOf_wrapped?_lt wrapper
          let use ← typeUse declarations opened type
          return { use with nullable := use.nullable || name == "Option" }
      | none => do
          have := sizeOf_typeArguments segments
          let arguments ← typeUses declarations opened (typeArguments segments)
          let target ← pathClass declarations opened segments
          return { target, arguments }
  termination_by type => ((declarations.unopened opened).length, sizeOf type)

/-- The uses of classes that types are, up to the first fault. -/
def typeUses (declarations : Declarations) (opened : List String) :
    List TypeTree → Except Fault (List TypeUse)
  | [] => .ok []
  | type :: rest => do
      return (← typeUse declarations opened type) :: (← typeUses declarations opened rest)
  termination_by types => ((declarations.unopened opened).length, sizeOf types)

/-- The class that a path names. A path of several names names no declaration. -/
def pathClass (declarations : Declarations) (opened : List String) :
    List PathSegment → Except Fault ClassDecl
  | [segment] =>
      let name := segment.name
      if closed : opened.contains name then .ok { name := QualifiedName.bare name }
      else
        match found : declarations.struct? name with
        | some item =>
            have := unopened_cons_lt found (by simpa using closed)
            structClass declarations opened item
        | none =>
            match declarations.enum? name with
            | some item => .ok item.toClass
            | none => .ok { name := QualifiedName.ofPath name }
  | segments => .ok { name := QualifiedName.ofPath (pathText segments) }
  termination_by segments => ((declarations.unopened opened).length, sizeOf segments)

/-- The class of a struct, within the fields of the open structs. -/
def structClass (declarations : Declarations) (opened : List String) (item : StructTree) :
    Except Fault ClassDecl := do
  let tags ← AttributeTree.tags AttributeTree.classTag? item.attributes
  let name := QualifiedName.bare item.name
  match shape : item.fields with
  | .none => return { name, tags }
  | .unnamed => throw (Fault.of .tupleStruct)
  | .named trees =>
      have : sizeOf trees < sizeOf item.fields := by simp [shape]
      let fields ← (fields declarations (item.name :: opened) trees).together
      return { name, tags, fields }
  termination_by ((declarations.unopened (item.name :: opened)).length, sizeOf item.fields)

/-- The fields of a class, within the fields of the open structs. -/
def fields (declarations : Declarations) (opened : List String) :
    List FieldTree → Checked (List FieldDecl)
  | [] => .ok []
  | { attributes, name, type } :: rest =>
      let use := Checked.of (typeUse declarations opened type)
      let tags := Checked.of (AttributeTree.tags AttributeTree.fieldTag? attributes)
      let field := (Checked.both use tags).map fun (type, tags) =>
        { name, type, tags : FieldDecl }
      (Checked.both field (fields declarations opened rest)).map fun (field, fields) =>
        field :: fields
  termination_by trees => ((declarations.unopened opened).length, sizeOf trees)

end

end Declarations

end RowPlan
