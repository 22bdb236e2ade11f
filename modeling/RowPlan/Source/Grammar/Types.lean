import RowPlan.Source.Grammar.Bounds

/-!
# Types

Types are paths with arguments, references, tuples, slices and arrays, pointers,
functions, and bounds that stand for the types that satisfy them.
-/

namespace RowPlan

namespace Grammar

open RowPlan.Parser

/-! ## Bounds as types -/

/-- The form of a type that is made of bounds and no word before them. -/
def TypeTree.ofBounds : List BoundTree → TypeTree
  | [_] => .bound
  | _ => .other

/-- Whether one of the bounds is a trait. -/
def hasTrait (bounds : List BoundTree) : Bool :=
  bounds.any fun
    | .other => false
    | .trait _ | .constTrait => true

/-- The bounds of the type of an object, of which one has to be a trait. -/
def objectBounds (rules : Rules) (allowPlus : Bool) : Parser (List BoundTree) := do
  let bounds ← boundsOfType rules allowPlus false false
  if hasTrait bounds then return bounds else refuseHere .objectWithoutTrait

/-- The bounds of an opaque type, of which one has to be a trait. -/
def opaqueBounds (rules : Rules) (allowPlus : Bool) : Parser (List BoundTree) := do
  let bounds ← boundsOfType rules allowPlus true true
  if hasTrait bounds then return bounds else refuseHere .opaqueWithoutTrait

/-! ## Function pointers -/

/-- The word for what is defined elsewhere, with the name of its calling convention, if they
are there. -/
def linkage? : Parser Bool := do
  if ← word? "extern" then
    if ← sees Ahead.stringLiteral then
      let _ ← literal
    return true
  else return false

/-- The name of a parameter of a function pointer. -/
def pointerName : Ahead :=
  Ahead.either Ahead.identifier (Ahead.word "_")

/-- The receiver of a method, with the word before it that makes it mutable. -/
def mutableReceiver : Ahead :=
  Ahead.both (Ahead.word "mut") (Ahead.second (Ahead.word "self"))

/-- A parameter of a function pointer; the first may be the receiver of a method. -/
def pointerParameter (rules : Rules) (isFirst : Bool) : Parser Unit := do
  let _ ← outerAttributes rules
  let isMutable := isFirst && (← sees mutableReceiver)
  if isMutable then word "mut"
  let namesReceiver := isFirst && (← sees (Ahead.word "self"))
  let colonNext ← sees (Ahead.second Ahead.singleColon)
  if colonNext && (namesReceiver || (← sees pointerName)) then
    skip 1
    mark ":"
    if isFirst && !namesReceiver && (← sees mutableReceiver) then skip 2
    else
      let _ ← rules.type true
  else if isMutable then word "self"
  else
    let _ ← rules.type true

/-- Whether any number of arguments are taken. -/
def variadicAhead : Ahead :=
  Ahead.either (Ahead.mark "...") (Ahead.both pointerName
    (Ahead.both (Ahead.second (Ahead.mark ":")) (Ahead.third (Ahead.mark "..."))))

/-- Dots for any number of arguments, with a name or without, and a comma after them. -/
def variadicParameter : Parser Unit := do
  if ← sees pointerName then
    skip 1
    mark ":"
  mark "..."
  let _ ← mark? ","

/-- The parameters of a function pointer, at most `fuel`; dots are the last one. -/
def pointerParameters (rules : Rules) (isFirst : Bool) : Nat → Parser Unit
  | 0 => giveUp
  | fuel + 1 => do
      if ← sees Ahead.atEnd then return ()
      let _ ← outerAttributes rules
      if ← sees variadicAhead then variadicParameter
      else
        pointerParameter rules isFirst
        if ← sees Ahead.atEnd then return ()
        mark ","
        pointerParameters rules false fuel

/-- A function pointer, with its parameters. -/
def functionPointer (rules : Rules) : Parser Unit := do
  let _ ← boundParameters? rules
  let _ ← word? "unsafe"
  let _ ← linkage?
  word "fn"
  inside .parenthesis do pointerParameters rules true ((← get).length + 1)
  let _ ← resultType rules false

/-! ## Parentheses -/

/-- What stands in parentheses where a type is expected. -/
inductive Parenthesized where
  | done (type : TypeTree)
  /-- A single type, to which bounds may be joined. -/
  | single (type : TypeTree)

/-- What stands in parentheses where a type is expected. -/
def insideParentheses (rules : Rules) : Parser Parenthesized := do
  if ← sees Ahead.atEnd then return .done .unit
  if ← sees Ahead.lifetime then
    let _ ← objectBounds rules true
    return .done (.enclosed .other)
  if ← sees (Ahead.mark "?") then
    let _ ← traitBound rules false
    return .done .other
  let first ← rules.type true
  if ← mark? "," then
    let _ ← separated "," Ahead.atEnd (rules.type true)
    return .done .other
  return .single first

/-- A type in parentheses. -/
def parenthesizedType (rules : Rules) (allowPlus : Bool) : Parser TypeTree := do
  let startsBound ← sees fun
    | .group .parenthesis tokens :: _ => Ahead.mark "?" tokens
    | _ => false
  match ← inside .parenthesis (insideParentheses rules) with
  | .done type =>
      if startsBound then furtherBounds rules
      return type
  | .single type =>
      let canJoin := match type with
        | .path start _ => start != .qualified
        | .bound => true
        | _ => false
      if canJoin && allowPlus && (← sees (Ahead.mark "+")) then
        furtherBounds rules
        return .other
      else return .enclosed type

/-! ## Types -/

/-- A path as a type, or bounds that begin with it. -/
def pathType (rules : Rules) (allowPlus hasParameters : Bool) : Parser TypeTree := do
  let (start, segments) ← anyPath rules false
  if start = .qualified then return .path start segments
  if isPlainPath start segments && (← sees bangAhead) then
    mark "!"
    let _ ← anyGroup
    return .other
  if ← markIf? allowPlus "+" then
    let _ ← boundsAfterPlus rules false false
    return .other
  return if hasParameters then .bound else .path start segments

/-- A slice, or an array with its length. -/
def listType (rules : Rules) : Parser TypeTree :=
  inside .bracket do
    let element ← rules.type true
    if ← mark? ";" then
      let _ ← rules.expression true
    return .list element

/-- A pointer, which may be written through or not. -/
def pointerType (rules : Rules) : Parser TypeTree := do
  mark "*"
  if ← sees (Ahead.words ["const", "mut"]) then skip 1 else wants ["const", "mut"]
  let _ ← rules.type false
  return .other

/-- A reference, with its lifetime if that is written. -/
def referenceType (rules : Rules) : Parser TypeTree := do
  mark "&"
  let _ ← lifetime?
  let _ ← word? "mut"
  return .enclosed (← rules.type false)

/-- The type of an object that has a trait. -/
def objectType (rules : Rules) (allowPlus : Bool) : Parser TypeTree := do
  word "dyn"
  let _ ← mark? "*"
  let _ ← objectBounds rules allowPlus
  return .other

/-- The words and marks with which a type begins that is bound by parameters. -/
def boundTypeAhead : Ahead :=
  Ahead.either Ahead.pathWord (Ahead.words ["fn", "unsafe", "extern"])

/-- What a type begins with that no parameters are bound before. -/
def typeBegins : List Wanted :=
  ["for", .parentheses, "fn", "unsafe", "extern", .identifier, "::", "<", "dyn",
    .squareBrackets, "*", "&", "!", "impl", "_", .lifetime]

/-- A type. -/
def type (rules : Rules) (allowPlus : Bool) : Parser TypeTree := do
  let hasParameters ← boundParameters? rules
  if hasParameters && !(← sees boundTypeAhead) then
    wants [.identifier, "fn", "unsafe", "extern", "super", "self", "Self", "crate"]
  if ← sees (Ahead.group .parenthesis) then parenthesizedType rules allowPlus
  else if ← sees (Ahead.words ["fn", "unsafe", "extern"]) then
    functionPointer rules
    return .other
  else if ← sees builtInAhead then
    builtIn
    return .other
  else if ← sees (Ahead.any [Ahead.pathWord, Ahead.mark "::", Ahead.mark "<"]) then
    pathType rules allowPlus hasParameters
  else if ← sees (Ahead.word "dyn") then objectType rules allowPlus
  else if ← sees (Ahead.group .bracket) then listType rules
  else if ← sees (Ahead.mark "*") then pointerType rules
  else if ← sees (Ahead.mark "&") then referenceType rules
  else if ← mark? "!" then return .other
  else if ← word? "impl" then
    let _ ← opaqueBounds rules allowPlus
    return .other
  else if ← word? "_" then return .other
  else if ← sees Ahead.lifetime then return TypeTree.ofBounds (← objectBounds rules true)
  else wants typeBegins

end Grammar

end RowPlan
