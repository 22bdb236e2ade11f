import RowPlan.Source.Grammar.Attributes

/-!
# Paths

A path is a sequence of names with colons between them; a name may have
arguments in angle brackets. A path may begin with a type in angle brackets.
-/

namespace RowPlan

namespace Grammar

open RowPlan.Parser

/-! ## Constants -/

/-- What a constant begins with that stands where a type may stand. -/
def constantAhead : Ahead :=
  Ahead.either Ahead.literal (Ahead.group .brace)

/-- A constant that stands where a type may stand. -/
def constArgument (rules : Rules) : Parser Unit := do
  if ← sees Ahead.literal then
    let _ ← literal
  else if ← sees Ahead.identifier then
    let _ ← identifier
  else if ← sees (Ahead.group .brace) then block rules true
  else wants []

/-! ## Arguments -/

/-- Whether a path argument list begins here; within expressions it has colons before it. -/
def angleAhead (inExpression : Bool) : Ahead := fun tokens =>
  !inExpression && Ahead.mark "<" tokens && !Ahead.mark "<=" tokens && !Ahead.mark "<<=" tokens
    || Ahead.mark "::" tokens && Ahead.third (Ahead.mark "<") tokens

/-- The end of a list of arguments or bounds within angle brackets. -/
def argumentEnd : Ahead :=
  Ahead.either (Ahead.mark ",") (Ahead.mark ">")

/-- What makes a type into a condition on a member: a value for it, or bounds. -/
def memberCondition (rules : Rules) : Parser Bool := do
  if ← mark? "=" then
    if ← sees constantAhead then constArgument rules
    else
      let _ ← rules.type true
    return true
  else if ← mark? ":" then
    let _ ← joined "+" argumentEnd (rules.bound false true)
    return true
  else return false

/-- An argument of a name in a path. -/
def pathArgument (rules : Rules) : Parser PathArgument := do
  if ← sees (Ahead.both Ahead.lifetime (Ahead.neither (Ahead.second (Ahead.mark "+")))) then
    let _ ← lifetime
    return .other
  if ← sees constantAhead then
    constArgument rules
    return .other
  let type ← rules.type true
  match type with
  | .path .plain [_] => if ← memberCondition rules then return .other else return .type type
  | _ => return .type type

/-- The arguments of a name in a path, with colons before them or not. -/
def pathArguments (rules : Rules) : Parser (List PathArgument) := do
  let _ ← mark? "::"
  mark "<"
  let arguments ← separated "," (Ahead.mark ">") (pathArgument rules)
  mark ">"
  return arguments

/-! ## Paths -/

/-- A name in a path. -/
def pathSegment (rules : Rules) (inExpression : Bool) : Parser PathSegment := do
  if ← sees (Ahead.words ["super", "self", "crate", "try"]) then
    return .segment (← anyWord) none
  let name ← if ← sees (Ahead.word "Self") then anyWord else identifier
  if ← sees (angleAhead inExpression) then
    return .segment name (some (← pathArguments rules))
  else return .segment name none

/-- Whether a path goes on; a group in parentheses after the colons ends it. -/
def pathGoesOn : Ahead :=
  Ahead.both (Ahead.mark "::") (Ahead.neither (Ahead.third (Ahead.group .parenthesis)))

/-- A path that is not qualified. -/
def path (rules : Rules) (inExpression : Bool) : Parser (PathStart × List PathSegment) := do
  let start := if ← mark? "::" then PathStart.rooted else .plain
  let first ← pathSegment rules inExpression
  let others ← repeatWhile pathGoesOn do
    mark "::"
    pathSegment rules inExpression
  return (start, first :: others)

/-- A path after a type in angle brackets, which may be seen as a trait. -/
def qualifiedPath (rules : Rules) (inExpression : Bool) : Parser (List PathSegment) := do
  mark "<"
  let _ ← rules.type true
  if ← word? "as" then
    let _ ← path rules false
  mark ">"
  mark "::"
  let first ← pathSegment rules inExpression
  let others ← repeatWhile (Ahead.mark "::") do
    mark "::"
    pathSegment rules inExpression
  return first :: others

/-- A path of either kind. -/
def anyPath (rules : Rules) (inExpression : Bool) : Parser (PathStart × List PathSegment) := do
  if ← sees (Ahead.mark "<") then
    return (.qualified, ← qualifiedPath rules inExpression)
  else path rules inExpression

/-- Whether no name of a path has arguments. -/
def isPlainPath (start : PathStart) (segments : List PathSegment) : Bool :=
  start != .qualified && segments.all fun segment => segment.arguments.isNone

/-- Whether a construct of the compiler itself begins here. -/
def builtInAhead : Ahead :=
  Ahead.both (Ahead.word "builtin") (Ahead.second (Ahead.mark "#"))

/-- A construct of the compiler itself, with tokens in parentheses. -/
def builtIn : Parser Unit := do
  word "builtin"
  mark "#"
  let _ ← identifier
  opaqueGroup .parenthesis

/-- An exclamation mark that is not part of an operator. -/
def bangAhead : Ahead :=
  Ahead.both (Ahead.mark "!") (Ahead.neither (Ahead.mark "!="))

end Grammar

end RowPlan
