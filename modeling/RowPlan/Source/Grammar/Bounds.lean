import RowPlan.Source.Grammar.Paths

/-!
# Bounds

Types have to satisfy bounds: traits, lifetimes, and lists of what they capture.
Items that are generic have parameters, with bounds on them, and conditions.
-/

namespace RowPlan

namespace Grammar

open RowPlan.Parser

/-! ## Parameters -/

/-- A parameter that is a lifetime. -/
def lifetimeParameter : Parser Unit := do
  let _ ← lifetime
  if ← mark? ":" then
    let _ ← joined "+" (Ahead.either Ahead.atEnd argumentEnd) lifetime

/-- A parameter that is a type. -/
def typeParameter (rules : Rules) : Parser Unit := do
  let _ ← identifier
  if ← mark? ":" then
    let stop := Ahead.any [Ahead.atEnd, argumentEnd, Ahead.mark "="]
    let _ ← joined "+" stop (rules.bound false true)
  if ← mark? "=" then
    let _ ← rules.type true

/-- A parameter that is a constant. -/
def constParameter (rules : Rules) : Parser Unit := do
  word "const"
  let _ ← identifier
  mark ":"
  let _ ← rules.type true
  if ← mark? "=" then constArgument rules

/-- A parameter of a generic item, or of a type where `inType` says so. One of an item may be
left without a name. -/
def genericParameter (rules : Rules) (inType : Bool) : Parser Unit := do
  let _ ← outerAttributes rules
  if ← sees Ahead.lifetime then lifetimeParameter
  else if ← sees Ahead.identifier then typeParameter rules
  else if ← sees (Ahead.word "const") then constParameter rules
  else if inType then wants [.identifier, .lifetime, "const"]
  else if ← sees (Ahead.word "_") then skip 1
  else wants [.lifetime, .identifier, "const"]

/-- The parameters of a generic item, if it has any. -/
def genericParameters (rules : Rules) : Parser Unit := do
  if ← mark? "<" then
    let _ ← separated "," (Ahead.mark ">") (genericParameter rules false)
    mark ">"

/-- Lifetimes and other parameters that are bound in a type. -/
def boundParameters (rules : Rules) : Parser Unit := do
  word "for"
  mark "<"
  let _ ← separated "," (Ahead.mark ">") (genericParameter rules true)
  mark ">"

/-- Bound parameters, if there are any. -/
def boundParameters? (rules : Rules) : Parser Bool := do
  if ← sees (Ahead.word "for") then
    boundParameters rules
    return true
  else return false

/-- Whether generic parameters, rather than a qualified path, begin here. -/
def genericsAhead : Ahead :=
  let afterName := Ahead.third (Ahead.any [Ahead.mark ">", Ahead.mark ",", Ahead.singleColon,
    Ahead.mark "="])
  Ahead.both (Ahead.mark "<") (Ahead.any [
    Ahead.second (Ahead.any [Ahead.mark ">", Ahead.mark "#", Ahead.word "const"]),
    Ahead.both (Ahead.second (Ahead.either Ahead.lifetime Ahead.identifier)) afterName])

/-! ## Bounds -/

/-- The result of a function type. -/
def resultType (rules : Rules) (allowPlus : Bool) : Parser (Option TypeTree) := do
  if ← mark? "->" then return some (← rules.type allowPlus) else return none

/-- Lifetimes and types that an opaque type captures, up to the closing angle bracket. At
most `fuel` of them. -/
def capturedUpTo : Nat → Parser Unit
  | 0 => giveUp
  | fuel + 1 => do
      if ← sees (Ahead.any [Ahead.lifetime, Ahead.identifier, Ahead.word "Self"]) then
        skip 1
        if ← mark? "," then capturedUpTo fuel
        else if !(← sees (Ahead.mark ">")) then wants [",", ">"]
      else if !(← sees (Ahead.mark ">")) then wants [.lifetime, .identifier, ">"]

/-- The lifetimes and types that an opaque type captures. -/
def capturedParameters : Parser Unit := do
  word "use"
  mark "<"
  capturedUpTo ((← get).length + 1)
  mark ">"

/-- What says that a trait has to be constant: whether it stands in brackets. -/
def constBound? : Parser (Option Bool) := do
  if ← sees (Ahead.group .bracket) then
    inside .bracket (word "const")
    return some true
  else if ← word? "const" then return some false
  else return none

/-- Types in parentheses as arguments of the last name of a trait, and a result type; they
may have colons before them. -/
def functionArguments (rules : Rules) : Parser Unit := do
  let _ ← mark? "::"
  let _ ← listInside .parenthesis (rules.type true)
  let _ ← resultType rules false

/-- Whether types in parentheses begin here. -/
def functionArgumentsAhead : Ahead :=
  Ahead.either (Ahead.group .parenthesis)
    (Ahead.both (Ahead.mark "::") (Ahead.third (Ahead.group .parenthesis)))

/-- A trait that a type has to implement. Parameters may be bound before it, but not if the
type may lack the trait. -/
def traitBound (rules : Rules) (allowConst : Bool) : Parser BoundTree := do
  let hasParameters ← boundParameters? rules
  let const ← constBound?
  match const with
  | some inBrackets => if !allowConst then refuseHere (.constNotAllowed inBrackets)
  | none => pure ()
  let isOptional ← mark? "?"
  let bindsAfterMark ← if isOptional && !hasParameters then boundParameters? rules else pure false
  let (_, segments) ← path rules false
  let lacksArguments := match segments.getLast? with
    | some last => (last.arguments.getD []).isEmpty
    | none => false
  if lacksArguments && (← sees functionArgumentsAhead) then functionArguments rules
  if isOptional && (hasParameters || bindsAfterMark) then refuseHere .parametersOfOptional
  return if const.isSome then .constTrait else .trait segments

/-- A bound on a type. -/
def bound (rules : Rules) (allowCapture allowConst : Bool) : Parser BoundTree := do
  if ← lifetime? then return .other
  if ← sees (Ahead.word "use") then
    capturedParameters
    if !allowCapture then refuseHere .captureNotAllowed
    return .other
  if ← sees (Ahead.group .parenthesis) then inside .parenthesis (traitBound rules allowConst)
  else traitBound rules allowConst

/-- Whether another bound follows a plus sign. -/
def boundAhead (allowConst : Bool) : Ahead :=
  Ahead.any ([Ahead.anyWord, Ahead.mark "::", Ahead.mark "?", Ahead.lifetime,
    Ahead.group .parenthesis]
    ++ if allowConst then [Ahead.group .bracket, Ahead.word "const"] else [])

/-- The bounds after a plus sign, if there are any. A plus sign may stand at their end. -/
def boundsAfterPlus (rules : Rules) (allowCapture allowConst : Bool) : Parser (List BoundTree) :=
  joined "+" (Ahead.neither (boundAhead allowConst)) (rules.bound allowCapture allowConst)

/-- Bounds that make up a type. -/
def boundsOfType (rules : Rules) (allowPlus allowCapture allowConst : Bool) :
    Parser (List BoundTree) := do
  let first ← rules.bound allowCapture allowConst
  if ← markIf? allowPlus "+" then
    return first :: (← boundsAfterPlus rules allowCapture allowConst)
  else return [first]

/-- The bounds that follow a first one, each after a plus sign. -/
def furtherBounds (rules : Rules) : Parser Unit := do
  let _ ← repeatWhile (Ahead.mark "+") do
    mark "+"
    rules.bound false false

/-! ## Conditions of items -/

/-- The end of the conditions of an item. -/
def whereEnd : Ahead :=
  Ahead.any [Ahead.atEnd, Ahead.group .brace, Ahead.mark ",", Ahead.mark ";",
    Ahead.singleColon, Ahead.mark "="]

/-- A condition of an item. -/
def whereCondition (rules : Rules) : Parser Unit := do
  if ← sees (Ahead.both Ahead.lifetime (Ahead.second (Ahead.mark ":"))) then
    let _ ← lifetime
    mark ":"
    let _ ← joined "+" (Ahead.either whereEnd (Ahead.mark ":")) lifetime
  else
    let _ ← boundParameters? rules
    let _ ← rules.type true
    mark ":"
    let _ ← joined "+" whereEnd (rules.bound false true)

/-- The conditions of an item, if it has any. -/
def whereClause? (rules : Rules) : Parser Bool := do
  if ← word? "where" then
    if ← sees genericsAhead then refuse .parametersOfConditions
    let _ ← joined "," whereEnd (whereCondition rules)
    return true
  else return false

end Grammar

end RowPlan
