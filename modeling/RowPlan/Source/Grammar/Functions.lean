import RowPlan.Source.Grammar.Atoms

/-!
# Functions

A function is a signature with a body or a semicolon after it. Of its parameters
those are kept that are values: neither the receiver nor the dots of a function
that takes any number of arguments.
-/

namespace RowPlan

namespace Grammar

open RowPlan.Parser

/-- Where an item is visible, in the parentheses after its visibility, if that is what they
say. -/
def visibleWithin? : Parser Unit := do
  match ← get with
  | .group .parenthesis (.word "in" :: _) :: _ =>
      inside .parenthesis do
        word "in"
        let _ ← plainPath
  | .group .parenthesis [.word name] :: _ =>
      if ["crate", "self", "super"].contains name then skip 1
  | _ => return ()

/-- A visibility, if there is one. Parentheses after it belong to it only if they say where
the item is visible. -/
def visibility : Parser Bool := do
  if ← word? "pub" then
    visibleWithin?
    return true
  else return false

/-! ## Signatures -/

/-- The words before the keyword of a function. -/
def functionWords (allowSafe : Bool) : Parser Unit := do
  let _ ← word? "const"
  let _ ← word? "async"
  let isUnsafe ← word? "unsafe"
  if allowSafe && !isUnsafe then
    let _ ← word? "safe"
  let _ ← linkage?

/-- Whether a function begins here. -/
def functionAhead (allowSafe : Bool) : Parser Bool := do
  let wordsAndKeyword ← look do
    functionWords allowSafe
    word "fn"
  return wordsAndKeyword.isSome

/-- The value that a method is called on, with its type if it is written. -/
def receiver (rules : Rules) : Parser Unit := do
  let isReference ← mark? "&"
  if isReference then
    let _ ← lifetime?
  let _ ← word? "mut"
  word "self"
  if ← markIf? (!isReference) ":" then
    let _ ← rules.type true

/-- What stands among the parameters of a function. -/
inductive Parameter where
  | receiver
  | value (parameter : ParameterTree)
  /-- Any number of arguments. -/
  | variadic

/-- A receiver, if one lies ahead; the word for it may begin a path as well. -/
def receiver? (rules : Rules) : Parser Bool := do
  let found ← attempt do
    receiver rules
    if ← sees (Ahead.mark "::") then giveUp
  return found.isSome

/-- A parameter; a type with arguments may stand without a name. -/
def parameter (rules : Rules) : Parser Parameter := do
  let attributes ← outerAttributes rules
  if ← mark? "..." then return .variadic
  if ← receiver? rules then return .receiver
  if ← sees (Ahead.both Ahead.identifier (Ahead.second (Ahead.mark "<"))) then
    return .value { attributes, name := none, type := ← rules.type true }
  let pattern ← rules.pattern
  mark ":"
  if ← mark? "..." then return .variadic
  let name := match pattern with
    | .name name => some name
    | _ => none
  return .value { attributes, name, type := ← rules.type true }

/-- The parameters after a comma, if there is one: the ones that `next` takes. -/
def furtherParameters (next : Parser (List ParameterTree)) : Parser (List ParameterTree) := do
  if ← sees Ahead.atEnd then return []
  mark ","
  next

/-- The parameters of a function, at most `fuel`. Only the first may be a receiver, and dots
are the last one. -/
def parametersUpTo (rules : Rules) (hasReceiver isFirst : Bool) :
    Nat → Parser (List ParameterTree)
  | 0 => giveUp
  | fuel + 1 => do
      if ← sees Ahead.atEnd then return []
      match ← parameter rules with
      | .variadic => furtherParameters (return [])
      | .receiver =>
          if hasReceiver then refuseHere .secondReceiver
          if !isFirst then refuseHere .lateReceiver
          furtherParameters (parametersUpTo rules true false fuel)
      | .value value =>
          return value :: (← furtherParameters (parametersUpTo rules hasReceiver false fuel))

/-- The parameters of a function, in parentheses. -/
def parameters (rules : Rules) : Parser (List ParameterTree) :=
  inside .parenthesis do parametersUpTo rules false true ((← get).length + 1)

/-- A function up to its body. -/
def signature (rules : Rules) (allowSafe : Bool) : Parser FunctionTree := do
  functionWords allowSafe
  word "fn"
  let name ← identifier
  genericParameters rules
  let parameters ← parameters rules
  let returnType ← resultType rules true
  let _ ← whereClause? rules
  return { attributes := [], name, parameters, returnType, hasBody := false }

/-! ## Bodies -/

/-- The attributes in a body, after which its statements follow. -/
def body (rules : Rules) : Parser (List AttributeTree) :=
  inside .brace do
    let attributes ← innerAttributes rules
    rules.statements
    return attributes

/-- A function with the attributes in its body, for which a semicolon may stand; fails with
`withoutBody` where neither follows. -/
def function (rules : Rules) (allowSafe : Bool) (withoutBody : Parser Unit) :
    Parser FunctionTree := do
  let function ← signature rules allowSafe
  if ← mark? ";" then return function
  if !(← sees (Ahead.group .brace)) then withoutBody
  return { function with attributes := ← body rules, hasBody := true }

end Grammar

end RowPlan
