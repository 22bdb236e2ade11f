import RowPlan.Source.Grammar.Functions

/-!
# Members of items

Traits, implementations and blocks of foreign items hold functions, constants,
types and calls of macros. Only the functions of traits are kept.
-/

namespace RowPlan

namespace Grammar

open RowPlan.Parser

/-! ## Definitions -/

/-- An equals sign and a value, if they are there. -/
def value? (rules : Rules) : Parser Unit := do
  if ← mark? "=" then
    let _ ← rules.expression true

/-- A constant, with a name or without. -/
def constant (rules : Rules) : Parser Unit := do
  word "const"
  if ← sees (Ahead.either Ahead.identifier (Ahead.word "_")) then skip 1
  else wants [.identifier, "_"]
  genericParameters rules
  mark ":"
  let _ ← rules.type true
  value? rules
  let _ ← whereClause? rules
  mark ";"

/-- The name of a variable of the program, after its keyword. -/
def variableName : Parser Unit := do
  word "static"
  let _ ← word? "mut"
  let _ ← identifier

/-- A variable of the program; its type or its value may be left out. -/
def globalVariable (rules : Rules) : Parser Unit := do
  variableName
  if !(← sees (Ahead.mark "=")) then
    mark ":"
    let _ ← rules.type true
  if !(← mark? ";") then
    mark "="
    let _ ← rules.expression true
    mark ";"

/-- A variable that is defined elsewhere. -/
def foreignVariable (rules : Rules) : Parser Unit := do
  variableName
  mark ":"
  let _ ← rules.type true
  value? rules
  mark ";"

/-- The end of the bounds of a type that is defined. -/
def definitionBoundsEnd : Ahead :=
  Ahead.any [Ahead.word "where", Ahead.mark "=", Ahead.mark ";"]

/-- A type that is defined; its conditions stand before or after its value. -/
def typeDefinition (rules : Rules) (conditionsBefore conditionsAfter : Bool) : Parser Unit := do
  word "type"
  let _ ← identifier
  genericParameters rules
  if ← mark? ":" then
    let _ ← separated "+" definitionBoundsEnd (rules.bound false true)
  let hasConditions ← if conditionsBefore then whereClause? rules else pure false
  if ← mark? "=" then
    let _ ← rules.type true
  if conditionsAfter && !hasConditions then
    let _ ← whereClause? rules
  mark ";"

/-- What a call of a macro may begin with. -/
def macroCallAhead : Ahead :=
  Ahead.any [Ahead.identifier, Ahead.words ["self", "super", "crate"], Ahead.mark "::"]

/-- What is wanted where a call of a macro may begin. -/
def macroCallBegins : List Wanted :=
  [.identifier, "self", "super", "crate", "::"]

/-- A call of a macro, after whose mark a name may be allowed. Without braces it has a
semicolon after it. -/
def macroCall (allowName : Bool) : Parser Unit := do
  let _ ← plainPath
  mark "!"
  if allowName && (← sees (Ahead.either Ahead.identifier (Ahead.word "try"))) then skip 1
  if (← anyGroup) != .brace then mark ";"

/-- A call of a macro if it is allowed, where none of the other things that are wanted comes
next. -/
def macroCallOr (wanted : List Wanted) (isAllowed allowName : Bool) : Parser Unit := do
  if !isAllowed then wants wanted
  else if ← sees macroCallAhead then macroCall allowName
  else wants (wanted ++ macroCallBegins)

/-! ## Members -/

/-- What stands in the braces of an item: attributes about the item, and its members. -/
def members {α : Type} (rules : Rules) (member : Parser α) :
    Parser (List AttributeTree × List α) :=
  inside .brace do return (← innerAttributes rules, ← toEnd member)

/-- A constant of a trait, where no function begins. -/
def traitConstant (rules : Rules) : Parser Unit := do
  if ← sees (Ahead.second (Ahead.either Ahead.identifier (Ahead.word "_"))) then constant rules
  else
    skip 1
    wants [.identifier, "_", "async", "unsafe", "extern", "fn"]

/-- A member of a trait. A function that has a visibility, or that is a default, is passed
over. -/
def traitMember (rules : Rules) : Parser (Option FunctionTree) := do
  let attributes ← outerAttributes rules
  let isVisible ← visibility
  let isDefault ← word? "default"
  let isPlain := !isVisible && !isDefault
  let beginsFunction := Ahead.either (Ahead.word "fn") (Ahead.both (Ahead.word "const")
    (Ahead.second (Ahead.words ["async", "unsafe", "extern", "fn"])))
  if (← functionAhead false) || (← sees beginsFunction) then
    let function ← function rules false (wants [.curlyBraces, ";"])
    return if isPlain then
      some { function with attributes := attributes ++ function.attributes }
    else none
  if ← sees (Ahead.word "const") then traitConstant rules
  else if ← sees (Ahead.word "type") then typeDefinition rules false true
  else macroCallOr ["fn", "const", "type"] isPlain false
  return none

/-- Whether a definition of an implementation begins with the word that makes it a default;
the word may also name a macro that is called. -/
def defaultAhead : Ahead :=
  Ahead.both (Ahead.word "default") (Ahead.neither (Ahead.second (Ahead.mark "!")))

/-- A member of an implementation. -/
def implementationMember (rules : Rules) : Parser Unit := do
  let _ ← outerAttributes rules
  let isVisible ← visibility
  let isDefault ← sees defaultAhead
  if isDefault then word "default"
  if ← functionAhead false then
    let _ ← function rules false (wants [.curlyBraces])
  else if ← sees (Ahead.word "const") then constant rules
  else if ← sees (Ahead.word "type") then typeDefinition rules false true
  else
    let definitions : List Wanted := ["fn", "const", "type"]
    let namesDefault ← sees (Ahead.word "default")
    let wanted := if isDefault || namesDefault then definitions else "default" :: definitions
    macroCallOr wanted (!isVisible && !isDefault) false

/-- An item that is defined elsewhere. -/
def foreignMember (rules : Rules) : Parser Unit := do
  let _ ← outerAttributes rules
  let isVisible ← visibility
  if ← functionAhead true then
    let _ ← function rules true (mark ";")
  else if ← sees (Ahead.either (Ahead.word "static") (Ahead.both (Ahead.words ["unsafe", "safe"])
      (Ahead.second (Ahead.word "static")))) then
    if !(← sees (Ahead.word "static")) then skip 1
    foreignVariable rules
  else if ← sees (Ahead.word "type") then typeDefinition rules true true
  else macroCallOr ["fn", "static", "type"] (!isVisible) false

end Grammar

end RowPlan
