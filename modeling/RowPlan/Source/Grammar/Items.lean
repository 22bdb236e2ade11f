import RowPlan.Source.Grammar.Members

/-!
# Items

Files and modules hold items. Structs, enums, traits and modules are kept; every
other item has to be well formed, and no more is known of it.
-/

namespace RowPlan

namespace Grammar

open RowPlan.Parser

/-! ## Fields -/

mutual

/-- The fields of a struct, in braces. -/
def namedFields (rules : Rules) : Nat → Parser (List FieldTree)
  | 0 => giveUp
  | fuel + 1 => listInside .brace (namedField rules fuel)

/-- A field with a name; one without may have fields in braces as its type. -/
def namedField (rules : Rules) : Nat → Parser FieldTree
  | 0 => giveUp
  | fuel + 1 => do
      let attributes ← outerAttributes rules
      let _ ← visibility
      let isUnnamed ← sees (Ahead.word "_")
      let name ← if isUnnamed then anyWord else identifier
      mark ":"
      let hasFields := Ahead.either (Ahead.word "struct")
        (Ahead.both (Ahead.word "union") (Ahead.second (Ahead.group .brace)))
      if isUnnamed && (← sees hasFields) then
        let _ ← anyWord
        let _ ← namedFields rules fuel
        return { attributes, name, type := .other }
      return { attributes, name, type := ← rules.type true }

end

/-- The fields of a struct, in braces. -/
def fieldsInBraces (rules : Rules) : Parser (List FieldTree) := do
  namedFields rules (2 * Token.countAll (← get) + 2)

/-- The fields of a struct without names, in parentheses. -/
def fieldsInParentheses (rules : Rules) : Parser Unit := do
  let _ ← listInside .parenthesis do
    let _ ← outerAttributes rules
    let _ ← visibility
    rules.type true

/-! ## Structs and enums -/

/-- The end of a struct whose fields have no names: conditions may stand before it. -/
def tupleStructEnd (rules : Rules) : Parser Unit := do
  let hasConditions ← whereClause? rules
  if !(← mark? ";") then wants (if hasConditions then [";"] else ["where", ";"])

/-- The fields of a struct, with its conditions; those stand after fields without names. -/
def structFields (rules : Rules) : Parser FieldsTree := do
  let hasConditions ← whereClause? rules
  if !hasConditions && (← sees (Ahead.group .parenthesis)) then
    fieldsInParentheses rules
    tupleStructEnd rules
    return .unnamed
  if ← sees (Ahead.group .brace) then return .named (← fieldsInBraces rules)
  if ← mark? ";" then return .none
  wants (if hasConditions then [.curlyBraces, ";"] else
    ["where", .parentheses, .curlyBraces, ";"])

/-- A struct. -/
def structItem (rules : Rules) (attributes : List AttributeTree) : Parser ItemTree := do
  word "struct"
  let name ← identifier
  genericParameters rules
  return .struct { attributes, name, fields := ← structFields rules }

/-- A variant of an enum: whether it has no fields. -/
def variant (rules : Rules) : Parser Bool := do
  let _ ← outerAttributes rules
  let _ ← visibility
  let _ ← identifier
  let isPlain ← do
    if ← sees (Ahead.group .brace) then
      let _ ← fieldsInBraces rules
      pure false
    else if ← sees (Ahead.group .parenthesis) then
      fieldsInParentheses rules
      pure false
    else pure true
  value? rules
  return isPlain

/-- An enum; of its variants no more is kept than whether one has fields. -/
def enumItem (rules : Rules) : Parser ItemTree := do
  word "enum"
  let name ← identifier
  genericParameters rules
  let _ ← whereClause? rules
  let variants ← listInside .brace (variant rules)
  return .enum { name, isPlain := variants.all id }

/-- A union. -/
def unionItem (rules : Rules) : Parser Unit := do
  word "union"
  let _ ← identifier
  genericParameters rules
  let _ ← whereClause? rules
  let _ ← fieldsInBraces rules

/-! ## Traits and implementations -/

/-- The bounds of a trait after its equals sign, which make it another name for them. -/
def traitAlias (rules : Rules) : Parser Unit := do
  let stop := Ahead.either (Ahead.word "where") (Ahead.mark ";")
  let _ ← separated "+" stop (rules.bound false false)
  let _ ← whereClause? rules
  mark ";"

/-- What stands in a trait after its name and parameters. -/
def traitRest (rules : Rules) (attributes : List AttributeTree) (name : String) :
    Parser ItemTree := do
  let bounds ← do
    if ← mark? ":" then
      separated "+" (Ahead.either (Ahead.word "where") (Ahead.group .brace))
        (rules.bound false true)
    else pure []
  let _ ← whereClause? rules
  let (inner, functions) ← members rules (traitMember rules)
  return .trait {
    attributes := attributes ++ inner
    name
    bounds
    functions := functions.filterMap id }

/-- A trait, with the attributes before it and in its braces. -/
def traitItem (rules : Rules) (attributes : List AttributeTree) : Parser ItemTree := do
  word "trait"
  let name ← identifier
  genericParameters rules
  traitRest rules attributes name

/-- What follows the name of a trait, if it is not another name for bounds. -/
def traitRestAhead : Ahead :=
  Ahead.any [Ahead.group .brace, Ahead.mark ":", Ahead.word "where"]

/-- A trait, or another name for bounds. -/
def traitOrAlias (rules : Rules) (attributes : List AttributeTree) : Parser ItemTree := do
  word "trait"
  let name ← identifier
  genericParameters rules
  if ← sees traitRestAhead then traitRest rules attributes name
  else if ← mark? "=" then
    traitAlias rules
    return .other
  else wants [.curlyBraces, ":", "where", "="]

/-- An exclamation mark before the name of a trait that a type does not implement. -/
def lackMark? : Parser Bool := do
  if ← sees (Ahead.second (Ahead.group .brace)) then return false else mark? "!"

/-- An implementation of a type or of a trait for it. -/
def implementation (rules : Rules) : Parser Unit := do
  let _ ← word? "default"
  let _ ← word? "unsafe"
  word "impl"
  if ← sees genericsAhead then genericParameters rules
  if ← sees (Ahead.both (Ahead.mark "?") (Ahead.second (Ahead.word "const"))) then mark "?"
  let _ ← word? "const"
  let isNegative ← lackMark?
  let _ ← rules.type true
  if ← word? "for" then
    let _ ← rules.type true
  else if isNegative then refuseHere .negativeInherent
  let _ ← whereClause? rules
  let _ ← members rules (implementationMember rules)

/-! ## Modules and imports -/

/-- A module with its items, or one whose items are elsewhere. -/
def moduleItem (rules : Rules) : Parser ItemTree := do
  word "mod"
  if !(← word? "try") then
    let _ ← identifier
  if ← mark? ";" then return .other
  if !(← sees (Ahead.group .brace)) then wants [";", .curlyBraces]
  let (_, items) ← members rules rules.item
  return .module items

/-- Items that are defined elsewhere, in braces. They have no visibility of their own. -/
def foreignItems (rules : Rules) (isVisible : Bool) : Parser Unit := do
  if isVisible then refuseHere (.expected ["extern"])
  let _ ← linkage?
  let _ ← members rules (foreignMember rules)

/-- A name in place of that of a library, if it is there. -/
def libraryAlias? : Parser Unit := do
  if ← word? "as" then
    if !(← word? "_") then
      let _ ← identifier

/-- A library that is used. -/
def externalLibrary : Parser Unit := do
  word "extern"
  word "crate"
  if !(← word? "self") then
    let _ ← identifier
  libraryAlias?
  mark ";"

/-- A library that is used, or items that are defined elsewhere. -/
def externalItem (rules : Rules) (isVisible : Bool) : Parser Unit := do
  let next := Ahead.second
  if ← sees (next (Ahead.word "crate")) then externalLibrary
  else if ← sees (next (Ahead.group .brace)) then foreignItems rules isVisible
  else if ← sees (next Ahead.stringLiteral) then
    if !(← sees (Ahead.third (Ahead.group .brace))) then
      skip 2
      wants [.curlyBraces]
    foreignItems rules isVisible
  else
    skip 1
    wants ["crate", .curlyBraces, .stringLiteral]

/-- A name in place of an imported one, if it is there. -/
def importAlias? : Parser Unit := do
  if ← word? "as" then
    if ← sees (Ahead.either Ahead.identifier (Ahead.word "_")) then skip 1
    else wants [.identifier, .underscore]

/-- The names that are imported; colons may stand before them in the outermost braces, unless
they stand before those. -/
def importTree (allowRoot : Bool) : Nat → Parser Unit
  | 0 => giveUp
  | fuel + 1 => do
      if ← sees (Ahead.either Ahead.identifier
          (Ahead.words ["self", "super", "crate", "try"])) then
        skip 1
        if ← mark? "::" then importTree false fuel else importAlias?
      else if ← mark? "*" then return ()
      else if ← sees (Ahead.group .brace) then
        let _ ← listInside .brace do
          let isRooted ← markIf? allowRoot "::"
          importTree (allowRoot && !isRooted) fuel
      else wants [.identifier, "self", "super", "crate", "try", "*", .curlyBraces]

/-- An import. -/
def importItem : Parser Unit := do
  word "use"
  let isRooted ← mark? "::"
  importTree (!isRooted) (Token.countAll (← get) + 1)
  mark ";"

/-- A definition of a macro by its parameters and body. -/
def macroDefinition : Parser Unit := do
  word "macro"
  let _ ← identifier
  let hasParameters ← sees (Ahead.group .parenthesis)
  if hasParameters then skip 1
  if ← sees (Ahead.group .brace) then skip 1
  else wants (if hasParameters then [.curlyBraces] else [.parentheses, .curlyBraces])

/-! ## Items -/

/-- Whether a trait begins here whose implementations are not written. -/
def autoTraitAhead : Ahead :=
  Ahead.both (Ahead.word "auto") (Ahead.second (Ahead.word "trait"))

/-- A trait before whose keyword another word may stand. -/
def plainTrait (rules : Rules) (attributes : List AttributeTree) : Parser ItemTree := do
  let _ ← word? "auto"
  traitItem rules attributes

/-- Nothing is kept of an item. -/
def unkept (parser : Parser Unit) : Parser ItemTree := do
  parser
  return .other

/-- An item whose rules the compiler does not check. -/
def uncheckedItem (rules : Rules) (attributes : List AttributeTree) (isVisible : Bool) :
    Parser ItemTree := do
  if ← sees (Ahead.second (Ahead.word "impl")) then return ← unkept (implementation rules)
  word "unsafe"
  if ← sees (Ahead.either (Ahead.word "trait") autoTraitAhead) then plainTrait rules attributes
  else if ← sees (Ahead.word "mod") then moduleItem rules
  else if ← sees (Ahead.word "extern") then unkept (foreignItems rules isVisible)
  else if ← sees (Ahead.word "auto") then wants ["trait", "impl", "extern", "mod"]
  else wants ["trait", "auto", "impl", "extern", "mod"]

/-- What an item begins with; some of the words may be names too, and are left out where
they lie ahead. -/
def itemBegins (ahead : List Token) : List Wanted :=
  let words := ["fn", "extern", "use", "static", "const", "unsafe", "mod", "type", "struct",
    "enum", "union", "trait", "auto", "impl", "default", "macro"]
  (words.filter fun name => !Ahead.word name ahead).map .exactly

/-- An item after its visibility, by the word it begins with. -/
def itemOf (rules : Rules) (attributes : List AttributeTree) (isVisible : Bool) :
    String → Parser ItemTree
  | "extern" => unkept (externalItem rules isVisible)
  | "use" => unkept importItem
  | "static" => unkept (globalVariable rules)
  | "const" => unkept (constant rules)
  | "unsafe" => uncheckedItem rules attributes isVisible
  | "mod" => moduleItem rules
  | "type" => unkept (typeDefinition rules true false)
  | "struct" => structItem rules attributes
  | "enum" => enumItem rules
  | "trait" => traitOrAlias rules attributes
  | "impl" => unkept (implementation rules)
  | "macro" => unkept macroDefinition
  | _ => do
      if ← sees (Ahead.both (Ahead.word "union") (Ahead.second Ahead.identifier)) then
        unkept (unionItem rules)
      else if ← sees autoTraitAhead then plainTrait rules attributes
      else if ← sees defaultAhead then unkept (implementation rules)
      else unkept (macroCallOr (itemBegins (← get)) (!isVisible) true)

/-- An item after its attributes. -/
def itemAfterAttributes (rules : Rules) (attributes : List AttributeTree) : Parser ItemTree := do
  let isVisible ← visibility
  if ← functionAhead false then
    let _ ← function rules false (wants [.curlyBraces])
    return .other
  match ← get with
  | .word name :: _ => itemOf rules attributes isVisible name
  | tokens => unkept (macroCallOr (itemBegins tokens) (!isVisible) true)

/-- An item. -/
def item (rules : Rules) : Parser ItemTree := do
  itemAfterAttributes rules (← outerAttributes rules)

end Grammar

end RowPlan
