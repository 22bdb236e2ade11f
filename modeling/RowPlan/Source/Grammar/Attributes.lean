import RowPlan.Source.Grammar.Rules

/-!
# Attributes and blocks

An attribute is a path in brackets after a hash, with nothing, a group of
tokens or a value after the path. A block may have attributes of its own.
-/

namespace RowPlan

namespace Grammar

open RowPlan.Parser

/-- A name in a path without arguments. -/
def plainName : Parser String := do
  if ← sees Ahead.pathWord then anyWord else identifier

/-- The names of a path without arguments after its first colons. -/
def plainNames : Parser (List String) := do
  let first ← plainName
  let others ← repeatWhile (Ahead.mark "::") do
    mark "::"
    if ← sees Ahead.pathWord then anyWord else wants [.pathName]
  return first :: others

/-- A path without arguments: whether it begins with colons, and its names. -/
def plainPath : Parser (Bool × List String) := do
  return (← mark? "::", ← plainNames)

/-- Whether an attribute begins here. -/
def attributeAhead : Ahead :=
  Ahead.both (Ahead.mark "#") (Ahead.second (Ahead.group .bracket))

/-- The value of an attribute after its equals sign; a literal that nothing follows has its
sign. -/
def attributeValue (rules : Rules) : Parser ExpressionTree := do
  match Literal.next? (← get) with
  | some (value, []) =>
      set ([] : List Token)
      return { form := .literal, literal := some value }
  | _ =>
      if ← sees attributeAhead then refuse .attributeInside
      rules.expression true

/-- What stands after the path of an attribute. -/
def attributeForm (rules : Rules) : Parser AttributeForm := do
  match ← get with
  | .group delimiter tokens :: _ =>
      skip 1
      return .list delimiter tokens
  | _ =>
      if ← mark? "=" then return .value (← attributeValue rules)
      return .bare

/-- An attribute after its hash and the mark of an inner one. -/
def attributeIn (rules : Rules) (isInner : Bool) : Parser AttributeTree :=
  inside .bracket do
    let (isRooted, path) ← do
      if ← word? "unsafe" then pure (false, ["unsafe"]) else plainPath
    return { isInner, isRooted, path, form := ← attributeForm rules }

/-- The attributes before something. -/
def outerAttributes (rules : Rules) : Parser (List AttributeTree) :=
  repeatWhile (Ahead.mark "#") do
    mark "#"
    attributeIn rules false

/-- The attributes at the beginning of what they are about. -/
def innerAttributes (rules : Rules) : Parser (List AttributeTree) :=
  repeatWhile (Ahead.both (Ahead.mark "#") (Ahead.second (Ahead.mark "!"))) do
    mark "#"
    mark "!"
    attributeIn rules true

/-- Statements in braces, where attributes may be allowed before them. -/
def block (rules : Rules) (allowAttributes : Bool) : Parser Unit :=
  inside .brace do
    if allowAttributes then
      let _ ← innerAttributes rules
    rules.statements

end Grammar

end RowPlan
