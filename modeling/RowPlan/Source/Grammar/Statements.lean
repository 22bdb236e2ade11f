import RowPlan.Source.Grammar.Expressions
import RowPlan.Source.Grammar.Items

/-!
# Statements

A block is a sequence of bindings, items and expressions. An expression that
does not end by itself has a semicolon after it, unless it is the last one.
-/

namespace RowPlan

namespace Grammar

open RowPlan.Parser

/-- Whether the tokens that were taken off the front of a list end with braces. -/
def endInBraces (before after : List Token) : Bool :=
  match (before.take (before.length - after.length)).getLast? with
  | some (.group .brace _) => true
  | _ => false

/-- A binding after its keyword: a pattern with its type, its value, and what is done
where the value does not match. -/
def binding (rules : Rules) : Parser Unit := do
  let _ ← rules.pattern
  if ← mark? ":" then
    let _ ← rules.type true
  if ← mark? "=" then
    let before ← get
    let _ ← rules.expression true
    if ← wordIf? (!endInBraces before (← get)) "else" then block rules false
  mark ";"

/-- Whether a path with an exclamation mark begins here, and what comes after the mark. -/
def callAhead : Parser (Option (List Token)) :=
  look do
    let _ ← plainPath
    mark "!"
    get

/-- Whether a call of a macro in braces is a statement by itself. -/
def isStatementCall (afterMark : List Token) : Bool :=
  Ahead.group .brace afterMark
    && !Ahead.second (Ahead.either Ahead.singleDot (Ahead.mark "?")) afterMark

/-- Whether an item begins here. -/
def itemAhead : Ahead :=
  let functionWords := Ahead.words ["unsafe", "extern", "fn"]
  Ahead.any [
    Ahead.words ["pub", "extern", "use", "fn", "mod", "type", "struct", "enum", "trait", "impl",
      "macro"],
    Ahead.both (Ahead.word "crate") (Ahead.neither (Ahead.second (Ahead.mark "::"))),
    Ahead.both (Ahead.word "static")
      (Ahead.either (Ahead.second (Ahead.word "mut")) (Ahead.second Ahead.identifier)),
    Ahead.both (Ahead.word "const") (Ahead.neither (Ahead.any [
      Ahead.second (Ahead.group .brace),
      Ahead.second (Ahead.words ["static", "move"]),
      Ahead.second (Ahead.mark "|"),
      Ahead.both (Ahead.second (Ahead.word "async"))
        (Ahead.neither (Ahead.third functionWords))])),
    Ahead.both (Ahead.word "unsafe") (Ahead.neither (Ahead.second (Ahead.group .brace))),
    Ahead.both (Ahead.word "async") (Ahead.second functionWords),
    Ahead.both (Ahead.word "union") (Ahead.second Ahead.identifier),
    Ahead.both (Ahead.word "auto") (Ahead.second (Ahead.word "trait")),
    Ahead.both (Ahead.word "default") (Ahead.second (Ahead.words ["unsafe", "impl"]))]

/-- A statement; says whether a semicolon is missing, unless it is the last one. -/
def statement (rules : Rules) : Parser Bool := do
  let _ ← outerAttributes rules
  let call ← callAhead
  if (call.map isStatementCall).getD false then
    let _ ← plainPath
    mark "!"
    let _ ← anyGroup
    let _ ← mark? ";"
    return false
  let namesMacro := (call.map (Ahead.either Ahead.identifier (Ahead.word "try"))).getD false
  if ← word? "let" then
    binding rules
    return false
  if namesMacro || (← sees itemAhead) then
    let _ ← itemAfterAttributes rules []
    return false
  let value ← statementExpression rules
  if ← mark? ";" then return false
  return !(endsByItself value || value.isBraced)

/-- The statements of a block, at most `fuel`. -/
def statementsUpTo (rules : Rules) : Nat → Parser Unit
  | 0 => giveUp
  | fuel + 1 => do
      let _ ← repeatWhile (Ahead.mark ";") (mark ";")
      if ← sees Ahead.atEnd then return ()
      let lacksSemicolon ← statement rules
      if ← sees Ahead.atEnd then return ()
      if lacksSemicolon then refuse .missingSemicolon
      statementsUpTo rules fuel

/-- The statements of a block. -/
def statements (rules : Rules) : Parser Unit := do
  statementsUpTo rules ((← get).length + 1)

end Grammar

end RowPlan
