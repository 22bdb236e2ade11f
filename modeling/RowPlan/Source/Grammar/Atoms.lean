import RowPlan.Source.Grammar.Patterns

/-!
# Atoms

The expressions that other expressions are made of: literals, paths, groups,
blocks, branches, loops, closures, and the words that leave them. Of an
expression its form is kept, and its value if it is a literal.
-/

namespace RowPlan

namespace Grammar

open RowPlan.Parser

/-- An expression of a form. -/
def formed (form : ExpressionForm) : ExpressionTree :=
  { form }

/-! ## Parts of expressions -/

/-- Expressions with commas between them in parentheses. -/
def arguments (rules : Rules) : Parser Unit := do
  let _ ← listInside .parenthesis (rules.expression true)

/-- Whether an expression may begin here. -/
def expressionAhead : Ahead :=
  Ahead.any [
    Ahead.both Ahead.anyWord (Ahead.neither (Ahead.word "as")),
    Ahead.anyGroup, Ahead.literal,
    Ahead.both (Ahead.mark "!") (Ahead.neither (Ahead.mark "!=")),
    Ahead.both (Ahead.mark "-") (Ahead.neither (Ahead.either (Ahead.mark "-=") (Ahead.mark "->"))),
    Ahead.both (Ahead.mark "*") (Ahead.neither (Ahead.mark "*=")),
    Ahead.both (Ahead.mark "|") (Ahead.neither (Ahead.mark "|=")),
    Ahead.both (Ahead.mark "&") (Ahead.neither (Ahead.mark "&=")),
    Ahead.mark "..",
    Ahead.both (Ahead.mark "<") (Ahead.neither (Ahead.either (Ahead.mark "<=") (Ahead.mark "<<="))),
    Ahead.mark "::", Ahead.lifetime, Ahead.mark "#"]

/-! ## Blocks and branches -/

/-- A condition, before the braces of what depends on it. -/
def condition (rules : Rules) : Parser Unit := do
  let _ ← rules.expression false

/-- Branches after each other, at most `fuel`. -/
def branches (rules : Rules) : Nat → Parser Unit
  | 0 => giveUp
  | fuel + 1 => do
      word "if"
      condition rules
      block rules false
      if ← word? "else" then
        if ← sees (Ahead.word "if") then branches rules fuel
        else if ← sees (Ahead.group .brace) then block rules false
        else wants ["if", .curlyBraces]

/-- A branch with all that follow it. -/
def conditional (rules : Rules) : Parser ExpressionTree := do
  branches rules ((← get).length + 1)
  return formed .conditional

/-- A loop with a condition. -/
def whileLoop (rules : Rules) : Parser ExpressionTree := do
  word "while"
  condition rules
  block rules true
  return formed .whileLoop

/-- A loop over the members of something. -/
def forLoop (rules : Rules) : Parser ExpressionTree := do
  word "for"
  let _ ← alternatives rules
  word "in"
  condition rules
  block rules true
  return formed .forLoop

/-- A loop without a condition. -/
def endlessLoop (rules : Rules) : Parser ExpressionTree := do
  word "loop"
  block rules true
  return formed .loop

/-- A block without a word before it. -/
def plainBlock (rules : Rules) : Parser ExpressionTree := do
  block rules true
  return formed .block

/-- A loop or block with a label. -/
def labelled (rules : Rules) : Parser ExpressionTree := do
  let _ ← lifetime
  mark ":"
  if ← sees (Ahead.word "while") then whileLoop rules
  else if ← sees (Ahead.word "for") then forLoop rules
  else if ← sees (Ahead.word "loop") then endlessLoop rules
  else if ← sees (Ahead.group .brace) then plainBlock rules
  else wants [.loop, .blockExpression]

/-- A word and a block. -/
def wordAndBlock (rules : Rules) (name : String) (allowAttributes : Bool)
    (form : ExpressionForm) : Parser ExpressionTree := do
  word name
  block rules allowAttributes
  return formed form

/-! ## Atoms -/

/-- The member of a struct with its value, which may be left out for a name. -/
def memberValue (rules : Rules) : Parser Unit := do
  let _ ← outerAttributes rules
  let isNamed ← member
  if !isNamed || (← sees (Ahead.mark ":")) then
    mark ":"
    let _ ← rules.expression true

/-- The members of a struct, at most `fuel`; dots stand for those of another struct. -/
def memberValues (rules : Rules) : Nat → Parser Unit
  | 0 => giveUp
  | fuel + 1 => do
      if ← sees Ahead.atEnd then return ()
      if ← mark? ".." then
        if !(← sees Ahead.atEnd) then
          let _ ← rules.expression true
        return ()
      memberValue rules
      if ← sees Ahead.atEnd then return ()
      mark ","
      memberValues rules fuel

/-- A path, a call of a macro, or a struct. -/
def pathExpression (rules : Rules) (allowStruct : Bool) : Parser ExpressionTree := do
  let (start, segments) ← anyPath rules true
  if isPlainPath start segments && (← sees bangAhead) then
    mark "!"
    let delimiter ← anyGroup
    return { form := .macroCall, isBraced := delimiter == .brace }
  if allowStruct && (← sees (Ahead.group .brace)) then
    inside .brace do memberValues rules ((← get).length + 1)
    return formed .struct
  return formed .path

/-- A tuple, or an expression in parentheses. -/
def parenthesized (rules : Rules) : Parser ExpressionTree :=
  inside .parenthesis do
    if ← sees Ahead.atEnd then return formed .tuple
    let _ ← rules.expression true
    if ← sees Ahead.atEnd then return formed .parenthesized
    mark ","
    let _ ← separated "," Ahead.atEnd (rules.expression true)
    return formed .tuple

/-- An array of elements, or of one element repeated. -/
def array (rules : Rules) : Parser ExpressionTree :=
  inside .bracket do
    if ← sees Ahead.atEnd then return formed .array
    let _ ← rules.expression true
    if ← mark? ";" then
      let _ ← rules.expression true
      return formed .repeated
    if !(← sees (Ahead.either Ahead.atEnd (Ahead.mark ","))) then wants [",", ";"]
    if ← mark? "," then
      let _ ← separated "," Ahead.atEnd (rules.expression true)
    return formed .array

/-- The parameters of a closure after its first bar, at most `fuel`. -/
def closureParameters (rules : Rules) : Nat → Parser Unit
  | 0 => giveUp
  | fuel + 1 => do
      if ← sees (Ahead.mark "|") then return ()
      let _ ← outerAttributes rules
      let _ ← rules.pattern
      if ← mark? ":" then
        let _ ← rules.type true
      if ← sees (Ahead.mark "|") then return ()
      mark ","
      closureParameters rules fuel

/-- A function without a name; its body is a block if its result type is written. -/
def closure (rules : Rules) (allowStruct : Bool) : Parser ExpressionTree := do
  let _ ← boundParameters? rules
  let _ ← word? "const"
  let _ ← word? "static"
  let _ ← word? "async"
  let _ ← word? "move"
  mark "|"
  closureParameters rules ((← get).length + 1)
  mark "|"
  if ← mark? "->" then
    let _ ← rules.type true
    block rules false
  else
    let _ ← rules.expression allowStruct
  return formed .closure

/-- The forms of expressions that end by themselves, as statements and as bodies of match
arms. -/
def endsByItself (expression : ExpressionTree) : Bool :=
  [ExpressionForm.conditional, .matching, .block, .uncheckedBlock, .whileLoop, .loop, .forLoop,
    .tryBlock, .constBlock].contains expression.form

/-- An arm of a match; one whose body is no block has a comma after it, unless it is the
last one. -/
def matchArm (rules : Rules) : Parser Unit := do
  let _ ← outerAttributes rules
  let _ ← alternatives rules
  if ← word? "if" then
    let _ ← rules.expression true
  mark "=>"
  let body ← rules.statement
  if !endsByItself body && !(← sees Ahead.atEnd) then mark ","
  else
    let _ ← mark? ","

/-- A choice between patterns. -/
def matching (rules : Rules) : Parser ExpressionTree := do
  word "match"
  condition rules
  inside .brace do
    let _ ← innerAttributes rules
    let _ ← toEnd (matchArm rules)
  return formed .matching

/-- Leaves a loop or block, with a value if there is one. A value that is itself a loop or
block with a label has to stand in parentheses. -/
def breaking (rules : Rules) (allowStruct : Bool) : Parser ExpressionTree := do
  word "break"
  if ← sees (Ahead.both Ahead.lifetime (Ahead.second (Ahead.mark ":"))) then
    let _ ← rules.expression true
    refuseHere .labelledValue
  let _ ← lifetime?
  if (← sees expressionAhead) && (allowStruct || !(← sees (Ahead.group .brace))) then
    let _ ← rules.expression true
  return formed .breaking

/-- A word with a value after it, if there is one. -/
def withValue (rules : Rules) (name : String) (form : ExpressionForm) :
    Parser ExpressionTree := do
  word name
  if ← sees expressionAhead then
    let _ ← rules.expression true
  return formed form

/-- Whether a closure begins here. -/
def closureAhead : Ahead :=
  Ahead.any [Ahead.mark "|", Ahead.words ["move", "static"],
    Ahead.both (Ahead.word "for") (Ahead.second genericsAhead),
    Ahead.both (Ahead.word "const") (Ahead.neither (Ahead.second (Ahead.group .brace))),
    Ahead.both (Ahead.word "async")
      (Ahead.second (Ahead.either (Ahead.mark "|") (Ahead.word "move")))]

/-- Whether an asynchronous block begins here. -/
def asyncBlockAhead : Ahead :=
  Ahead.both (Ahead.word "async") (Ahead.either (Ahead.second (Ahead.group .brace))
    (Ahead.both (Ahead.second (Ahead.word "move")) (Ahead.third (Ahead.group .brace))))

/-- Whether a try block begins here. -/
def tryBlockAhead : Ahead :=
  Ahead.both (Ahead.word "try") (Ahead.second (Ahead.group .brace))

/-- Whether an expression begins here that begins with a path. -/
def pathExpressionAhead : Ahead :=
  Ahead.any [Ahead.pathWord, Ahead.mark "::", Ahead.mark "<",
    Ahead.both (Ahead.word "try") (Ahead.second (Ahead.either (Ahead.mark "!") (Ahead.mark "::")))]

/-- A condition that matches a pattern. -/
def letCondition (rules : Rules) (allowStruct : Bool) : Parser ExpressionTree := do
  word "let"
  let _ ← alternatives rules
  mark "="
  let _ ← rules.scrutinee allowStruct
  return formed .letCondition

/-- An asynchronous block. -/
def asyncBlock (rules : Rules) : Parser ExpressionTree := do
  word "async"
  let _ ← word? "move"
  block rules false
  return formed .asyncBlock

/-- Goes on with the next run of a loop. -/
def continuing : Parser ExpressionTree := do
  word "continue"
  let _ ← lifetime?
  return formed .continuing

/-- A call in place of the value of a function. -/
def becoming (rules : Rules) : Parser ExpressionTree := do
  word "become"
  let _ ← rules.expression true
  return formed .verbatim

/-- A value that is left to be inferred. -/
def inferred : Parser ExpressionTree := do
  word "_"
  return formed .inferred

/-- An atom that begins with a keyword of its own. -/
def keywordAtom (rules : Rules) (allowStruct : Bool) : String → Parser ExpressionTree
  | "break" => breaking rules allowStruct
  | "continue" => continuing
  | "return" => withValue rules "return" .returning
  | "become" => becoming rules
  | "let" => letCondition rules allowStruct
  | "if" => conditional rules
  | "while" => whileLoop rules
  | "for" => forLoop rules
  | "loop" => endlessLoop rules
  | "match" => matching rules
  | "yield" => withValue rules "yield" .yielding
  | "unsafe" => wordAndBlock rules "unsafe" true .uncheckedBlock
  | "const" => wordAndBlock rules "const" true .constBlock
  | "_" => inferred
  | _ => wants [.expression]

/-- An atom other than a range. -/
def atom (rules : Rules) (allowStruct : Bool) : Parser ExpressionTree := do
  if ← sees Ahead.literal then
    return { form := .literal, literal := some (← literal) }
  if ← sees asyncBlockAhead then return ← asyncBlock rules
  if ← sees tryBlockAhead then return ← wordAndBlock rules "try" false .tryBlock
  if ← sees closureAhead then return ← closure rules allowStruct
  if ← sees builtInAhead then
    builtIn
    return formed .verbatim
  if ← sees pathExpressionAhead then return ← pathExpression rules allowStruct
  match ← get with
  | .group .parenthesis _ :: _ => parenthesized rules
  | .group .bracket _ :: _ => array rules
  | .group .brace _ :: _ => plainBlock rules
  | .word name :: _ => keywordAtom rules allowStruct name
  | .lifetime _ :: _ => labelled rules
  | _ => wants [.expression]

end Grammar

end RowPlan
