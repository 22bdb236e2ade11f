import RowPlan.Source.Grammar.Types

/-!
# Patterns

Patterns bind names to parts of values. Of a pattern no more is kept than its
name, if it is one, and whether it may stand within a slice.
-/

namespace RowPlan

namespace Grammar

open RowPlan.Parser

/-! ## Ranges -/

/-- The marks of a range: whether the range needs an end. -/
def rangeMarks (allowThreeDots : Bool) : Parser Bool := do
  if ← mark? "..=" then return true
  if ← sees (Ahead.mark "...") then
    if !allowThreeDots then wants ["..="]
    mark "..."
    return true
  if ← mark? ".." then return false
  wants [".."]

/-- What ends a range pattern that has no upper end. -/
def rangePatternEnd : Ahead :=
  Ahead.any [Ahead.atEnd, Ahead.mark "|", Ahead.mark "=", Ahead.singleColon, Ahead.mark ",",
    Ahead.mark ";", Ahead.word "if"]

/-- A constant block. -/
def constBlock (rules : Rules) : Parser Unit := do
  word "const"
  block rules true

/-- An end of a range pattern, or a constant as a pattern: whether there is one. -/
def rangePatternBound (rules : Rules) : Parser Bool := do
  if ← sees rangePatternEnd then return false
  if ← sees Ahead.literal then
    let _ ← literal
  else if ← sees (Ahead.any [Ahead.pathWord, Ahead.mark "::", Ahead.mark "<"]) then
    let _ ← anyPath rules true
  else if ← sees (Ahead.word "const") then constBlock rules
  else
    wants [.literal, .identifier, "::", "<", "self", "Self", "super", "crate", "const"]
  return true

/-- The rest of a range pattern after its lower end, if it has one: whether it has an upper
end. -/
def rangePatternRest (rules : Rules) (allowThreeDots : Bool) : Parser Bool := do
  let needsEnd ← rangeMarks allowThreeDots
  let hasEnd ← rangePatternBound rules
  if needsEnd && !hasEnd then wants [.rangeEnd]
  return hasEnd

/-! ## Alternatives and sequences -/

/-- A bar between alternatives. -/
def barAhead : Ahead :=
  Ahead.both (Ahead.mark "|") (Ahead.neither (Ahead.either (Ahead.mark "||") (Ahead.mark "|=")))

/-- A pattern with alternatives, before the first of which there may be a bar. -/
def alternatives (rules : Rules) : Parser PatternTree := do
  let hasBar ← mark? "|"
  let first ← rules.pattern
  let others ← repeatWhile barAhead do
    mark "|"
    rules.pattern
  return if hasBar || !others.isEmpty then .other else first

/-- A place in a tuple: a number of 32 bits without suffix. -/
def place (isNegative : Bool) (value : Nat) (hasSuffix : Bool) : Parser Unit :=
  if hasSuffix then refuseHere (.expected [.plainInteger])
  else if isNegative then refuseHere (.numeral .invalidDigit)
  else if UInt32.size ≤ value then refuseHere (.numeral .tooLarge)
  else return ()

/-- A member of a value: whether it is a name, and not a place. -/
def member : Parser Bool := do
  if ← sees Ahead.identifier then
    let _ ← identifier
    return true
  match Literal.next? (← get) with
  | some (.integer isNegative value hasSuffix, rest) =>
      place isNegative value hasSuffix
      set rest
      return false
  | _ => wants [.identifier, .integer]

/-- A field of a struct pattern: a name to bind, or a member with a pattern for it. -/
def fieldPattern (rules : Rules) : Parser Unit := do
  let isBoxed ← word? "box"
  let isReference ← word? "ref"
  let isMutable ← word? "mut"
  if isBoxed || isReference || isMutable then
    let _ ← identifier
  else
    let isNamed ← member
    if !isNamed || (← sees (Ahead.mark ":")) then
      mark ":"
      let _ ← alternatives rules

/-- The fields of a struct pattern, at most `fuel`; dots stand for those left out. -/
def fieldPatterns (rules : Rules) : Nat → Parser Unit
  | 0 => giveUp
  | fuel + 1 => do
      if ← sees Ahead.atEnd then return ()
      let _ ← outerAttributes rules
      if ← mark? ".." then return ()
      fieldPattern rules
      if ← sees Ahead.atEnd then return ()
      mark ","
      fieldPatterns rules fuel

/-- Patterns with commas between them, in parentheses. -/
def patternsInside (rules : Rules) : Parser Unit := do
  let _ ← listInside .parenthesis (alternatives rules)

/-! ## Patterns -/

/-- A name with what binds it, and a pattern that the value has to satisfy too. -/
def namePattern (rules : Rules) : Parser PatternTree := do
  let _ ← word? "ref"
  let _ ← word? "mut"
  let name ← if ← sees (Ahead.word "self") then anyWord else identifier
  if ← mark? "@" then
    let _ ← rules.pattern
  return .name name

/-- The form of a range pattern, by whether it has an upper end. -/
def PatternTree.ofRange (hasEnd : Bool) : PatternTree :=
  if hasEnd then .other else .openRange

/-- A pattern that begins with a path. -/
def pathPattern (rules : Rules) : Parser PatternTree := do
  let (start, segments) ← anyPath rules true
  if isPlainPath start segments && (← sees bangAhead) then
    mark "!"
    let _ ← anyGroup
    return .other
  if ← sees (Ahead.group .brace) then
    inside .brace do fieldPatterns rules ((← get).length + 1)
    return .other
  if ← sees (Ahead.group .parenthesis) then
    patternsInside rules
    return .other
  if ← sees (Ahead.mark "..") then
    return PatternTree.ofRange (← rangePatternRest rules true)
  else return .other

/-- A constant, or a range that begins with one. -/
def constantPattern (rules : Rules) : Parser PatternTree := do
  let _ ← rangePatternBound rules
  if ← sees (Ahead.mark "..") then
    return PatternTree.ofRange (← rangePatternRest rules true)
  else return .other

/-- A pattern in a slice; a range without one of its ends may stand there only in
parentheses. -/
def slicePattern (rules : Rules) : Parser PatternTree := do
  let element ← alternatives rules
  match element with
  | .openRange => refuseHere .openRangeInSlice
  | .name _ | .rest | .other => return element

/-- Whether a pattern begins with a path that is more than a name. -/
def pathPatternAhead : Ahead :=
  let afterName := Ahead.second (Ahead.any [Ahead.mark "::", Ahead.mark "!",
    Ahead.group .brace, Ahead.group .parenthesis, Ahead.mark ".."])
  Ahead.any [Ahead.both Ahead.identifier afterName,
    Ahead.both (Ahead.word "self") (Ahead.second (Ahead.mark "::")),
    Ahead.mark "::", Ahead.mark "<", Ahead.words ["Self", "super", "crate"]]

/-- What a pattern begins with, in the order in which it is asked for; `last` is asked for at
the end. -/
def patternBegins (last : List Wanted) : List Wanted :=
  let first : List Wanted := [.identifier, "::", "<", "_", .literal, "const", "ref", "mut", "&",
    .parentheses, .squareBrackets]
  first ++ last

/-- A pattern without alternatives. -/
def pattern (rules : Rules) : Parser PatternTree := do
  if ← sees pathPatternAhead then pathPattern rules
  else if ← word? "_" then return .other
  else if ← word? "box" then
    let _ ← rules.pattern
    return .other
  else if ← sees (Ahead.any [Ahead.mark "-", Ahead.literal, Ahead.word "const"]) then
    constantPattern rules
  else if ← sees (Ahead.either Ahead.identifier (Ahead.words ["ref", "mut", "self"])) then
    namePattern rules
  else if ← mark? "&" then
    let _ ← word? "mut"
    let _ ← rules.pattern
    return .other
  else if ← sees (Ahead.group .parenthesis) then
    patternsInside rules
    return .other
  else if ← sees (Ahead.group .bracket) then
    let _ ← listInside .bracket (slicePattern rules)
    return .other
  else if ← sees (Ahead.mark "...") then wants (patternBegins ["const"])
  else if ← sees (Ahead.mark "..") then
    return if ← rangePatternRest rules false then .openRange else .rest
  else wants (patternBegins ["..", "const"])

end Grammar

end RowPlan
