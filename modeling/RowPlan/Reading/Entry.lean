import RowPlan.Reading.Fault
import RowPlan.Source.Grammar.File

/-!
# Entries of attributes

An attribute may hold entries with commas between them. An entry is a literal, or
a key with nothing, a group of tokens or a value after it.
-/

namespace RowPlan

/-- An entry of an attribute. -/
inductive Entry where
  | literal
  | keyed (path : List String) (form : AttributeForm)

namespace Entry

open RowPlan.Parser

/-- The names of a key, with colons between them; keywords may be names. -/
def names : Parser (List String) := do
  let first ← anyWord
  let others ← repeatWhile (Ahead.mark "::") do
    mark "::"
    if ← sees Ahead.anyWord then anyWord else wants [.pathName]
  return first :: others

/-- Whether a truth value is used as a key. -/
def wordAsKey : Ahead :=
  Ahead.both (Ahead.words ["true", "false"]) (Ahead.second (Ahead.mark "="))

/-- An entry. -/
def entry (rules : Rules) : Parser Entry := do
  if ← sees (Ahead.both Ahead.literal (Ahead.neither wordAsKey)) then
    let _ ← Parser.literal
    return .literal
  else if ← sees Ahead.anyWord then
    return .keyed (← names) (← Grammar.attributeForm rules)
  else wants [.identifier, .literal]

/-- The entries that make up the tokens of an attribute. -/
def readAll (tokens : List Token) : Except FaultCause (List Entry) :=
  let entries := Grammar.withRules fun rules => separated "," Ahead.atEnd (entry rules)
  (run entries tokens).mapError .malformed

end Entry

end RowPlan
