import RowPlan.Source.SyntaxFault

/-!
# Parsers of tokens

A parser takes something off the front of a list of tokens, or says why it
cannot. What lies ahead is asked with tests on the list of tokens that are left.
A group that is left with tokens in it does not end the parsing, so that a later
fault is reported rather; the first such group is noted for the end.
-/

namespace RowPlan

/-- Takes something off the front of a list of tokens. The brackets of the first group that
was left with tokens in it are kept. -/
abbrev Parser := StateT (List Token) (StateT (Option Delimiter) (Except SyntaxFault))

/-- A test on the tokens that are left. -/
abbrev Ahead := List Token → Bool

/-! ## Tests -/

namespace Ahead

/-- Marks that are joined to each other. -/
def marks : List Char → Ahead
  | [], _ => true
  | [c], .mark mark _ :: _ => c == mark
  | c :: more, .mark mark true :: rest => c == mark && marks more rest
  | _, _ => false

/-- An operator or separator of one mark or several. -/
def mark (text : String) : Ahead :=
  marks text.toList

/-- A given word. -/
def word (name : String) : Ahead
  | .word next :: _ => next == name
  | _ => false

/-- One of some words. -/
def words (names : List String) : Ahead
  | .word next :: _ => names.contains next
  | _ => false

/-- The words that are no identifiers. -/
def keywords : List String := [
  "_", "abstract", "as", "async", "await", "become", "box", "break", "const", "continue",
  "crate", "do", "dyn", "else", "enum", "extern", "false", "final", "fn", "for", "if", "impl",
  "in", "let", "loop", "macro", "match", "mod", "move", "mut", "override", "priv", "pub", "ref",
  "return", "Self", "self", "static", "struct", "super", "trait", "true", "try", "type",
  "typeof", "unsafe", "unsized", "use", "virtual", "where", "while", "yield"]

/-- A word that is no keyword. -/
def identifier : Ahead
  | .word name :: _ => !keywords.contains name
  | _ => false

/-- An identifier or keyword. -/
def anyWord : Ahead
  | .word _ :: _ => true
  | _ => false

/-- A lifetime. -/
def lifetime : Ahead
  | .lifetime _ :: _ => true
  | _ => false

/-- A group in given brackets. -/
def group (delimiter : Delimiter) : Ahead
  | .group next _ :: _ => next == delimiter
  | _ => false

/-- A group in any brackets. -/
def anyGroup : Ahead
  | .group _ _ :: _ => true
  | _ => false

end Ahead

/-- The literal that comes next, and what comes after it: truth values are words, and numbers
may have a sign. -/
def Literal.next? : List Token → Option (Literal × List Token)
  | .literal value :: rest => some (value, rest)
  | .word "true" :: rest => some (.boolean, rest)
  | .word "false" :: rest => some (.boolean, rest)
  | .mark '-' _ :: .literal (.integer _ value hasSuffix) :: rest =>
      some (.integer true value hasSuffix, rest)
  | .mark '-' _ :: .literal (.float digits suffix) :: rest =>
      some (.float ("-" ++ digits) suffix, rest)
  | _ => none

namespace Ahead

/-- A literal. -/
def literal : Ahead := fun tokens =>
  (Literal.next? tokens).isSome

/-- A literal that is a text. -/
def stringLiteral : Ahead := fun tokens =>
  match Literal.next? tokens with
  | some (.string _, _) => true
  | _ => false

/-- No tokens are left. -/
def atEnd : Ahead :=
  List.isEmpty

/-- A test on the tokens after the next one. -/
def second (test : Ahead) : Ahead := fun tokens =>
  test tokens.tail

/-- A test on the tokens after the next two. -/
def third (test : Ahead) : Ahead := fun tokens =>
  test tokens.tail.tail

/-- One of two tests. -/
def either (first other : Ahead) : Ahead := fun tokens =>
  first tokens || other tokens

/-- Two tests at once. -/
def both (first other : Ahead) : Ahead := fun tokens =>
  first tokens && other tokens

/-- The failure of a test. -/
def neither (test : Ahead) : Ahead := fun tokens =>
  !test tokens

/-- One of several tests. -/
def any (tests : List Ahead) : Ahead := fun tokens =>
  tests.any fun test => test tokens

/-- A colon that is not doubled. -/
def singleColon : Ahead :=
  both (mark ":") (neither (mark "::"))

/-- A dot that is not doubled. -/
def singleDot : Ahead :=
  both (mark ".") (neither (mark ".."))

/-- A word that begins a path. -/
def pathWord : Ahead :=
  either identifier (words ["self", "Self", "super", "crate"])

end Ahead

/-! ## Parsers -/

namespace Parser

/-! ### Faults -/

/-- Fails for a cause; whether the tokens have ended is reported with it. -/
def refuse {α : Type} (cause : SyntaxCause) : Parser α := do
  throw { cause, atEnd := (← get).isEmpty }

/-- Fails for a cause that is reported by itself. -/
def refuseHere {α : Type} (cause : SyntaxCause) : Parser α :=
  throw { cause }

/-- Fails since nothing that is wanted comes next. -/
def wants {α : Type} (wanted : List Wanted) : Parser α :=
  refuse (.expected wanted)

/-- Fails since no steps are left. -/
def giveUp {α : Type} : Parser α :=
  refuseHere .outOfSteps

/-! ### What lies ahead -/

/-- Asks what lies ahead. -/
def sees (test : Ahead) : Parser Bool := do
  return test (← get)

/-- What a parser would take, if it would not fail. -/
def look {α : Type} (parser : Parser α) : Parser (Option α) := fun tokens leftOver =>
  match parser tokens leftOver with
  | .ok ((value, _), _) => .ok ((some value, tokens), leftOver)
  | .error _ => .ok ((none, tokens), leftOver)

/-- Runs a parser if it succeeds. -/
def attempt {α : Type} (parser : Parser α) : Parser (Option α) := fun tokens leftOver =>
  match parser tokens leftOver with
  | .ok ((value, rest), leftOver) => .ok ((some value, rest), leftOver)
  | .error _ => .ok ((none, tokens), leftOver)

/-! ### Tokens -/

/-- Takes a number of tokens. -/
def skip (count : Nat) : Parser Unit :=
  modify fun tokens => tokens.drop count

/-- Joined marks. -/
def mark (text : String) : Parser Unit := do
  if ← sees (Ahead.mark text) then skip text.length
  else refuseHere (.expected [text])

/-- Joined marks, if they lie ahead. -/
def mark? (text : String) : Parser Bool := do
  if ← sees (Ahead.mark text) then
    skip text.length
    return true
  else return false

/-- Joined marks, if they lie ahead and are allowed. -/
def markIf? (isAllowed : Bool) (text : String) : Parser Bool :=
  if isAllowed then mark? text else return false

/-- A given word. -/
def word (name : String) : Parser Unit := do
  if ← sees (Ahead.word name) then skip 1 else wants [name]

/-- A given word, if it lies ahead. -/
def word? (name : String) : Parser Bool := do
  if ← sees (Ahead.word name) then
    skip 1
    return true
  else return false

/-- A given word, if it lies ahead and is allowed. -/
def wordIf? (isAllowed : Bool) (name : String) : Parser Bool :=
  if isAllowed then word? name else return false

/-- An identifier or keyword. -/
def anyWord : Parser String := do
  match ← get with
  | .word name :: _ =>
      skip 1
      return name
  | _ => wants [.identifier]

/-- A word that is no keyword. -/
def identifier : Parser String := do
  match ← get with
  | .word name :: _ =>
      if Ahead.keywords.contains name then refuseHere (.keyword name)
      skip 1
      return name
  | _ => wants [.identifier]

/-- A lifetime. -/
def lifetime : Parser String := do
  match ← get with
  | .lifetime name :: _ =>
      skip 1
      return name
  | _ => wants [.lifetime]

/-- A lifetime, if one lies ahead. -/
def lifetime? : Parser Bool := do
  if ← sees Ahead.lifetime then
    let _ ← lifetime
    return true
  else return false

/-- A literal of a wanted kind. -/
def literalOf {α : Type} (wanted : Wanted) (pick : Literal → Option α) : Parser α := do
  match Literal.next? (← get) with
  | some (literal, rest) =>
      match pick literal with
      | some value =>
          set rest
          return value
      | none => wants [wanted]
  | none => wants [wanted]

/-- A literal. -/
def literal : Parser Literal :=
  literalOf .literal some

/-! ### Groups -/

/-- Notes the brackets of a group if tokens are left in it. -/
def closeGroup (delimiter : Delimiter) : Parser Unit := do
  if !(← sees Ahead.atEnd) then
    modifyThe (Option Delimiter) fun first => first.or (some delimiter)

/-- A parser on the tokens of a group. -/
def inside {α : Type} (delimiter : Delimiter) (parser : Parser α) : Parser α := do
  match ← get with
  | .group found tokens :: rest =>
      if found = delimiter then
        set tokens
        let value ← parser
        closeGroup delimiter
        set rest
        return value
      else wants [.group delimiter]
  | _ => wants [.group delimiter]

/-- A group in given brackets, with any tokens in it. -/
def opaqueGroup (delimiter : Delimiter) : Parser Unit := do
  if ← sees (Ahead.group delimiter) then skip 1 else wants [.group delimiter]

/-- A group in any brackets, with any tokens in it; says which brackets. -/
def anyGroup : Parser Delimiter := do
  match ← get with
  | .group delimiter _ :: _ =>
      skip 1
      return delimiter
  | _ => wants [.delimiter]

/-! ## Repetition -/

/-- Repeats a parser at most `fuel` times, while it gives `some`. -/
def repeatUpTo {α : Type} (parser : Parser (Option α)) : Nat → Parser (List α)
  | 0 => return []
  | fuel + 1 => do
      match ← parser with
      | some value => return value :: (← repeatUpTo parser fuel)
      | none => return []

/-- Repeats a parser that takes something, while it gives `some`. -/
def repeating {α : Type} (parser : Parser (Option α)) : Parser (List α) := do
  repeatUpTo parser ((← get).length + 1)

/-- Repeats a parser while a test succeeds. -/
def repeatWhile {α : Type} (test : Ahead) (parser : Parser α) : Parser (List α) :=
  repeating do
    if ← sees test then return some (← parser) else return none

/-- Repeats a parser until nothing is left. -/
def toEnd {α : Type} (parser : Parser α) : Parser (List α) :=
  repeatWhile (Ahead.neither Ahead.atEnd) parser

/-- Values with a separator after each but the last, which may have one too, up to `stop`.
At most `fuel` of them. -/
def separatedUpTo {α : Type} (separator : String) (stop : Ahead) (parser : Parser α) :
    Nat → Parser (List α)
  | 0 => return []
  | fuel + 1 => do
      if ← sees stop then return []
      let value ← parser
      if ← sees stop then return [value]
      mark separator
      return value :: (← separatedUpTo separator stop parser fuel)

/-- Values with a separator between them, up to `stop`. -/
def separated {α : Type} (separator : String) (stop : Ahead) (parser : Parser α) :
    Parser (List α) := do
  separatedUpTo separator stop parser ((← get).length + 1)

/-- Values with a separator between them, as long as there is one; there may be one after
the last value, before `stop`. At most `fuel` of them. -/
def joinedUpTo {α : Type} (separator : String) (stop : Ahead) (parser : Parser α) :
    Nat → Parser (List α)
  | 0 => return []
  | fuel + 1 => do
      if ← sees stop then return []
      let value ← parser
      if ← mark? separator then
        return value :: (← joinedUpTo separator stop parser fuel)
      else return [value]

/-- Values with a separator between them, as long as there is one. -/
def joined {α : Type} (separator : String) (stop : Ahead) (parser : Parser α) :
    Parser (List α) := do
  joinedUpTo separator stop parser ((← get).length + 1)

/-- Values with commas between them that fill a group. -/
def listInside {α : Type} (delimiter : Delimiter) (parser : Parser α) : Parser (List α) :=
  inside delimiter (separated "," Ahead.atEnd parser)

/-! ## All tokens -/

/-- What a parser takes if it takes all tokens. -/
def run {α : Type} (parser : Parser α) (tokens : List Token) : Except SyntaxFault α := do
  let ((value, rest), leftOver) ← parser tokens none
  if leftOver.isSome || !rest.isEmpty then throw { cause := .leftOver leftOver }
  else return value

end Parser

end RowPlan
