import RowPlan.Text.Alphanumeric
import RowPlan.Text.Blank

/-!
# Placeholders in SQL text

A placeholder is a colon followed by a name. Colons in quoted runs and in casts,
which are written with two colons, begin none. A placeholder alone in the
parentheses of `IN` stands for a list, and the whole of it is replaced.
-/

namespace RowPlan

/-- A character that may begin the name of a placeholder. -/
def isPlaceholderStart (c : Char) : Bool :=
  c.isAlpha || c == '_'

/-- A character that may stand in the name of a placeholder. -/
def isPlaceholderPart (c : Char) : Bool :=
  c.isAlphanum || c == '_'

/-- What SQL text is made of: characters and placeholder names. -/
inductive SqlToken where
  | char (c : Char)
  | name (name : List Char)
  deriving DecidableEq, Repr

/-- Finds the placeholder names in a text. `quote` is the quotation mark of the run
that the text is in, and the next `skipped` characters have been dealt with. -/
def scanPlaceholders (quote : Option Char) (skipped : Nat) : List Char → List SqlToken
  | [] => []
  | c :: rest =>
      match skipped, quote with
      | skipped + 1, _ => scanPlaceholders quote skipped rest
      | 0, some mark =>
          .char c :: scanPlaceholders (if c = mark then none else some mark) 0 rest
      | 0, none =>
          if c = '\'' ∨ c = '"' then .char c :: scanPlaceholders (some c) 0 rest
          else if c = ':' then
            match rest with
            | ':' :: _ => .char ':' :: .char ':' :: scanPlaceholders none 1 rest
            | next :: _ =>
                if isPlaceholderStart next then
                  let name := rest.takeWhile isPlaceholderPart
                  .name name :: scanPlaceholders none name.length rest
                else .char ':' :: scanPlaceholders none 0 rest
            | [] => [.char ':']
          else .char c :: scanPlaceholders none 0 rest

/-- A piece of SQL text between or at placeholders. -/
inductive Segment where
  | text (text : String)
  /-- A named value, which is a list where it stood alone in the parentheses of `IN`. -/
  | value (name : String) (isList : Bool)
  deriving DecidableEq, Repr

/-- Where the reversed text before a placeholder ends with `IN (`: the reversed text
before that. -/
def beforeListOpening (before : List Char) : Option (List Char) :=
  match before.dropWhile isBlank with
  | '(' :: before =>
      match before.dropWhile isBlank with
      | n :: i :: before =>
          if n.toUpper = 'N' ∧ i.toUpper = 'I' then
            match before with
            | c :: _ => if isLetterOrNumber c || c == '_' then none else some before
            | [] => some before
          else none
      | _ => none
  | _ => none

/-- Where the text after a placeholder begins with the closing parenthesis: how many
tokens that takes. -/
def listClosingLength : List SqlToken → Option Nat
  | .char c :: rest =>
      if isBlank c then (listClosingLength rest).map (· + 1)
      else if c = ')' then some 1
      else none
  | _ => none

/-- The text read so far, unless it is empty. -/
def textSegment (before : List Char) : List Segment :=
  if before.isEmpty then [] else [.text (String.ofList before.reverse)]

/-- Gathers tokens into segments. `before` is the reversed text since the last
placeholder, and the next `skipped` tokens have been dealt with. -/
def segmentsAfter (before : List Char) (skipped : Nat) : List SqlToken → List Segment
  | [] => textSegment before
  | token :: rest =>
      match skipped, token with
      | skipped + 1, _ => segmentsAfter before skipped rest
      | 0, .char c => segmentsAfter (c :: before) 0 rest
      | 0, .name name =>
          match beforeListOpening before, listClosingLength rest with
          | some kept, some length =>
              textSegment kept ++ .value (String.ofList name) true :: segmentsAfter [] length rest
          | _, _ =>
              textSegment before ++ .value (String.ofList name) false :: segmentsAfter [] 0 rest

/-- The segments of a text. -/
def segments (text : String) : List Segment :=
  segmentsAfter [] 0 (scanPlaceholders none 0 text.toList)

/-- The names of the placeholders, in the order of the text. -/
def placeholderNames (pieces : List Segment) : List String :=
  pieces.filterMap fun
    | .value name _ => some name
    | .text _ => none

end RowPlan
