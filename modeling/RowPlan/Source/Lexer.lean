import RowPlan.Source.Literal
import RowPlan.Text.Blank

/-!
# From text to tokens

The text is cut into pieces: blanks and comments are dropped, documentation
comments become attributes, and everything else is a token or a bracket. Then
the brackets are matched, which gives the groups.
-/

namespace RowPlan

/-- A piece of source text. -/
inductive Piece where
  | opening (delimiter : Delimiter)
  | closing (delimiter : Delimiter)
  | token (token : Token)

namespace Piece

/-! ## Blanks and comments -/

/-- Blanks between tokens; the marks that set the writing direction count as blanks. -/
def isGap (c : Char) : Bool :=
  isBlank c || c.toNat == 0x200e || c.toNat == 0x200f

/-- The rest of a block comment, in which comments may be nested, up to the end of the
outermost of `depth` open comments; `read` are the characters so far, reversed. -/
def scanBlock (depth : Nat) (read : List Char) : List Char → Option (List Char × List Char)
  | '/' :: '*' :: rest => scanBlock (depth + 1) ('*' :: '/' :: read) rest
  | '*' :: '/' :: rest =>
      if depth ≤ 1 then some (read.reverse, rest)
      else scanBlock (depth - 1) ('/' :: '*' :: read) rest
  | c :: rest => scanBlock depth (c :: read) rest
  | [] => none

/-- The rest of a line, without a carriage return at its end, and what comes after. -/
def scanLine : List Char → List Char × List Char
  | [] => ([], [])
  | c :: rest =>
      if c == '\n' then ([], c :: rest)
      else if c == '\r' && rest.head? == some '\n' then ([], rest)
      else
        let (line, after) := scanLine rest
        (c :: line, after)

/-- A comment that is none of the documentation: what comes after it. -/
def skipComment : List Char → Option (List Char)
  | '/' :: '/' :: '/' :: '/' :: rest => some (scanLine rest).2
  | '/' :: '/' :: '/' :: _ => none
  | '/' :: '/' :: '!' :: _ => none
  | '/' :: '/' :: rest => some (scanLine rest).2
  | '/' :: '*' :: '*' :: '/' :: rest => some rest
  | '/' :: '*' :: '*' :: '*' :: rest =>
      (scanBlock 1 [] ('*' :: '*' :: rest)).map Prod.snd
  | '/' :: '*' :: '*' :: _ => none
  | '/' :: '*' :: '!' :: _ => none
  | '/' :: '*' :: rest => (scanBlock 1 [] rest).map Prod.snd
  | _ => none

/-- Drops blanks and comments, at most `fuel` of them. -/
def skipGaps : Nat → List Char → List Char
  | 0, text => text
  | fuel + 1, text =>
      match skipComment text with
      | some rest => skipGaps fuel rest
      | none =>
          match text with
          | c :: rest => if isGap c then skipGaps fuel rest else c :: rest
          | [] => []

/-! ## Documentation -/

/-- Whether every carriage return is part of a line end. -/
def hasNoBareReturn : List Char → Bool
  | [] => true
  | c :: rest => (c != '\r' || rest.head? == some '\n') && hasNoBareReturn rest

/-- A documentation comment: whether it is about what encloses it, its text, and what
comes after it. -/
def scanDocumentation (text : List Char) : Option (Bool × List Char × List Char) := do
  let (isInner, content, rest) ←
    match text with
    | '/' :: '/' :: '!' :: rest =>
        let (line, rest) := scanLine rest
        some (true, line, rest)
    | '/' :: '*' :: '!' :: rest =>
        (scanBlock 1 [] ('!' :: rest)).map fun (content, rest) => (true, content.drop 1, rest)
    | '/' :: '/' :: '/' :: rest =>
        if rest.head? == some '/' then none
        else
          let (line, rest) := scanLine rest
          some (false, line, rest)
    | '/' :: '*' :: '*' :: rest =>
        if rest.head? == some '*' then none
        else
          (scanBlock 1 [] ('*' :: rest)).map fun (content, rest) => (false, content.drop 1, rest)
    | _ => none
  if hasNoBareReturn content then some (isInner, content, rest) else none

/-- The attribute that a documentation comment stands for. -/
def documentation (isInner : Bool) (content : List Char) : List Piece :=
  token (.mark '#' false) :: (if isInner then [token (.mark '!' false)] else [])
    ++ [opening .bracket, token (.word "doc"), token (.mark '=' false),
      token (.literal (.string (String.ofList content))), closing .bracket]

/-! ## Words and marks -/

/-- The words that an escape does not turn into names. -/
def fixedWords : List String := ["_", "super", "self", "Self", "crate"]

/-- An identifier or keyword; an escaped identifier keeps its escape. -/
def scanWord : List Char → Option (String × List Char)
  | 'r' :: '#' :: rest => do
      let (name, rest) ← Literal.scanName rest
      if fixedWords.contains (String.ofList name) then none
      else some (String.ofList ('r' :: '#' :: name), rest)
  | text => (Literal.scanName text).map fun (name, rest) => (String.ofList name, rest)

/-- The beginnings of literals, which are no words. -/
def literalOpenings : List String :=
  ["r\"", "r#\"", "r##", "b\"", "b'", "br\"", "br#", "c\"", "cr\"", "cr#"]

/-- Whether a mark begins here; a comment is no mark. -/
def startsMark : List Char → Bool
  | '/' :: '/' :: _ => false
  | '/' :: '*' :: _ => false
  | c :: _ => "~!@#$%^&*-=+|;:,<.>/?'".toList.contains c
  | [] => false

/-- Whether a literal begins here that looks like a word at first. -/
def startsLiteral (text : List Char) : Bool :=
  literalOpenings.any fun opening => opening.toList.isPrefixOf text

/-- A lifetime after its quote, which is not closed like the quote of a character. Where the
name turns out to begin a literal, the quote is a mark of its own. -/
def scanLifetime (text : List Char) : Option (Token × List Char) := do
  let (name, rest) ← scanWord text
  let isEscaped := "r#".toList.isPrefixOf text
  if rest.head? == some '\'' || rest.head? == some '#' && !isEscaped then none
  else if startsLiteral text then some (.mark '\'' true, text)
  else some (.lifetime name, rest)

/-- A literal, mark or word. -/
def scanToken (text : List Char) : Option (Token × List Char) :=
  match Literal.scan text with
  | some (literal, rest) => some (.literal literal, rest)
  | none =>
      match text with
      | [] => none
      | '\'' :: rest => scanLifetime rest
      | c :: rest =>
          if startsMark (c :: rest) then some (.mark c (startsMark rest), rest)
          else if startsLiteral text then none
          else (scanWord text).map fun (name, rest) => (.word name, rest)

/-- How text is written that could not be read. -/
def unreadableText : List Char := "(/*ERROR*/)".toList

/-! ## Pieces -/

/-- The bracket that a character is. -/
def bracket? : Char → Option Piece
  | '(' => some (opening .parenthesis)
  | '[' => some (opening .bracket)
  | '\x7b' => some (opening .brace)
  | ')' => some (closing .parenthesis)
  | ']' => some (closing .bracket)
  | '\x7d' => some (closing .brace)
  | _ => none

/-- Cuts a text into pieces, at most `fuel` of them. -/
def scanAll : Nat → List Char → Option (List Piece)
  | 0, _ => none
  | fuel + 1, text =>
      let text := skipGaps fuel text
      match scanDocumentation text with
      | some (isInner, content, rest) => do
          return documentation isInner content ++ (← scanAll fuel rest)
      | none =>
          match text with
          | [] => some []
          | c :: rest =>
              if unreadableText.isPrefixOf text then do
                let rest := text.drop unreadableText.length
                return token (.literal .unreadable) :: (← scanAll fuel rest)
              else
                match bracket? c with
                | some piece => do return piece :: (← scanAll fuel rest)
                | none => do
                    let (read, rest) ← scanToken text
                    return token read :: (← scanAll fuel rest)

/-- Matches brackets. `outer` are the groups that are open, the innermost first, each with
the tokens before it; `read` are the tokens of the innermost one. Both lists of tokens are
reversed. -/
def nest (outer : List (Delimiter × List Token)) (read : List Token) :
    List Piece → Option (List Token)
  | [] => if outer.isEmpty then some read.reverse else none
  | token next :: rest => nest outer (next :: read) rest
  | opening delimiter :: rest => nest ((delimiter, read) :: outer) [] rest
  | closing delimiter :: rest =>
      match outer with
      | (expected, before) :: outer =>
          if delimiter = expected then nest outer (.group delimiter read.reverse :: before) rest
          else none
      | [] => none

end Piece

/-- The tokens of a text. -/
def Token.ofText? (text : List Char) : Option (List Token) := do
  Piece.nest [] [] (← Piece.scanAll (text.length + 1) text)

end RowPlan
