/-!
# Tokens

Source text is a sequence of tokens: words, marks, literals and bracketed
groups of tokens. A mark is one character; marks that stand next to each other
are joined, so that longer operators can be recognised.
-/

namespace RowPlan

/-- The brackets around a group of tokens. -/
inductive Delimiter where
  | parenthesis
  | bracket
  | brace
  deriving DecidableEq, Repr

/-- A literal, with its value where the value matters. -/
inductive Literal where
  | string (value : String)
  | byteString
  /-- A text that ends with a zero byte. -/
  | zeroString
  | byte
  | character
  /-- A whole number: sign, absolute value, and whether a suffix follows it. -/
  | integer (negative : Bool) (value : Nat) (hasSuffix : Bool)
  /-- A number with a point or an exponent, and its suffix, which may be empty. -/
  | float (digits suffix : String)
  | boolean
  /-- Stands for text that could not be read. -/
  | unreadable
  deriving DecidableEq, Repr

/-- A token of source text. -/
inductive Token where
  /-- An identifier or keyword. -/
  | word (name : String)
  | lifetime (name : String)
  /-- A mark, and whether it is joined to a mark that follows. -/
  | mark (mark : Char) (joined : Bool)
  | literal (value : Literal)
  | group (delimiter : Delimiter) (tokens : List Token)

namespace Token

mutual

/-- The number of tokens in a token, itself included. -/
def count : Token → Nat
  | group _ tokens => countAll tokens + 1
  | word _ | lifetime _ | mark _ _ | literal _ => 1

/-- The number of tokens in a list of tokens. -/
def countAll : List Token → Nat
  | [] => 0
  | token :: rest => token.count + countAll rest

end

end Token

end RowPlan
