import RowPlan.Source.Token
import RowPlan.Text.Identifier
import RowPlan.Text.Numeral

/-!
# Literals in source text

Reading a literal off the front of a text. Strings and characters may be
written with escapes; numbers in one of four bases, with underscores between
the digits and a suffix after them.
-/

namespace RowPlan

namespace Literal

/-- Takes something off the front of a text. -/
abbrev Scan (α : Type) : Type :=
  List Char → Option (α × List Char)

/-! ## Identifiers and suffixes -/

/-- An identifier without an escape. -/
def scanName : Scan (List Char)
  | [] => none
  | c :: rest =>
      if isIdentifierStart c then
        some (c :: rest.takeWhile isIdentifierPart, rest.dropWhile isIdentifierPart)
      else none

/-- A suffix, which may be empty, and what comes after it. -/
def scanSuffix (text : List Char) : List Char × List Char :=
  (scanName text).getD ([], text)

/-! ## Escapes -/

/-- What kind of text a literal holds. -/
inductive Content where
  /-- Any characters. -/
  | text
  /-- ASCII characters, as bytes. -/
  | bytes
  /-- Any characters but zero. -/
  | zeroEnded
  deriving DecidableEq

/-- A character by its number in two hexadecimal digits: an ASCII character in a text. -/
def scanHexEscape (content : Content) : Scan Char
  | high :: low :: rest => do
      let code := (← hexValue? high) * 16 + (← hexValue? low)
      match content with
      | .text => if code < 0x80 then some (Char.ofNat code, rest) else none
      | .bytes => some (Char.ofNat code, rest)
      | .zeroEnded => if code = 0 then none else some (Char.ofNat code, rest)
  | _ => none

/-- A character by its number in up to six hexadecimal digits, of which `count` have been
read with the value `value`, and a closing brace. -/
def scanNumberEscape (value count : Nat) : Scan Char
  | [] => none
  | c :: rest =>
      if c == '_' && count > 0 then scanNumberEscape value count rest
      else if c == '\x7d' && count > 0 then
        if value.isValidChar then some (Char.ofNat value, rest) else none
      else do
        let digit ← hexValue? c
        if count < 6 then scanNumberEscape (value * 16 + digit) (count + 1) rest else none

/-- An escape after its backslash. -/
def scanEscape (content : Content) : Scan Char
  | 'n' :: rest => some ('\n', rest)
  | 'r' :: rest => some ('\r', rest)
  | 't' :: rest => some ('\t', rest)
  | '\\' :: rest => some ('\\', rest)
  | '\'' :: rest => some ('\'', rest)
  | '"' :: rest => some ('"', rest)
  | '0' :: rest => if content = .zeroEnded then none else some (Char.ofNat 0, rest)
  | 'x' :: rest => scanHexEscape content rest
  | 'u' :: '\x7b' :: rest =>
      if content = .bytes then none
      else (scanNumberEscape 0 0 rest).filter fun (c, _) => content = .text || c.toNat != 0
  | _ => none

/-- The text after a line end that a backslash hides: blanks are dropped, and something
has to follow. `last` is the character that was read last. -/
def skipHiddenBlanks (last : Char) : List Char → Option (List Char)
  | [] => none
  | c :: rest =>
      if last == '\r' && c != '\n' then none
      else if c == ' ' || c == '\t' || c == '\n' || c == '\r' then skipHiddenBlanks c rest
      else some (c :: rest)

/-! ## Strings -/

/-- Whether a character may stand in a literal as it is. -/
def admits (content : Content) (c : Char) : Bool :=
  match content with
  | .text => true
  | .bytes => c.toNat < 0x80
  | .zeroEnded => c.toNat != 0

/-- The rest of a string with escapes after its opening quote, of at most `fuel`
characters; `read` are the characters so far, reversed. A line end may be written with a
carriage return, which is dropped. -/
def scanEscaped (content : Content) (read : List Char) : Nat → Scan (List Char)
  | 0, _ => none
  | _ + 1, [] => none
  | fuel + 1, c :: rest =>
      if c == '"' then some (read.reverse, rest)
      else if c == '\\' then
        match rest with
        | '\n' :: rest => do scanEscaped content read fuel (← skipHiddenBlanks '\n' rest)
        | '\r' :: rest => do scanEscaped content read fuel (← skipHiddenBlanks '\r' rest)
        | rest => do
            let (escaped, rest) ← scanEscape content rest
            scanEscaped content (escaped :: read) fuel rest
      else if c == '\r' then
        match rest with
        | '\n' :: rest => scanEscaped content ('\n' :: read) fuel rest
        | _ => none
      else if admits content c then scanEscaped content (c :: read) fuel rest
      else none

/-- The rest of a string without escapes, up to its closing quote and hashes. -/
def scanRawText (content : Content) (hashes : List Char) (read : List Char) : Scan (List Char)
  | [] => none
  | c :: rest =>
      if c == '"' && hashes.isPrefixOf rest then
        some (read.reverse, rest.drop hashes.length)
      else if c == '\r' && rest.head? != some '\n' then none
      else if admits content c then scanRawText content hashes (c :: read) rest
      else none

/-- A string without escapes after the letters that mark it: hashes, the text between
quotes, and as many hashes again. -/
def scanRaw (content : Content) (text : List Char) : Option (List Char × List Char) :=
  let hashes := text.takeWhile fun c => c == '#'
  match text.drop hashes.length with
  | '"' :: rest => if hashes.length ≤ 255 then scanRawText content hashes [] rest else none
  | _ => none

/-- The characters of a string of the given content, after the letter for the content. -/
def scanQuoted (content : Content) : Scan (List Char)
  | '"' :: rest => scanEscaped content [] (rest.length + 1) rest
  | 'r' :: rest => scanRaw content rest
  | _ => none

/-- A string literal. -/
def scanString (text : List Char) : Option (Literal × List Char) :=
  let (content, rest) := match text with
    | 'b' :: rest => (Content.bytes, rest)
    | 'c' :: rest => (Content.zeroEnded, rest)
    | rest => (Content.text, rest)
  (scanQuoted content rest).map fun (value, rest) =>
    let literal := match content with
      | .text => string (String.ofList value)
      | .bytes => byteString
      | .zeroEnded => zeroString
    (literal, (scanSuffix rest).2)

/-! ## Characters -/

/-- A character or byte after its opening quote. -/
def scanBetweenQuotes (content : Content) : Scan Unit
  | [] => none
  | c :: rest => do
      let rest ←
        if c == '\\' then (scanEscape content rest).map Prod.snd
        else if admits content c then some rest
        else none
      match rest with
      | '\'' :: rest => some ((), (scanSuffix rest).2)
      | _ => none

/-- A character or a byte between single quotes. -/
def scanCharacter : Scan Literal
  | '\'' :: rest => (scanBetweenQuotes .text rest).map fun (_, rest) => (character, rest)
  | 'b' :: '\'' :: rest => (scanBetweenQuotes .bytes rest).map fun (_, rest) => (byte, rest)
  | _ => none

/-! ## Numbers -/

/-- A word may not go on right after a number. -/
def endsWord (text : List Char) : Bool :=
  !(text.head?.map isIdentifierPart).getD false

/-- A suffix and the end of a number. -/
def scanNumberEnd (text : List Char) : Option (List Char × List Char) :=
  let (suffix, rest) := scanSuffix text
  if endsWord rest then some (suffix, rest) else none

/-- What goes on in a number: a digit or an underscore. -/
def isDigitOrLine (c : Char) : Bool :=
  c.isDigit || c == '_'

/-- An exponent after its letter: at most one sign, before the digits, of which there has
to be one. -/
def scanExponent (hasSign hasValue : Bool) : Scan (List Char)
  | [] => if hasValue then some ([], []) else none
  | c :: rest =>
      let goOn (sign value : Bool) :=
        (scanExponent sign value rest).map fun (digits, rest) => (c :: digits, rest)
      if c == '+' || c == '-' then
        if hasValue then some ([], c :: rest) else if hasSign then none else goOn true false
      else if c.isDigit then goOn hasSign true
      else if c == '_' then goOn hasSign hasValue
      else if hasValue then some ([], c :: rest) else none

/-- An exponent with its letter. -/
def scanExponentPart : Scan (List Char)
  | c :: rest =>
      if c == 'e' || c == 'E' then
        (scanExponent false false rest).map fun (digits, rest) => (c :: digits, rest)
      else none
  | [] => none

/-- A number with a point or an exponent. A point that another one or a name follows is
none of the number. -/
def scanFloatDigits (text : List Char) : Option (List Char × List Char) :=
  let whole := text.takeWhile isDigitOrLine
  match text.dropWhile isDigitOrLine with
  | '.' :: rest =>
      if (rest.head?.map fun c => c == '.' || isIdentifierStart c).getD false then none
      else
        let mantissa := whole ++ '.' :: rest.takeWhile isDigitOrLine
        let rest := rest.dropWhile isDigitOrLine
        match scanExponentPart rest with
        | some (exponent, rest) => some (mantissa ++ exponent, rest)
        | none => some (mantissa, rest)
  | rest => (scanExponentPart rest).map fun (exponent, rest) => (whole ++ exponent, rest)

/-- A number with a fraction or an exponent. -/
def scanFloat (text : List Char) : Option (Literal × List Char) := do
  if !(text.head?.map Char.isDigit).getD false then none
  let (digits, rest) ← scanFloatDigits text
  let (suffix, rest) ← scanNumberEnd rest
  some (float (String.ofList digits) (String.ofList suffix), rest)

/-- The digits of a whole number, of which those read have the given value, if there are
any. A digit that the base does not have is a fault; a letter ends the number. -/
def scanDigits (base : Nat) (value : Option Nat) : Scan Nat
  | [] => value.map fun value => (value, [])
  | c :: rest =>
      let read (digit : Nat) := scanDigits base (some (value.getD 0 * base + digit)) rest
      let stop := value.map fun value => (value, c :: rest)
      if c == '_' then
        if value.isNone && base == 10 then none else scanDigits base value rest
      else match hexValue? c with
        | none => stop
        | some digit => if digit < base then read digit else if c.isDigit then none else stop

/-- The base of a number by its first characters, and the digits. -/
def numberBase : List Char → Nat × List Char
  | '0' :: 'x' :: rest => (16, rest)
  | '0' :: 'o' :: rest => (8, rest)
  | '0' :: 'b' :: rest => (2, rest)
  | text => (10, text)

/-- A whole number in any base. -/
def scanInteger (text : List Char) : Option (Literal × List Char) := do
  let (base, digits) := numberBase text
  let (value, rest) ← scanDigits base none digits
  let (suffix, rest) ← scanNumberEnd rest
  some (integer false value (!suffix.isEmpty), rest)

/-- A literal. -/
def scan (text : List Char) : Option (Literal × List Char) :=
  (((scanString text).or (scanCharacter text)).or (scanFloat text)).or (scanInteger text)

end Literal

end RowPlan
