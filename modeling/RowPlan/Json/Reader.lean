import RowPlan.Json
import RowPlan.Text.Numeral

/-!
# Reading JSON text

A text is one value with blanks around its parts. Arrays and objects may be
nested to a depth of 127. Of several members of an object with one key the last
one counts; numbers that are not written as plain integers of at most 64 bits
keep their text.
-/

namespace RowPlan

namespace Json

/-- Takes something off the front of a text. -/
abbrev Reader (α : Type) : Type :=
  List Char → Option (α × List Char)

/-- The blanks of the format. -/
def isSpace (c : Char) : Bool :=
  c == ' ' || c == '\n' || c == '\t' || c == '\r'

/-- Drops the blanks at the start. -/
def skipSpace (text : List Char) : List Char :=
  text.dropWhile isSpace

/-! ## Texts -/

/-- Four hexadecimal digits. -/
def readUnit : Reader Nat
  | a :: b :: c :: d :: rest => do
      let a ← hexValue? a
      let b ← hexValue? b
      let c ← hexValue? c
      let d ← hexValue? d
      some (((a * 16 + b) * 16 + c) * 16 + d, rest)
  | _ => none

/-- A character written by its code, in two units where one does not hold it. -/
def readCode (text : List Char) : Option (Char × List Char) := do
  let (unit, rest) ← readUnit text
  if 0xD800 ≤ unit && unit < 0xDC00 then
    match rest with
    | '\\' :: 'u' :: rest =>
        let (second, rest) ← readUnit rest
        if 0xDC00 ≤ second && second < 0xE000 then
          some (Char.ofNat (0x10000 + (unit - 0xD800) * 0x400 + (second - 0xDC00)), rest)
        else none
    | _ => none
  else if 0xDC00 ≤ unit && unit < 0xE000 then none
  else some (Char.ofNat unit, rest)

/-- The character after a backslash. -/
def readEscape : Reader Char
  | '"' :: rest => some ('"', rest)
  | '\\' :: rest => some ('\\', rest)
  | '/' :: rest => some ('/', rest)
  | 'b' :: rest => some ('\x08', rest)
  | 'f' :: rest => some ('\x0c', rest)
  | 'n' :: rest => some ('\n', rest)
  | 'r' :: rest => some ('\r', rest)
  | 't' :: rest => some ('\t', rest)
  | 'u' :: rest => readCode rest
  | _ => none

/-- The rest of a text after its opening quote, of at most `fuel` characters; `read` are
the characters so far, reversed. -/
def readText (read : List Char) : Nat → Reader String
  | 0, _ => none
  | _ + 1, [] => none
  | fuel + 1, c :: rest =>
      if c = '"' then some (String.ofList read.reverse, rest)
      else if c = '\\' then do
        let (escaped, rest) ← readEscape rest
        readText (escaped :: read) fuel rest
      else if c.toNat < 0x20 then none
      else readText (c :: read) fuel rest

/-! ## Numbers -/

/-- One digit or more. -/
def readDigits1 (text : List Char) : Option (List Char × List Char) :=
  match text.takeWhile Char.isDigit with
  | [] => none
  | digits => some (digits, text.dropWhile Char.isDigit)

/-- The digits before the point, without needless zeros. -/
def readWhole (text : List Char) : Option (List Char × List Char) := do
  let (digits, rest) ← readDigits1 text
  if digits.head? == some '0' && digits.length > 1 then none else some (digits, rest)

/-- A point and the digits after it, if there is a point. -/
def readFraction : Reader (List Char)
  | '.' :: rest => (readDigits1 rest).map fun (digits, rest) => ('.' :: digits, rest)
  | text => some ([], text)

/-- The sign of an exponent, if it has one, and what comes after it. -/
def takeSign : List Char → List Char × List Char
  | '+' :: rest => (['+'], rest)
  | '-' :: rest => (['-'], rest)
  | rest => ([], rest)

/-- An exponent, if there is one. -/
def readExponent : Reader (List Char)
  | [] => some ([], [])
  | mark :: rest =>
      if mark == 'e' || mark == 'E' then
        let (sign, rest) := takeSign rest
        (readDigits1 rest).map fun (digits, rest) => (mark :: sign ++ digits, rest)
      else some ([], mark :: rest)

/-- The number that digits stand for. -/
def digitsValue (digits : List Char) : Nat :=
  digits.foldl (fun value c => value * 10 + (c.toNat - '0'.toNat)) 0

/-- A number after its sign. -/
def readUnsigned (negative : Bool) (text : List Char) : Option (Json × List Char) := do
  let (whole, rest) ← readWhole text
  let (fraction, rest) ← readFraction rest
  let (exponent, rest) ← readExponent rest
  let value := digitsValue whole
  let isInteger := fraction.isEmpty && exponent.isEmpty
    && if negative then 0 < value && value ≤ Int64.minValue.toInt.natAbs
      else value < UInt64.size
  let number : Json :=
    if isInteger then .integer (if negative then -(value : Int) else value)
    else .decimal (String.ofList
      ((if negative then ['-'] else []) ++ whole ++ fraction ++ exponent))
  some (number, rest)

/-- Reads a number. -/
def readNumber : Reader Json
  | '-' :: rest => readUnsigned true rest
  | text => readUnsigned false text

/-! ## Values -/

/-- The parts of an array or an object after its opening bracket, at least one and at most
`fuel`. -/
def readSeries {α : Type} (close : Char) (readPart : Reader α) : Nat → Reader (List α)
  | 0, _ => none
  | fuel + 1, text => do
      let (part, rest) ← readPart text
      match skipSpace rest with
      | [] => none
      | mark :: rest =>
          if mark = ',' then do
            let (parts, rest) ← readSeries close readPart fuel rest
            some (part :: parts, rest)
          else if mark = close then some ([part], rest)
          else none

/-- The parts of an array or an object after its opening bracket, up to the closing one. -/
def readParts {α : Type} (close : Char) (readPart : Reader α) (text : List Char) :
    Option (List α × List Char) :=
  match skipSpace text with
  | [] => none
  | mark :: rest =>
      if mark = close then some ([], rest)
      else readSeries close readPart (text.length + 1) text

/-- A member of an object. -/
def readMember (readItem : Reader Json) (text : List Char) :
    Option ((String × Json) × List Char) :=
  match skipSpace text with
  | '"' :: rest => do
      let (key, rest) ← readText [] (rest.length + 1) rest
      match skipSpace rest with
      | ':' :: rest => do
          let (value, rest) ← readItem rest
          some ((key, value), rest)
      | _ => none
  | _ => none

/-- Keeps the last member of each key. -/
def lastMembers : List (String × Json) → List (String × Json)
  | [] => []
  | (key, value) :: rest =>
      if rest.any fun member => member.1 == key then lastMembers rest
      else (key, value) :: lastMembers rest

/-- A value in which arrays and objects are nested to at most the given depth. -/
def readValue : Nat → Reader Json
  | depth, text =>
      match skipSpace text with
      | 'n' :: 'u' :: 'l' :: 'l' :: rest => some (.null, rest)
      | 't' :: 'r' :: 'u' :: 'e' :: rest => some (.bool true, rest)
      | 'f' :: 'a' :: 'l' :: 's' :: 'e' :: rest => some (.bool false, rest)
      | '"' :: rest => (readText [] (rest.length + 1) rest).map fun (value, rest) =>
          (.string value, rest)
      | '[' :: rest =>
          match depth with
          | 0 => none
          | depth + 1 => (readParts ']' (readValue depth) rest).map fun (items, rest) =>
              (.array items, rest)
      | '\x7b' :: rest =>
          match depth with
          | 0 => none
          | depth + 1 => (readParts '\x7d' (readMember (readValue depth)) rest).map
              fun (members, rest) => (.object (lastMembers members), rest)
      | text => readNumber text

/-- The depth to which arrays and objects may be nested. -/
def depthLimit : Nat := 127

/-- Reads a text that holds one value. -/
def ofText? (text : String) : Option Json := do
  let (value, rest) ← readValue depthLimit text.toList
  if (skipSpace rest).isEmpty then some value else none

end Json

end RowPlan
