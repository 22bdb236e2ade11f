/-!
# Numerals

Reading an unsigned 64-bit number from its decimal digits, and the values of
hexadecimal digits.
-/

namespace RowPlan

/-- Why a text is not an unsigned 64-bit number. -/
inductive NumeralFault where
  | empty
  | invalidDigit
  | tooLarge
  deriving DecidableEq

namespace NumeralFault

/-- What is reported of a fault. -/
def message : NumeralFault → String
  | empty => "cannot parse integer from empty string"
  | invalidDigit => "invalid digit found in string"
  | tooLarge => "number too large to fit in target type"

end NumeralFault

/-- Reads further digits after those that make `value`; the first fault from the
left decides. -/
def readDigits (value : Nat) : List Char → Except NumeralFault Nat
  | [] => .ok value
  | c :: rest =>
      if !c.isDigit then .error .invalidDigit
      else
        let next := value * 10 + (c.toNat - '0'.toNat)
        if next < UInt64.size then readDigits next rest else .error .tooLarge

/-- Reads a numeral, with or without a leading plus sign. -/
def readNumeral : List Char → Except NumeralFault Nat
  | [] => .error .empty
  | ['+'] => .error .invalidDigit
  | '+' :: digits => readDigits 0 digits
  | digits => readDigits 0 digits

/-- The value of a hexadecimal digit. -/
def hexValue? (c : Char) : Option Nat :=
  if c.isDigit then some (c.toNat - '0'.toNat)
  else if 'a' ≤ c && c ≤ 'f' then some (c.toNat - 'a'.toNat + 10)
  else if 'A' ≤ c && c ≤ 'F' then some (c.toNat - 'A'.toNat + 10)
  else none

end RowPlan
