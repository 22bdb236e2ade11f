import Mathlib.Algebra.Group.Nat.Defs
import Mathlib.Algebra.Group.Int.Defs
import RowPlan.Json.Printer
import RowPlan.Json.Reader
import RowPlan.Proofs.Numerals

/-!
# Numbers in JSON texts

`Json.IsNumber` describes the numbers that a text can hold: integers of 64 bits, and the texts of
all other numbers. Each of them is read back from its text, and no other value is read there.
-/

namespace RowPlan

namespace Json

/-- At least one digit, and nothing else. -/
def IsDigits (text : List Char) : Prop :=
  text ≠ [] ∧ ∀ c, c ∈ text → c.isDigit = true

/-- Digits of which the first is zero only where there is no other. -/
def IsWhole (text : List Char) : Prop :=
  IsDigits text ∧ (text.head? = some '0' → text = ['0'])

inductive IsFraction : List Char → Prop where
  | none : IsFraction []
  | point {digits : List Char} : IsDigits digits → IsFraction ('.' :: digits)

inductive IsExponent : List Char → Prop where
  | none : IsExponent []
  | power {mark : Char} {sign digits : List Char} :
      mark = 'e' ∨ mark = 'E' → sign = [] ∨ sign = ['+'] ∨ sign = ['-'] → IsDigits digits →
      IsExponent (mark :: (sign ++ digits))

/-- A signed or an unsigned number of 64 bits is made of a sign and a number. There is no negative
zero. -/
def FitsInteger (negative : Bool) (number : Nat) : Prop :=
  if negative then 0 < number ∧ number ≤ 2 ^ 63 else number < 2 ^ 64

instance (negative : Bool) (number : Nat) : Decidable (FitsInteger negative number) :=
  inferInstanceAs
    (Decidable (if negative = true then 0 < number ∧ number ≤ 2 ^ 63 else number < 2 ^ 64))

def signText (negative : Bool) : List Char :=
  if negative then ['-'] else []

/-- A text of a number that is no plain integer of 64 bits. -/
inductive IsDecimal : String → Prop where
  | number {negative : Bool} {whole fraction exponent : List Char} :
      IsWhole whole → IsFraction fraction → IsExponent exponent →
      (fraction = [] → exponent = [] →
        ¬ FitsInteger negative (Nat.ofDigitChars 10 whole 0)) →
      IsDecimal (String.ofList (signText negative ++ whole ++ fraction ++ exponent))

/-- A number that a text can hold. -/
inductive IsNumber : Json → Prop where
  | integer {value : Int} : -2 ^ 63 ≤ value → value < 2 ^ 64 → IsNumber (integer value)
  | decimal {text : String} : IsDecimal text → IsNumber (decimal text)

/-- A number ends before a text. -/
def EndsNumber (rest : List Char) : Prop :=
  ∀ c, rest.head? = some c → c.isDigit = false ∧ c ≠ '.' ∧ c ≠ 'e' ∧ c ≠ 'E'

section

variable {text digits whole fraction exponent rest : List Char}

theorem EndsNumber.stops (ends : EndsNumber rest) : StopsDigits rest :=
  fun c first => (ends c first).1

theorem IsExponent.stops (isExponent : IsExponent exponent) (ends : EndsNumber rest) :
    StopsDigits (exponent ++ rest) ∧ (exponent ++ rest).head? ≠ some '.' := by
  cases isExponent with
  | none =>
      constructor
      · exact ends.stops
      · intro point
        exact (ends '.' point).2.1 rfl
  | power marks _ _ =>
      constructor
      · rintro c first
        cases first
        rcases marks with rfl | rfl <;> rfl
      · intro point
        cases point
        rcases marks with point | point <;> cases point

theorem IsFraction.stops (isFraction : IsFraction fraction) (stops : StopsDigits rest) :
    StopsDigits (fraction ++ rest) := by
  cases isFraction with
  | none => exact stops
  | point _ =>
      rintro c first
      cases first
      rfl

theorem readDigits1_append (isDigits : IsDigits digits) (stops : StopsDigits rest) :
    readDigits1 (digits ++ rest) = some (digits, rest) := by
  obtain ⟨present, all⟩ := isDigits
  rw [readDigits1, takeWhile_digits all stops, dropWhile_digits all stops]
  cases digits with
  | nil => exact (present rfl).elim
  | cons first more => rfl

theorem readWhole_append (isWhole : IsWhole whole) (stops : StopsDigits rest) :
    readWhole (whole ++ rest) = some (whole, rest) := by
  obtain ⟨isDigits, zero⟩ := isWhole
  have alone : (whole.head? == some '0' && decide (whole.length > 1)) = false := by
    rw [Bool.and_eq_false_imp, beq_iff_eq]
    intro first
    rw [zero first]
    rfl
  rw [readWhole, readDigits1_append isDigits stops]
  simp only [Option.bind_eq_bind, Option.bind_some, alone, Bool.false_eq_true, if_false]

theorem readFraction_append (isFraction : IsFraction fraction) (stops : StopsDigits rest)
    (noPoint : rest.head? ≠ some '.') : readFraction (fraction ++ rest) = some (fraction, rest) := by
  cases isFraction with
  | none =>
      rw [List.nil_append]
      unfold readFraction
      split
      case h_1 => exact (noPoint rfl).elim
      case h_2 => rfl
  | point isDigits =>
      rw [List.cons_append, readFraction, readDigits1_append isDigits stops]
      rfl

theorem takeSign_append {sign : List Char} (signs : sign = [] ∨ sign = ['+'] ∨ sign = ['-'])
    (isDigits : IsDigits digits) : takeSign (sign ++ digits ++ rest) = (sign, digits ++ rest) := by
  rcases signs with rfl | rfl | rfl
  · obtain ⟨first, more, rfl⟩ := List.exists_cons_of_ne_nil isDigits.1
    have digit : first.isDigit = true := isDigits.2 first List.mem_cons_self
    rw [List.nil_append, List.cons_append]
    unfold takeSign
    split
    case h_1 shape =>
      cases shape
      cases digit
    case h_2 shape =>
      cases shape
      cases digit
    case h_3 => rfl
  · rfl
  · rfl

theorem readExponent_append (isExponent : IsExponent exponent) (ends : EndsNumber rest) :
    readExponent (exponent ++ rest) = some (exponent, rest) := by
  cases isExponent with
  | none =>
      cases rest with
      | nil => rfl
      | cons c rest =>
          obtain ⟨_, _, small, large⟩ := ends c rfl
          simp [readExponent, small, large]
  | @power mark sign digits marks signs isDigits =>
      have isMark : (mark == 'e' || mark == 'E') = true := by simpa using marks
      rw [List.cons_append, readExponent, if_pos isMark, takeSign_append signs isDigits]
      dsimp only
      rw [readDigits1_append isDigits ends.stops]
      rfl

theorem digitsValue_eq (digits : List Char) : digitsValue digits = Nat.ofDigitChars 10 digits 0 := by
  have steps : (fun value (c : Char) => value * 10 + (c.toNat - '0'.toNat)) =
      fun value (c : Char) => 10 * value + (c.toNat - '0'.toNat) := by
    funext value c
    rw [Nat.mul_comm]
  rw [digitsValue, steps]
  rfl

/-- The number that is made of its parts. -/
def numberOf (negative : Bool) (whole fraction exponent : List Char) : Json :=
  if fraction = [] ∧ exponent = [] ∧ FitsInteger negative (Nat.ofDigitChars 10 whole 0) then
    integer (if negative then -(Nat.ofDigitChars 10 whole 0 : Int) else Nat.ofDigitChars 10 whole 0)
  else decimal (String.ofList (signText negative ++ whole ++ fraction ++ exponent))

theorem decide_fitsInteger (negative : Bool) (number : Nat) :
    (if negative then 0 < number && number ≤ Int64.minValue.toInt.natAbs
      else number < UInt64.size : Bool) = decide (FitsInteger negative number) := by
  cases negative with
  | true => simp [FitsInteger]
  | false => simp [FitsInteger]

theorem readUnsigned_eq (negative : Bool) (text : List Char) :
    readUnsigned negative text = (do
      let (whole, rest) ← readWhole text
      let (fraction, rest) ← readFraction rest
      let (exponent, rest) ← readExponent rest
      return (numberOf negative whole fraction exponent, rest)) := by
  unfold readUnsigned
  cases readWhole text with
  | none => rfl
  | some read =>
      obtain ⟨whole, rest⟩ := read
      dsimp only [Option.bind_eq_bind, Option.bind_some]
      cases readFraction rest with
      | none => rfl
      | some read =>
          obtain ⟨fraction, rest⟩ := read
          dsimp only [Option.bind_some]
          cases readExponent rest with
          | none => rfl
          | some read =>
              obtain ⟨exponent, rest⟩ := read
              dsimp only [Option.bind_some]
              rw [digitsValue_eq, decide_fitsInteger]
              simp [numberOf, signText, and_assoc]

theorem readNumber_signText (negative : Bool) (isWhole : IsWhole whole) :
    readNumber (signText negative ++ (whole ++ rest)) = readUnsigned negative (whole ++ rest) := by
  cases negative with
  | true => rfl
  | false =>
      obtain ⟨first, more, rfl⟩ := List.exists_cons_of_ne_nil isWhole.1.1
      have digit : first.isDigit = true := isWhole.1.2 first List.mem_cons_self
      show readNumber (first :: (more ++ rest)) = _
      unfold readNumber
      split
      case h_1 shape =>
        cases shape
        cases digit
      case h_2 => rfl

theorem readNumber_append (negative : Bool) (isWhole : IsWhole whole)
    (isFraction : IsFraction fraction) (isExponent : IsExponent exponent)
    (ends : EndsNumber rest) :
    readNumber (signText negative ++ whole ++ fraction ++ exponent ++ rest) =
      some (numberOf negative whole fraction exponent, rest) := by
  obtain ⟨stops, noPoint⟩ := isExponent.stops ends
  have shape : signText negative ++ whole ++ fraction ++ exponent ++ rest =
      signText negative ++ (whole ++ (fraction ++ (exponent ++ rest))) := by
    simp only [List.append_assoc]
  rw [shape, readNumber_signText negative isWhole, readUnsigned_eq,
    readWhole_append isWhole (isFraction.stops stops)]
  simp [readFraction_append isFraction stops noPoint, readExponent_append isExponent ends]

theorem isNumber_numberOf (negative : Bool) (isWhole : IsWhole whole)
    (isFraction : IsFraction fraction) (isExponent : IsExponent exponent) :
    IsNumber (numberOf negative whole fraction exponent) := by
  unfold numberOf
  split
  case isTrue plain =>
    obtain ⟨_, _, fits⟩ := plain
    cases negative with
    | true =>
        obtain ⟨positive, small⟩ : 0 < Nat.ofDigitChars 10 whole 0 ∧ _ := fits
        apply IsNumber.integer
        · simp
          omega
        · simp
          omega
    | false =>
        have small : Nat.ofDigitChars 10 whole 0 < 2 ^ 64 := fits
        apply IsNumber.integer
        · simp
        · simp
          omega
  case isFalse other =>
    apply IsNumber.decimal
    apply IsDecimal.number isWhole isFraction isExponent
    intro noFraction noExponent fits
    exact other ⟨noFraction, noExponent, fits⟩

theorem isWhole_toString (number : Nat) : IsWhole (toString number).toList := by
  refine ⟨⟨toString_toList_ne_nil number, fun c => isDigit_of_mem_toString⟩, ?_⟩
  intro zero
  rw [head?_toString zero]
  rfl

theorem numberOf_toString {negative : Bool} {number : Nat} (fits : FitsInteger negative number) :
    numberOf negative (toString number).toList [] [] =
      integer (if negative then -(number : Int) else number) := by
  rw [numberOf, ofDigitChars_toString, if_pos ⟨rfl, rfl, fits⟩]

theorem readNumber_toString {negative : Bool} {number : Nat} (fits : FitsInteger negative number)
    (ends : EndsNumber rest) :
    readNumber (signText negative ++ (toString number).toList ++ rest) =
      some (integer (if negative then -(number : Int) else number), rest) := by
  have read := readNumber_append negative (isWhole_toString number) .none .none ends
  rw [numberOf_toString fits, List.append_nil, List.append_nil] at read
  exact read

theorem toString_negSucc (number : Nat) :
    (toString (Int.negSucc number)).toList = '-' :: (toString (number + 1)).toList := by
  exact String.toList_append

theorem readNumber_integer {value : Int} (least : -2 ^ 63 ≤ value) (greatest : value < 2 ^ 64)
    (ends : EndsNumber rest) :
    readNumber ((toString value).toList ++ rest) = some (integer value, rest) := by
  cases value with
  | ofNat number =>
      have fits : FitsInteger false number := by
        rw [Int.ofNat_eq_natCast] at greatest
        simp only [FitsInteger, Bool.false_eq_true, if_false]
        omega
      exact readNumber_toString fits ends
  | negSucc number =>
      have fits : FitsInteger true (number + 1) := by
        rw [Int.negSucc_eq] at least
        simp only [FitsInteger, if_true]
        omega
      rw [toString_negSucc]
      exact readNumber_toString fits ends

theorem readNumber_decimal {text : String} (isDecimal : IsDecimal text)
    (ends : EndsNumber rest) :
    readNumber (text.toList ++ rest) = some (decimal text, rest) := by
  cases isDecimal with
  | @number negative whole fraction exponent isWhole isFraction isExponent other =>
      have read := readNumber_append negative isWhole isFraction isExponent ends
      have unplain : ¬ (fraction = [] ∧ exponent = [] ∧
          FitsInteger negative (Nat.ofDigitChars 10 whole 0)) :=
        fun ⟨noFraction, noExponent, fits⟩ => other noFraction noExponent fits
      rw [numberOf, if_neg unplain] at read
      rw [String.toList_ofList]
      exact read

theorem readNumber_text {json : Json} (isNumber : IsNumber json) (ends : EndsNumber rest) :
    readNumber (json.text.toList ++ rest) = some (json, rest) := by
  cases isNumber with
  | integer least greatest => exact readNumber_integer least greatest ends
  | decimal isDecimal => exact readNumber_decimal isDecimal ends

/-! ## The first character -/

/-- A number begins with a digit or the minus sign. -/
def StartsNumber (text : List Char) : Prop :=
  ∃ c rest, text = c :: rest ∧ (c.isDigit = true ∨ c = '-')

theorem StartsNumber.append {text : List Char} (starts : StartsNumber text) (more : List Char) :
    StartsNumber (text ++ more) := by
  obtain ⟨c, rest, rfl, first⟩ := starts
  exact ⟨c, rest ++ more, rfl, first⟩

theorem startsNumber_of_whole {whole : List Char} (isWhole : IsWhole whole) (negative : Bool)
    (rest : List Char) : StartsNumber (signText negative ++ (whole ++ rest)) := by
  cases negative with
  | true => exact ⟨'-', whole ++ rest, rfl, .inr rfl⟩
  | false =>
      obtain ⟨c, more, rfl⟩ := List.exists_cons_of_ne_nil isWhole.1.1
      exact ⟨c, more ++ rest, rfl, .inl (isWhole.1.2 c List.mem_cons_self)⟩

theorem startsNumber_decimal {text : String} (isDecimal : IsDecimal text) :
    StartsNumber text.toList := by
  cases isDecimal with
  | @number negative whole fraction exponent isWhole _ _ _ =>
      rw [String.toList_ofList, List.append_assoc, List.append_assoc]
      exact startsNumber_of_whole isWhole negative _

theorem startsNumber_integer (value : Int) : StartsNumber (toString value).toList := by
  cases value with
  | ofNat number =>
      have starts := startsNumber_of_whole (isWhole_toString number) false []
      rw [List.append_nil] at starts
      exact starts
  | negSucc number =>
      exact ⟨_, _, toString_negSucc number, .inr rfl⟩

theorem startsNumber_text {json : Json} (isNumber : IsNumber json) :
    StartsNumber json.text.toList := by
  cases isNumber with
  | integer => exact startsNumber_integer _
  | decimal isDecimal => exact startsNumber_decimal isDecimal

/-! ## Numbers that are read -/

theorem isDigits_of_readDigits1 (read : readDigits1 text = some (digits, rest)) :
    IsDigits digits := by
  unfold readDigits1 at read
  split at read
  case h_1 => cases read
  case h_2 present =>
    cases read
    refine ⟨present, ?_⟩
    have all := @List.all_takeWhile _ Char.isDigit text
    exact List.all_eq_true.mp all

theorem isWhole_of_readWhole (read : readWhole text = some (whole, rest)) : IsWhole whole := by
  obtain ⟨⟨found, after⟩, first, read⟩ := Option.bind_eq_some_iff.mp read
  dsimp only at read
  split at read
  case isTrue => cases read
  case isFalse alone =>
    cases read
    have isDigits := isDigits_of_readDigits1 first
    refine ⟨isDigits, ?_⟩
    intro zero
    obtain ⟨c, more, rfl⟩ := List.exists_cons_of_ne_nil isDigits.1
    obtain rfl := Option.some.inj zero
    obtain rfl : more = [] := by simpa using alone
    rfl

theorem isFraction_of_readFraction (read : readFraction text = some (fraction, rest)) :
    IsFraction fraction := by
  unfold readFraction at read
  split at read
  case h_1 =>
    obtain ⟨⟨found, after⟩, first, shape⟩ := Option.map_eq_some_iff.mp read
    cases shape
    exact .point (isDigits_of_readDigits1 first)
  case h_2 =>
    cases read
    exact .none

theorem takeSign_signs (text : List Char) :
    (takeSign text).1 = [] ∨ (takeSign text).1 = ['+'] ∨ (takeSign text).1 = ['-'] := by
  unfold takeSign
  split
  · exact .inr (.inl rfl)
  · exact .inr (.inr rfl)
  · exact .inl rfl

theorem isExponent_of_readExponent (read : readExponent text = some (exponent, rest)) :
    IsExponent exponent := by
  cases text with
  | nil =>
      cases read
      exact .none
  | cons mark text =>
      rw [readExponent] at read
      split at read
      case isTrue isMark =>
        obtain ⟨⟨found, after⟩, first, shape⟩ := Option.map_eq_some_iff.mp read
        cases shape
        exact .power (by simpa using isMark) (takeSign_signs text) (isDigits_of_readDigits1 first)
      case isFalse =>
        cases read
        exact .none

theorem isNumber_of_readUnsigned {negative : Bool} {json : Json}
    (read : readUnsigned negative text = some (json, rest)) : IsNumber json := by
  rw [readUnsigned_eq] at read
  obtain ⟨⟨whole, afterWhole⟩, wholeRead, read⟩ := Option.bind_eq_some_iff.mp read
  obtain ⟨⟨fraction, afterFraction⟩, fractionRead, read⟩ := Option.bind_eq_some_iff.mp read
  obtain ⟨⟨exponent, afterExponent⟩, exponentRead, read⟩ := Option.bind_eq_some_iff.mp read
  cases read
  exact isNumber_numberOf negative (isWhole_of_readWhole wholeRead)
    (isFraction_of_readFraction fractionRead) (isExponent_of_readExponent exponentRead)

theorem isNumber_of_readNumber {json : Json} (read : readNumber text = some (json, rest)) :
    IsNumber json := by
  unfold readNumber at read
  split at read
  · exact isNumber_of_readUnsigned read
  · exact isNumber_of_readUnsigned read

end

end Json

end RowPlan
