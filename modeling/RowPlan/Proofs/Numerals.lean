import RowPlan.Text.Numeral

/-!
# Digits of numbers

A number is read back from its digits, where no digit comes after them. Only zero is written
with a zero first.
-/

namespace RowPlan

/-- No digit comes first. -/
def StopsDigits (text : List Char) : Prop :=
  ∀ c, text.head? = some c → c.isDigit = false

/-- A text stands for a number: its decimal digits, after a plus sign or without one. -/
def IsNumeral (text : List Char) (number : Nat) : Prop :=
  ∃ digits, (text = digits ∨ text = '+' :: digits) ∧ digits ≠ [] ∧
    (∀ c, c ∈ digits → c.isDigit = true) ∧ Nat.ofDigitChars 10 digits 0 = number

/-! ## Written numbers -/

theorem isDigit_of_mem_toString {number : Nat} {c : Char}
    (member : c ∈ (toString number).toList) : c.isDigit = true := by
  rw [Nat.toString_eq_repr, Nat.toList_repr] at member
  exact Nat.isDigit_of_mem_toDigits (by decide) (by decide) member

theorem not_mem_toString {number : Nat} {c : Char} (noDigit : c.isDigit = false) :
    c ∉ (toString number).toList := by
  intro member
  simp [isDigit_of_mem_toString member] at noDigit

theorem ofDigitChars_toString (number : Nat) :
    Nat.ofDigitChars 10 (toString number).toList 0 = number := by
  rw [Nat.toString_eq_repr, Nat.toList_repr]
  exact Nat.ofDigitChars_ten_toDigits

theorem toString_toList_ne_nil (number : Nat) : (toString number).toList ≠ [] := by
  rw [Nat.toString_eq_repr, Nat.toList_repr]
  exact Nat.toDigits_ne_nil

theorem head?_toDigits {number : Nat} (zero : (Nat.toDigits 10 number).head? = some '0') :
    number = 0 := by
  induction number using Nat.strongRecOn with
  | ind number induction =>
      by_cases single : number < 10
      · rw [Nat.toDigits_of_lt_base single, List.head?_cons, Option.some_inj] at zero
        have digit : ∀ value, value < 10 → value.digitChar = '0' → value = 0 := by decide
        exact digit number single zero
      · -- The first digit is that of the number without the last one.
        have many : 10 ≤ number := Nat.le_of_not_lt single
        obtain ⟨first, more, shape⟩ :=
          List.exists_cons_of_ne_nil (@Nat.toDigits_ne_nil (number / 10) 10)
        rw [Nat.toDigits_of_base_le (by decide) many, shape] at zero
        have shorter : number / 10 = 0 := by
          apply induction (number / 10) (by omega)
          rw [shape]
          exact zero
        omega

theorem head?_toString {number : Nat} (zero : (toString number).toList.head? = some '0') :
    number = 0 := by
  rw [Nat.toString_eq_repr, Nat.toList_repr] at zero
  exact head?_toDigits zero

/-! ## Digits at the front -/

section

variable {digits rest : List Char}

theorem takeWhile_digits (allDigits : ∀ c, c ∈ digits → c.isDigit = true)
    (stops : StopsDigits rest) : (digits ++ rest).takeWhile Char.isDigit = digits := by
  have none : rest.takeWhile Char.isDigit = [] := by
    cases rest with
    | nil => rfl
    | cons c rest => simp [stops c rfl]
  rw [List.takeWhile_append_of_pos allDigits, none, List.append_nil]

theorem dropWhile_digits (allDigits : ∀ c, c ∈ digits → c.isDigit = true)
    (stops : StopsDigits rest) : (digits ++ rest).dropWhile Char.isDigit = rest := by
  have all : rest.dropWhile Char.isDigit = rest := by
    cases rest with
    | nil => rfl
    | cons c rest => simp [stops c rfl]
  rw [List.dropWhile_append_of_pos allDigits, all]

end

theorem takeWhile_toString (number : Nat) {rest : List Char} (stops : StopsDigits rest) :
    ((toString number).toList ++ rest).takeWhile Char.isDigit =
      (toString number).toList :=
  takeWhile_digits (fun _ member => isDigit_of_mem_toString member) stops

/-! ## Numerals -/

theorem readDigits_eq_ok {digits : List Char} {value number : Nat}
    (read : readDigits value digits = .ok number) :
    (∀ c, c ∈ digits → c.isDigit = true) ∧ Nat.ofDigitChars 10 digits value = number := by
  induction digits generalizing value with
  | nil =>
      cases read
      exact ⟨nofun, rfl⟩
  | cons c rest induction =>
      unfold readDigits at read
      split at read
      case isTrue => cases read
      case isFalse digit =>
        dsimp only at read
        split at read
        case isTrue =>
          obtain ⟨others, counted⟩ := induction read
          have isDigit : c.isDigit = true := by simpa using digit
          refine ⟨List.forall_mem_cons.mpr ⟨isDigit, others⟩, ?_⟩
          rw [Nat.ofDigitChars_cons, Nat.mul_comm, counted]
        case isFalse => cases read

theorem isNumeral_of_readNumeral {text : List Char} {number : Nat}
    (read : readNumeral text = .ok number) : IsNumeral text number := by
  unfold readNumeral at read
  split at read
  case h_1 => cases read
  case h_2 => cases read
  case h_3 digits more =>
    obtain ⟨isDigit, counted⟩ := readDigits_eq_ok read
    exact ⟨digits, .inr rfl, fun empty => more (by rw [empty]), isDigit, counted⟩
  case h_4 present _ _ =>
    obtain ⟨isDigit, counted⟩ := readDigits_eq_ok read
    exact ⟨text, .inl rfl, present, isDigit, counted⟩

end RowPlan
