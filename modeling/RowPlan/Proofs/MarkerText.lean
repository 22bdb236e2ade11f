import RowPlan.Proofs.Layout
import RowPlan.Proofs.Numerals

/-!
# Markers in SQL text

How numbered markers are read back from text: a dollar sign begins one where a
digit follows, and all digits that follow belong to it. A text without dollar signs
has no markers, and the digits of a written number end where no digit follows.
-/

namespace RowPlan

/-- The numbers of the numbered markers in a text, in their order. -/
def markerNumbers : List Char → List Nat
  | [] => []
  | c :: rest =>
      if c = '$' then
        match rest.takeWhile Char.isDigit with
        | [] => markerNumbers rest
        | digits => Nat.ofDigitChars 10 digits 0 :: markerNumbers rest
      else markerNumbers rest

/-- Puts a question mark in place of each numbered marker. `inMarker` says that the
text comes right after a marker or its first digits. -/
def withQuestionMarks (inMarker : Bool) : List Char → List Char
  | [] => []
  | c :: rest =>
      if inMarker && c.isDigit then withQuestionMarks true rest
      else if c = '$' && rest.head?.any Char.isDigit then
        '?' :: withQuestionMarks true rest
      else c :: withQuestionMarks false rest

/-- Both markers of one text. -/
example : markerNumbers "a = $12 AND b = $1".toList = [12, 1] ∧
    withQuestionMarks false "a = $12 AND b = $1".toList = "a = ? AND b = ?".toList := by
  decide

/-- A marker is made of its sign and digits. -/
theorem mem_marker {style : MarkerStyle} {number : Nat} {c : Char}
    (member : c ∈ (style.marker number).toList) : c = '?' ∨ c = '$' ∨ c.isDigit = true := by
  cases style with
  | question => exact .inl (by simpa [MarkerStyle.marker] using member)
  | numbered =>
      simp only [MarkerStyle.marker, String.toList_append, List.mem_append] at member
      rcases member with sign | digit
      · exact .inr (.inl (by simpa using sign))
      · exact .inr (.inr (isDigit_of_mem_toString digit))

/-! ## Reading markers -/

theorem markerNumbers_append {text : List Char} (plain : '$' ∉ text) (rest : List Char) :
    markerNumbers (text ++ rest) = markerNumbers rest := by
  induction text with
  | nil => rfl
  | cons c text induction =>
      simp only [List.mem_cons, not_or] at plain
      rw [List.cons_append, markerNumbers, if_neg (Ne.symm plain.1)]
      exact induction plain.2

theorem markerNumbers_marker (number : Nat) {rest : List Char} (stops : StopsDigits rest) :
    markerNumbers ('$' :: ((toString number).toList ++ rest)) =
      number :: markerNumbers rest := by
  rw [markerNumbers, if_pos rfl, takeWhile_toString number stops]
  split
  case h_1 none => exact (toString_toList_ne_nil number none).elim
  case h_2 =>
    rw [ofDigitChars_toString, markerNumbers_append (not_mem_toString rfl)]

theorem withQuestionMarks_append {text : List Char} (plain : '$' ∉ text)
    (rest : List Char) :
    withQuestionMarks false (text ++ rest) = text ++ withQuestionMarks false rest := by
  induction text with
  | nil => rfl
  | cons c text induction =>
      simp only [List.mem_cons, not_or] at plain
      simp [withQuestionMarks, Ne.symm plain.1, induction plain.2]

theorem withQuestionMarks_digits {digits rest : List Char}
    (allDigits : ∀ c, c ∈ digits → c.isDigit = true) (stops : StopsDigits rest) :
    withQuestionMarks true (digits ++ rest) = withQuestionMarks false rest := by
  induction digits with
  | nil =>
      cases rest with
      | nil => rfl
      | cons c rest => simp [withQuestionMarks, stops c rfl]
  | cons c digits induction =>
      obtain ⟨digit, others⟩ := List.forall_mem_cons.mp allDigits
      simpa [withQuestionMarks, digit] using induction others

theorem withQuestionMarks_marker (number : Nat) {rest : List Char}
    (stops : StopsDigits rest) :
    withQuestionMarks false ('$' :: ((toString number).toList ++ rest)) =
      '?' :: withQuestionMarks false rest := by
  have allDigits : ∀ c, c ∈ (toString number).toList → c.isDigit = true :=
    fun c member => isDigit_of_mem_toString member
  have digits := withQuestionMarks_digits allDigits stops
  obtain ⟨first, others, shape⟩ := List.exists_cons_of_ne_nil (toString_toList_ne_nil number)
  have firstDigit : first.isDigit = true := allDigits first (shape ▸ List.mem_cons_self)
  rw [shape] at digits ⊢
  rw [withQuestionMarks]
  simp [firstDigit, ← digits]

end RowPlan
