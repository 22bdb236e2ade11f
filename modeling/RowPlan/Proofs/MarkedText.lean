import RowPlan.Proofs.MarkerText

/-!
# Texts with markers

When the markers of a written text can be told from the rest of it: no plain part
has the sign of a marker, and no slot is followed by a digit. Then every sign in the
text was written for a slot, and what was written before it for the fragments before
that slot.
-/

namespace RowPlan

namespace MarkerStyle

/-- The character that begins a marker. -/
def sign : MarkerStyle → Char
  | question => '?'
  | numbered => '$'

/-- What follows the sign in the marker of a number. -/
def digits (style : MarkerStyle) (number : Nat) : List Char :=
  match style with
  | question => []
  | numbered => (toString number).toList

theorem marker_toList (style : MarkerStyle) (number : Nat) :
    (style.marker number).toList = style.sign :: style.digits number := by
  cases style with
  | question => simp [marker, sign, digits]
  | numbered => simp [marker, sign, digits]

theorem sign_not_mem_digits (style : MarkerStyle) (number : Nat) :
    style.sign ∉ style.digits number := by
  cases style with
  | question => exact List.not_mem_nil
  | numbered => exact not_mem_toString rfl

end MarkerStyle

namespace SqlText

/-- No plain part has a character. -/
def Plain (c : Char) (text : SqlText) : Prop :=
  ∀ part, Fragment.text part ∈ text → c ∉ part.toList

/-- The text does not begin with a digit. -/
def StartsClear : SqlText → Prop
  | [] => True
  | .slot _ _ :: _ => True
  | .text part :: rest =>
      StopsDigits part.toList ∧ (part.toList = [] → StartsClear rest)

/-- No slot is followed by a digit. -/
def Separated : SqlText → Prop
  | [] => True
  | .text _ :: rest => Separated rest
  | .slot _ _ :: rest => StartsClear rest ∧ Separated rest

/-- The slots with a key, in the order of the text. -/
def keyed (text : SqlText) : List (String × BindSlot) :=
  text.filterMap fun
    | .slot (some key) slot => some (key, slot)
    | _ => none

variable {left right text : SqlText} {c : Char} {style : MarkerStyle} {binding : Binding}

@[simp] theorem plain_nil : Plain c [] := by
  intro part member
  cases member

@[simp] theorem plain_text_iff {part : String} :
    Plain c (.text part :: text) ↔ c ∉ part.toList ∧ Plain c text := by
  simp [Plain]

@[simp] theorem plain_slot_iff {key : Option String} {slot : BindSlot} :
    Plain c (.slot key slot :: text) ↔ Plain c text := by
  simp [Plain]

@[simp] theorem plain_append_iff :
    Plain c (left ++ right) ↔ Plain c left ∧ Plain c right := by
  simp only [Plain, List.mem_append]
  constructor
  · intro plain
    exact ⟨fun part member => plain part (.inl member),
      fun part member => plain part (.inr member)⟩
  · rintro ⟨inLeft, inRight⟩ part (member | member)
    · exact inLeft part member
    · exact inRight part member

theorem StartsClear.append (leftClear : left.StartsClear) (rightClear : right.StartsClear) :
    StartsClear (left ++ right) := by
  induction left with
  | nil => exact rightClear
  | cons fragment rest induction =>
      cases fragment with
      | slot key slot => trivial
      | text part =>
          exact ⟨leftClear.1, fun empty => induction (leftClear.2 empty)⟩

theorem Separated.append (leftSeparated : left.Separated) (rightClear : right.StartsClear)
    (rightSeparated : right.Separated) : Separated (left ++ right) := by
  induction left with
  | nil => exact rightSeparated
  | cons fragment rest induction =>
      cases fragment with
      | text part => exact induction leftSeparated
      | slot key slot =>
          exact ⟨leftSeparated.1.append rightClear, induction leftSeparated.2⟩

@[simp] theorem keyed_append : keyed (left ++ right) = keyed left ++ keyed right := by
  simp [keyed]

@[simp] theorem slots_nil : slots [] = [] :=
  rfl

@[simp] theorem slots_text (part : String) (rest : SqlText) :
    slots (.text part :: rest) = slots rest :=
  rfl

@[simp] theorem slots_slot (key : Option String) (slot : BindSlot) (rest : SqlText) :
    slots (.slot key slot :: rest) = slot :: slots rest :=
  rfl

@[simp] theorem slots_append : slots (left ++ right) = slots left ++ slots right := by
  simp [slots]

/-- Without keys every slot is bound anew. -/
theorem bindAll_unkeyed (unkeyed : text.keyed = []) :
    bindAll style binding text = { binding with slots := binding.slots ++ text.slots } := by
  induction text generalizing binding with
  | nil => simp [bindAll, slots]
  | cons fragment rest induction =>
      cases fragment with
      | text part => exact induction unkeyed
      | slot key slot =>
          cases key with
          | some key => cases unkeyed
          | none =>
              have bound : bindAll style (binding.bind style none slot).2 rest = _ :=
                induction unkeyed
              rw [bindAll, bound, Binding.bind_none]
              simp [slots]

/-! ## Reading a written text -/

theorem stopsDigits_written (clear : text.StartsClear) :
    StopsDigits (written style binding text).toList := by
  induction text generalizing binding with
  | nil =>
      intro c first
      simp at first
  | cons fragment rest induction =>
      cases fragment with
      | slot key slot =>
          intro c first
          have sign : c = style.sign := by
            simpa [MarkerStyle.marker_toList] using first.symm
          cases style with
          | question => rw [sign]; rfl
          | numbered => rw [sign]; rfl
      | text part =>
          intro c first
          rw [written_text, String.toList_append] at first
          cases shape : part.toList with
          | nil =>
              rw [shape] at first
              exact induction (clear.2 shape) c first
          | cons head tail =>
              rw [shape] at first
              exact clear.1 c (by rw [shape]; exact first)

/-- The numbers that slots get, in the order of the text. -/
def numbers (binding : Binding) : SqlText → List Nat
  | [] => []
  | .text _ :: rest => numbers binding rest
  | .slot key slot :: rest =>
      binding.numberFor .numbered key
        :: numbers (binding.bind .numbered key slot).2 rest

theorem markerNumbers_written (plain : text.Plain '$') (separated : text.Separated) :
    markerNumbers (written .numbered binding text).toList = numbers binding text := by
  induction text generalizing binding with
  | nil => rfl
  | cons fragment rest induction =>
      cases fragment with
      | text part =>
          obtain ⟨here, later⟩ := plain_text_iff.mp plain
          rw [written_text, String.toList_append, markerNumbers_append here]
          exact induction later separated
      | slot key slot =>
          rw [written_slot, String.toList_append, MarkerStyle.marker_toList, numbers,
            List.cons_append]
          refine (markerNumbers_marker _ (stopsDigits_written separated.1)).trans ?_
          rw [induction (plain_slot_iff.mp plain) separated.2]

/-- Question marks in place of numbered markers are the question marks of the text. -/
theorem withQuestionMarks_written (plain : text.Plain '$') (separated : text.Separated)
    (other : Binding) :
    withQuestionMarks false (written .numbered binding text).toList =
      (written .question other text).toList := by
  induction text generalizing binding other with
  | nil => rfl
  | cons fragment rest induction =>
      cases fragment with
      | text part =>
          obtain ⟨here, later⟩ := plain_text_iff.mp plain
          rw [written_text, written_text, String.toList_append, String.toList_append,
            withQuestionMarks_append here, induction later separated other]
      | slot key slot =>
          rw [written_slot, written_slot, String.toList_append, String.toList_append,
            MarkerStyle.marker_toList, MarkerStyle.marker_toList, List.cons_append]
          refine (withQuestionMarks_marker _ (stopsDigits_written separated.1)).trans ?_
          rw [induction (plain_slot_iff.mp plain) separated.2
            (other.bind .question key slot).2]
          rfl

theorem bindAll_question (binding : Binding) (text : SqlText) :
    (bindAll .question binding text).slots = binding.slots ++ text.slots := by
  induction text generalizing binding with
  | nil => simp [bindAll, slots]
  | cons fragment rest induction =>
      cases fragment with
      | text part => exact induction binding
      | slot key slot => simp [bindAll, induction, Binding.bind, slots]

theorem count_written (plain : text.Plain '?') :
    (written .question binding text).toList.count '?' = text.slots.length := by
  induction text generalizing binding with
  | nil => rfl
  | cons fragment rest induction =>
      cases fragment with
      | text part =>
          obtain ⟨here, later⟩ := plain_text_iff.mp plain
          rw [written_text, String.toList_append, List.count_append,
            List.count_eq_zero.mpr here, induction later, Nat.zero_add]
          rfl
      | slot key slot =>
          rw [written_slot, String.toList_append, List.count_append,
            induction (plain_slot_iff.mp plain), MarkerStyle.marker_toList]
          simp [MarkerStyle.sign, MarkerStyle.digits, slots, Nat.add_comm]

/-! ## Signs and their slots -/

private theorem split_at_sign {left rest before after : List Char} {sign : Char}
    (absent : sign ∉ left) (equality : left ++ rest = before ++ sign :: after) :
    ∃ more, before = left ++ more ∧ rest = more ++ sign :: after := by
  rcases List.append_eq_append_iff.mp equality with ⟨more, beforeShape, restShape⟩ |
    ⟨more, leftShape, signShape⟩
  · exact ⟨more, beforeShape, restShape⟩
  · cases more with
    | nil => exact ⟨[], by simpa using leftShape.symm, by simpa using signShape.symm⟩
    | cons c more =>
        obtain ⟨rfl, _⟩ := List.cons.inj signShape
        exact (absent (by simp [leftShape])).elim

/-- Every sign in a written text is that of a slot, in its place. -/
theorem slot_of_sign (style : MarkerStyle) {binding : Binding}
    (plain : text.Plain style.sign) {before after : List Char}
    (found : (written style binding text).toList = before ++ style.sign :: after) :
    ∃ left key slot right, text = left ++ .slot key slot :: right ∧
      before = (written style binding left).toList ∧
      after =
        style.digits ((bindAll style binding left).numberFor style key) ++
          (written style ((bindAll style binding left).bind style key slot).2 right).toList := by
  induction text generalizing binding before with
  | nil => simp at found
  | cons fragment rest induction =>
      cases fragment with
      | text part =>
          obtain ⟨here, later⟩ := plain_text_iff.mp plain
          rw [written_text, String.toList_append] at found
          obtain ⟨more, rfl, restShape⟩ := split_at_sign here found
          obtain ⟨left, key, slot, right, rfl, rfl, rfl⟩ := induction later restShape
          exact ⟨.text part :: left, key, slot, right, rfl,
            by rw [written_text, String.toList_append], rfl⟩
      | slot firstKey firstSlot =>
          rw [written_slot, String.toList_append, MarkerStyle.marker_toList] at found
          cases before with
          | nil =>
              obtain ⟨_, rfl⟩ := List.cons.inj found
              exact ⟨[], firstKey, firstSlot, rest, rfl, rfl, rfl⟩
          | cons c before =>
              obtain ⟨rfl, digitsShape⟩ := List.cons.inj found
              obtain ⟨more, rfl, restShape⟩ :=
                split_at_sign (style.sign_not_mem_digits _) digitsShape
              obtain ⟨left, key, slot, right, rfl, rfl, rfl⟩ :=
                induction (plain_slot_iff.mp plain) restShape
              refine ⟨.slot firstKey firstSlot :: left, key, slot, right, rfl, ?_, rfl⟩
              rw [written_slot, String.toList_append, MarkerStyle.marker_toList]
              rfl

theorem Separated.of_append (separated : Separated (left ++ right)) :
    Separated right := by
  induction left with
  | nil => exact separated
  | cons fragment rest induction =>
      cases fragment with
      | text part => exact induction separated
      | slot key slot => exact induction separated.2

end SqlText

end RowPlan
