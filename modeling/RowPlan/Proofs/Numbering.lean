import Mathlib.Data.List.Basic
import RowPlan.Proofs.MarkedText

/-!
# Numbering of slots

With numbered markers a slot whose key has been bound before gets the number of that
slot, and every other slot the next number. The invariant of the binding is that each
number leads to a slot of its key.
-/

namespace RowPlan

theorem getElem?_of_begins {A : Type} {before after : List A} {index : Nat}
    {value : A} (begins : before <+: after) (found : before[index]? = some value) :
    after[index]? = some value := by
  obtain ⟨rest, rfl⟩ := begins
  obtain ⟨bound, rfl⟩ := List.getElem?_eq_some_iff.mp found
  simp [List.getElem?_append_left bound]

namespace Binding

/-- The slots with a key that have been bound are `seen`: each of their keys has a
number, and the number of a key is that of a slot with this key. -/
structure Follows (binding : Binding) (seen : List (String × BindSlot)) : Prop where
  slotOf : ∀ key number, binding.numbers.lookup key = some number →
    1 ≤ number ∧ ∃ slot, binding.slots[number - 1]? = some slot ∧ (key, slot) ∈ seen
  known : ∀ key slot, (key, slot) ∈ seen →
    ∃ number, binding.numbers.lookup key = some number

theorem follows_nil : Follows {} [] where
  slotOf key number found := by cases found
  known key slot member := by cases member

/-- All that binding a numbered slot does. -/
theorem bind_numbered (binding : Binding) (key : Option String) (slot : BindSlot) :
    (∃ name number, key = some name ∧ binding.numbers.lookup name = some number ∧
      binding.numberFor .numbered key = number ∧
      (binding.bind .numbered key slot).2 = binding) ∨
    ((∀ name, key = some name → binding.numbers.lookup name = none) ∧
      binding.numberFor .numbered key = binding.slots.length + 1 ∧
      (binding.bind .numbered key slot).2 =
        { slots := binding.slots ++ [slot]
          numbers := match key with
            | some name => (name, binding.slots.length + 1) :: binding.numbers
            | none => binding.numbers }) := by
  cases key with
  | none =>
      refine .inr ⟨?_, rfl, rfl⟩
      intro name named
      cases named
  | some name =>
      cases found : binding.numbers.lookup name with
      | some number =>
          exact .inl ⟨name, number, rfl, found, by simp [numberFor, found],
            by simp [bind, found]⟩
      | none =>
          refine .inr ⟨?_, by simp [numberFor, found], by simp [bind, found]⟩
          intro other named
          cases named
          exact found

/-- What is bound stays in its place. -/
theorem bind_keeps_slots (binding : Binding) (key : Option String) (slot : BindSlot) :
    binding.slots <+: (binding.bind .numbered key slot).2.slots := by
  rcases binding.bind_numbered key slot with ⟨_, _, _, _, _, same⟩ | ⟨_, _, next⟩
  · refine ⟨[], ?_⟩
    rw [same, List.append_nil]
  · rw [next]
    exact List.prefix_append _ _

theorem lookup_bind_of_ne {binding : Binding} {name : String} {key : Option String}
    {slot : BindSlot} (different : key ≠ some name) :
    (binding.bind .numbered key slot).2.numbers.lookup name =
      binding.numbers.lookup name := by
  rcases binding.bind_numbered key slot with ⟨_, _, _, _, _, same⟩ | ⟨_, _, next⟩
  · rw [same]
  · rw [next]
    cases key with
    | none => rfl
    | some other =>
        have apart : name ≠ other := fun same => different (congrArg some same.symm)
        simp [List.lookup_cons, beq_eq_false_iff_ne.mpr apart]

theorem bind_lookup {binding : Binding} {name : String} {number : Nat}
    (found : binding.numbers.lookup name = some number) (key : Option String)
    (slot : BindSlot) :
    (binding.bind .numbered key slot).2.numbers.lookup name = some number := by
  by_cases same : key = some name
  · rcases binding.bind_numbered key slot with ⟨_, _, _, _, _, kept⟩ | ⟨unknown, _⟩
    · rw [kept, found]
    · simp [unknown name same] at found
  · rw [lookup_bind_of_ne same, found]

end Binding

/-- The key of a fragment with its slot, if it has one. -/
def keyedSlot (key : Option String) (slot : BindSlot) : List (String × BindSlot) :=
  match key with
  | some name => [(name, slot)]
  | none => []

namespace Binding

variable {binding : Binding} {seen : List (String × BindSlot)}

/-- The slot that a number leads to: the slot itself if it has no key, else a slot of
its key. -/
theorem Follows.slot_of_number (follows : binding.Follows seen) (key : Option String)
    (slot : BindSlot) :
    1 ≤ binding.numberFor .numbered key ∧
      ∃ bound,
        (binding.bind .numbered key slot).2.slots[binding.numberFor .numbered key - 1]? =
          some bound ∧
        (key = none → bound = slot) ∧
        ∀ name, key = some name →
          (name, bound) ∈ seen ++ keyedSlot key slot ∧
            (binding.bind .numbered key slot).2.numbers.lookup name =
              some (binding.numberFor .numbered key) := by
  rcases binding.bind_numbered key slot with
    ⟨name, number, rfl, found, sameNumber, same⟩ | ⟨_, nextNumber, next⟩
  · obtain ⟨positive, bound, atNumber, member⟩ := follows.slotOf name number found
    rw [sameNumber, same]
    refine ⟨positive, bound, atNumber, ?_, ?_⟩
    · intro keyless
      cases keyless
    · intro other named
      cases named
      exact ⟨List.mem_append_left _ member, found⟩
  · rw [nextNumber, next]
    refine ⟨by omega, slot, by simp, fun _ => rfl, ?_⟩
    rintro name rfl
    exact ⟨List.mem_append_right _ List.mem_cons_self, by simp⟩

theorem Follows.bind (follows : binding.Follows seen) (key : Option String)
    (slot : BindSlot) :
    (binding.bind .numbered key slot).2.Follows (seen ++ keyedSlot key slot) where
  slotOf name number found := by
    by_cases bound : key = some name
    · obtain ⟨positive, slot, atNumber, _, named⟩ := follows.slot_of_number key slot
      obtain ⟨member, here⟩ := named name bound
      obtain rfl := Option.some.inj (here.symm.trans found)
      exact ⟨positive, slot, atNumber, member⟩
    · rw [lookup_bind_of_ne bound] at found
      obtain ⟨positive, old, atNumber, member⟩ := follows.slotOf name number found
      exact ⟨positive, old, getElem?_of_begins (binding.bind_keeps_slots key slot) atNumber,
        List.mem_append_left _ member⟩
  known name bound member := by
    rcases List.mem_append.mp member with old | new
    · obtain ⟨number, found⟩ := follows.known name bound old
      exact ⟨number, bind_lookup found key slot⟩
    · cases key with
      | none => cases new
      | some other =>
          obtain ⟨rfl, _⟩ := Prod.mk.inj (List.mem_singleton.mp new)
          obtain ⟨_, _, _, _, named⟩ := follows.slot_of_number (some name) slot
          exact ⟨_, (named name rfl).2⟩

/-- A number is one in use, or the next one and then a slot is added. -/
theorem Follows.number_cases (follows : binding.Follows seen) (key : Option String)
    (slot : BindSlot) :
    (1 ≤ binding.numberFor .numbered key ∧
      binding.numberFor .numbered key ≤ binding.slots.length ∧
      (binding.bind .numbered key slot).2.slots.length = binding.slots.length) ∨
    (binding.numberFor .numbered key = binding.slots.length + 1 ∧
      (binding.bind .numbered key slot).2.slots.length = binding.slots.length + 1) := by
  rcases binding.bind_numbered key slot with
    ⟨name, number, _, found, sameNumber, same⟩ | ⟨_, nextNumber, next⟩
  · obtain ⟨positive, bound, atNumber, _⟩ := follows.slotOf name number found
    obtain ⟨below, _⟩ := List.getElem?_eq_some_iff.mp atNumber
    rw [sameNumber, same]
    exact .inl ⟨positive, by omega, rfl⟩
  · rw [nextNumber, next]
    exact .inr ⟨rfl, by simp⟩

end Binding

namespace SqlText

variable {binding : Binding} {seen : List (String × BindSlot)}

theorem keyed_slot (key : Option String) (slot : BindSlot) (rest : SqlText) :
    keyed (.slot key slot :: rest) = keyedSlot key slot ++ keyed rest := by
  cases key with
  | none => rfl
  | some name => rfl

theorem follows_bindAll (follows : binding.Follows seen) (text : SqlText) :
    (bindAll .numbered binding text).Follows (seen ++ text.keyed) := by
  induction text generalizing binding seen with
  | nil => simpa [keyed, bindAll] using follows
  | cons fragment rest induction =>
      cases fragment with
      | text part => exact induction follows
      | slot key slot =>
          rw [keyed_slot, ← List.append_assoc]
          exact induction (follows.bind key slot)

theorem bindAll_keeps_slots (binding : Binding) (text : SqlText) :
    binding.slots <+: (bindAll .numbered binding text).slots := by
  induction text generalizing binding with
  | nil => exact List.prefix_rfl
  | cons fragment rest induction =>
      cases fragment with
      | text part => exact induction binding
      | slot key slot =>
          exact (binding.bind_keeps_slots key slot).trans (induction _)

theorem lookup_bindAll {name : String} {number : Nat}
    (found : binding.numbers.lookup name = some number) (text : SqlText) :
    (bindAll .numbered binding text).numbers.lookup name = some number := by
  induction text generalizing binding with
  | nil => exact found
  | cons fragment rest induction =>
      cases fragment with
      | text part => exact induction found
      | slot key slot => exact induction (Binding.bind_lookup found key slot)

/-! ## The numbers of a text -/

theorem mem_numbers_bounds (follows : binding.Follows seen) (text : SqlText) :
    ∀ number, number ∈ numbers binding text →
      1 ≤ number ∧ number ≤ (bindAll .numbered binding text).slots.length := by
  induction text generalizing binding seen with
  | nil => simp [numbers]
  | cons fragment rest induction =>
      cases fragment with
      | text part => exact induction follows
      | slot key slot =>
          refine List.forall_mem_cons.mpr ⟨?_, induction (follows.bind key slot)⟩
          have grows := (bindAll_keeps_slots (binding.bind .numbered key slot).2 rest).length_le
          have cases := follows.number_cases key slot
          rw [bindAll]
          omega

theorem mem_numbers_of_added (follows : binding.Follows seen) (text : SqlText)
    {number : Nat} (added : binding.slots.length < number)
    (bound : number ≤ (bindAll .numbered binding text).slots.length) :
    number ∈ numbers binding text := by
  induction text generalizing binding seen with
  | nil =>
      simp only [bindAll] at bound
      omega
  | cons fragment rest induction =>
      cases fragment with
      | text part => exact induction follows added bound
      | slot key slot =>
          rw [numbers, List.mem_cons]
          rcases follows.number_cases key slot with ⟨_, _, same⟩ | ⟨here, next⟩
          · exact .inr (induction (follows.bind key slot) (by omega) bound)
          · by_cases first : number = binding.slots.length + 1
            · exact .inl (first.trans here.symm)
            · exact .inr (induction (follows.bind key slot) (by omega) bound)

theorem idxOf_numbers (follows : binding.Follows seen) (text : SqlText) {number : Nat}
    (added : binding.slots.length < number)
    (bound : number + 1 ≤ (bindAll .numbered binding text).slots.length) :
    (numbers binding text).idxOf number < (numbers binding text).idxOf (number + 1) := by
  induction text generalizing binding seen with
  | nil =>
      simp only [bindAll] at bound
      omega
  | cons fragment rest induction =>
      cases fragment with
      | text part => exact induction follows added bound
      | slot key slot =>
          rw [numbers]
          rcases follows.number_cases key slot with ⟨_, inUse, same⟩ | ⟨here, next⟩
          · have later := induction (follows.bind key slot) (by omega) bound
            rw [List.idxOf_cons_ne _ (by omega), List.idxOf_cons_ne _ (by omega)]
            omega
          · rw [here, List.idxOf_cons_ne _ (by omega : binding.slots.length + 1 ≠ number + 1)]
            by_cases first : number = binding.slots.length + 1
            · rw [first, List.idxOf_cons_self]
              omega
            · have later := induction (follows.bind key slot) (by omega) bound
              rw [List.idxOf_cons_ne _ (by omega)]
              omega

/-! ## Slots read by their numbers -/

/-- The slots that numbers lead to, one for each number. -/
def slotsByNumber (numbers : List Nat) (slots : List BindSlot) : List (Option BindSlot) :=
  numbers.map fun number => slots[number - 1]?

section

variable {A : Type} (view : BindSlot → A)

/-- The slots of one key look the same. -/
def KeysAgree (keyed : List (String × BindSlot)) : Prop :=
  ∀ name slot other, (name, slot) ∈ keyed → (name, other) ∈ keyed → view slot = view other

/-- Where the slots of a key look the same, the numbers lead to slots that look like
those of the text. -/
theorem slotsByNumber_of_keysAgree (follows : binding.Follows seen) (text : SqlText)
    (agree : KeysAgree view (seen ++ text.keyed)) :
    (slotsByNumber (numbers binding text) (bindAll .numbered binding text).slots).map
        (Option.map view) =
      text.slots.map fun slot => some (view slot) := by
  induction text generalizing binding seen with
  | nil => rfl
  | cons fragment rest induction =>
      cases fragment with
      | text part => exact induction follows agree
      | slot key slot =>
          rw [keyed_slot, ← List.append_assoc] at agree
          have later := induction (follows.bind key slot) agree
          obtain ⟨_, bound, atNumber, keyless, named⟩ := follows.slot_of_number key slot
          have kept := getElem?_of_begins
            (bindAll_keeps_slots (binding.bind .numbered key slot).2 rest) atNumber
          have same : view bound = view slot := by
            cases key with
            | none => rw [keyless rfl]
            | some name =>
                apply agree name bound slot
                · exact List.mem_append_left _ (named name rfl).1
                · exact List.mem_append_left _
                    (List.mem_append_right _ List.mem_cons_self)
          refine List.cons_eq_cons.mpr ⟨?_, later⟩
          exact (congrArg (Option.map view) kept).trans (congrArg some same)

end

/-- Where the numbers lead to the slots of the text, the number of a key leads to the
slot of each of its occurrences. -/
theorem slot_of_lookup (follows : binding.Follows seen) (text : SqlText)
    (same : slotsByNumber (numbers binding text) (bindAll .numbered binding text).slots =
      text.slots.map some) :
    ∀ name slot, (name, slot) ∈ text.keyed → ∃ number,
      (bindAll .numbered binding text).numbers.lookup name = some number ∧
        (bindAll .numbered binding text).slots[number - 1]? = some slot := by
  induction text generalizing binding seen with
  | nil =>
      intro name slot member
      cases member
  | cons fragment rest induction =>
      cases fragment with
      | text part => exact induction follows same
      | slot key slot =>
          obtain ⟨here, later⟩ := List.cons_eq_cons.mp same
          intro name other member
          rw [keyed_slot] at member
          rcases List.mem_append.mp member with first | inRest
          · cases key with
            | none => cases first
            | some key =>
                obtain ⟨rfl, rfl⟩ := Prod.mk.inj (List.mem_singleton.mp first)
                obtain ⟨_, _, _, _, named⟩ := follows.slot_of_number (some name) other
                exact ⟨_, lookup_bindAll (named name rfl).2 rest, here⟩
          · exact induction (follows.bind key slot) later name other inRest

/-- The numbers lead to the slots of the text exactly where each key has one slot. -/
theorem slotsByNumber_eq_iff (text : SqlText) :
    slotsByNumber (numbers {} text) (bindAll .numbered {} text).slots =
        text.slots.map some ↔
      KeysAgree id text.keyed := by
  constructor
  · intro same name slot other member otherMember
    obtain ⟨number, found, atNumber⟩ :=
      slot_of_lookup Binding.follows_nil text same name slot member
    obtain ⟨otherNumber, otherFound, atOther⟩ :=
      slot_of_lookup Binding.follows_nil text same name other otherMember
    obtain rfl := Option.some.inj (found.symm.trans otherFound)
    exact Option.some.inj (atNumber.symm.trans atOther)
  · intro agree
    simpa using slotsByNumber_of_keysAgree id Binding.follows_nil text agree

end SqlText

end RowPlan
